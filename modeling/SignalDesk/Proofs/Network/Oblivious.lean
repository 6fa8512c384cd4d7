import SignalDesk.Proofs.Network.Company

/-!
# Programs that do not tell states apart

A relation between states says what a program may not depend on: from two states that it relates,
the program is to go the same way (`Program.Oblivious`). Two runs in surroundings that do not depend
on it either then come to the same, send the same, and end in related states
(`Program.Oblivious.run`).
-/

namespace SignalDesk

variable {σ α β ν κ : Type}

/-- Whether surroundings do the same in states that `R` relates, and lead to related ones. -/
structure Surroundings.Oblivious (R : σ → σ → Prop) (around : Surroundings σ ν) : Prop where
  reply : ∀ r s s' n, R s s' → ∃ t, around.reply r (s', n) =
    ((around.reply r (s, n)).1, t, (around.reply r (s, n)).2.2) ∧ R (around.reply r (s, n)).2.1 t
  second : ∀ s s' n, R s s' → ∃ t, around.second (s', n) = (t, (around.second (s, n)).2) ∧
    R (around.second (s, n)).1 t

namespace Program

/-- Whether a program goes the same way from all states that `R` relates, keeps them related, and
ends only with results of `Q`. -/
def Oblivious (R : σ → σ → Prop) (Q : α → Prop) : Program σ α → Prop
  | done a => Q a
  | ask _ k => ∀ reply, Oblivious R Q (k reply)
  | pause p => Oblivious R Q p
  | turn p => Oblivious R Q p
  | act f k => ∀ s s', R s s' → R (f s) (f s') ∧ k s' = k s ∧ Oblivious R Q (k s)

namespace Oblivious

variable {R : σ → σ → Prop} {Q : α → Prop} {Q' : β → Prop}

theorem mono {Q' : α → Prop} {p : Program σ α} (h : p.Oblivious R Q) (hQ : ∀ a, Q a → Q' a) :
    p.Oblivious R Q' := by
  induction p with
  | done a => exact hQ a h
  | ask r k ih => exact fun reply => ih reply (h reply)
  | pause p ih => exact ih h
  | turn p ih => exact ih h
  | act f k ih =>
    intro s s' alike
    obtain ⟨related, same, rest⟩ := h s s' alike
    exact ⟨related, same, ih s rest⟩

theorem bind {p : Program σ α} {g : α → Program σ β} (h : p.Oblivious R Q)
    (hg : ∀ a, Q a → (g a).Oblivious R Q') : (p.bind g).Oblivious R Q' := by
  induction p with
  | done a => exact hg a h
  | ask r k ih => exact fun reply => ih reply (h reply)
  | pause p ih => exact ih h
  | turn p ih => exact ih h
  | act f k ih =>
    intro s s' alike
    obtain ⟨related, same, rest⟩ := h s s' alike
    exact ⟨related, congrArg (Program.bind · g) same, ih s rest⟩

theorem map {p : Program σ α} {f : α → β} (h : p.Oblivious R fun a => Q' (f a)) :
    (p.map f).Oblivious R Q' :=
  h.bind fun _ ha => ha

theorem atomically {step : σ → α × σ}
    (h : ∀ s s', R s s' → R (step s).2 (step s').2 ∧ (step s').1 = (step s).1 ∧ Q (step s).1) :
    (Program.atomically step).Oblivious R Q := by
  intro s s' alike
  obtain ⟨related, same, result⟩ := h s s' alike
  exact ⟨related, congrArg done same, result⟩

theorem modify {f : σ → σ} (h : ∀ s s', R s s' → R (f s) (f s')) :
    (Program.modify f).Oblivious R fun _ => True :=
  fun s s' alike => ⟨h s s' alike, rfl, trivial⟩

theorem read {f : σ → α} (h : ∀ s s', R s s' → f s' = f s ∧ Q (f s)) :
    (Program.read f).Oblivious R Q := by
  intro s s' alike
  obtain ⟨same, result⟩ := h s s' alike
  exact ⟨alike, congrArg done same, result⟩

theorem giveWay : (Program.giveWay : Program σ Unit).Oblivious R fun _ => True := trivial

theorem toStop {p : Program σ α} (h : p.Oblivious R Q) :
    p.toStop.Oblivious R (Stop.Has (Oblivious R) Q) := by
  induction p with
  | done a => exact h
  | ask r k ih =>
    simp only [Program.toStop]
    intro reply
    cases reply with
    | silence => exact h .silence
    | answer status body => exact ih _ (h _)
    | fault f => exact ih _ (h _)
  | pause p ih => exact ih h
  | turn p ih => exact h
  | act f k ih =>
    intro s s' alike
    obtain ⟨related, same, rest⟩ := h s s' alike
    exact ⟨related, congrArg Program.toStop same, ih s rest⟩

theorem composes (R : σ → σ → Prop) : Composes (Oblivious R) := ⟨fun ha => ha, bind, toStop⟩

/-- Programs side by side do not tell states apart when none of them does. -/
theorem together {admits : List κ → κ → Bool} {stops : Nat} {programs : List (κ × Program σ α)}
    (h : ∀ x ∈ programs, x.2.Oblivious R Q) :
    (Program.together admits stops programs).Oblivious R fun results => ∀ a ∈ results, Q a :=
  (composes R).together h

/-- What two runs of one program have in common that begin in related states. -/
structure Same (R : σ → σ → Prop) (Q : α → Prop) (around : Surroundings σ ν) (p : Program σ α)
    (w w' : σ × ν) : Prop where
  result : (p.run around w').1 = (p.run around w).1
  ends : Q (p.run around w).1
  state : R (p.run around w).2.1 (p.run around w').2.1
  network : (p.run around w').2.2 = (p.run around w).2.2
  requests : p.requests around w' = p.requests around w

/-- Two runs of a program from related states come to the same. -/
theorem run {p : Program σ α} (h : p.Oblivious R Q) {around : Surroundings σ ν}
    (blind : around.Oblivious R) {s s' : σ} (alike : R s s') (n : ν) :
    Same R Q around p (s, n) (s', n) := by
  induction p generalizing s s' n with
  | done a => exact ⟨rfl, h, alike, rfl, rfl⟩
  | ask r k ih =>
    obtain ⟨t, asked, related⟩ := blind.reply r s s' n alike
    obtain ⟨result, ends, state, network, requests⟩ :=
      ih _ (h (around.reply r (s, n)).1) related (around.reply r (s, n)).2.2
    constructor <;> simp only [Program.run, Program.requests, asked]
    · exact result
    · exact ends
    · exact state
    · exact network
    · exact congrArg _ requests
  | pause p ih =>
    obtain ⟨t, paused, related⟩ := blind.second s s' n alike
    obtain ⟨result, ends, state, network, requests⟩ := ih h related (around.second (s, n)).2
    constructor <;> simp only [Program.run, Program.requests, paused]
    · exact result
    · exact ends
    · exact state
    · exact network
    · exact requests
  | turn p ih =>
    obtain ⟨result, ends, state, network, requests⟩ := ih h alike n
    exact ⟨result, ends, state, network, requests⟩
  | act f k ih =>
    obtain ⟨related, same, rest⟩ := h s s' alike
    obtain ⟨result, ends, state, network, requests⟩ := ih s rest related n
    constructor <;> simp only [Program.run, Program.requests, same]
    · exact result
    · exact ends
    · exact state
    · exact network
    · exact requests

theorem Same.map {p : Program σ α} {f : α → β} {around : Surroundings σ ν} {w w' : σ × ν}
    (same : Same R Q around p w w') : Same R (fun _ => True) around (p.map f) w w' := by
  obtain ⟨result, -, state, network, requests⟩ := same
  constructor <;> simp only [Program.map, run_bind, requests_bind, Program.run, Program.requests,
    List.append_nil]
  · exact congrArg f result
  · exact state
  · exact network
  · exact requests

end Oblivious
end Program
end SignalDesk
