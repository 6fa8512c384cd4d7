import SignalDesk.Proofs.Network.Turns

namespace SignalDesk

variable {σ α β : Type}

namespace Program

/-- Whether a program asks only for `P` and never gives way. -/
def Prompt (P : Request → Prop) : Program σ α → Prop
  | done _ => True
  | ask r k => P r ∧ ∀ reply, Prompt P (k reply)
  | pause p => Prompt P p
  | turn _ => False
  | act _ k => ∀ s, Prompt P (k s)

theorem Prompt.bind {P : Request → Prop} {p : Program σ α} {g : α → Program σ β} (h : p.Prompt P)
    (hg : ∀ a, (g a).Prompt P) : (p.bind g).Prompt P := by
  induction p with
  | done a => exact hg a
  | ask r k ih => exact ⟨h.1, fun reply => ih reply (h.2 reply)⟩
  | pause p ih => exact ih h
  | turn p => exact h.elim
  | act f k ih => exact fun s => ih s (h s)

theorem map_bind {γ : Type} (p : Program σ α) (g : α → Program σ β) (f : β → γ) :
    (p.bind g).map f = p.bind fun a => (g a).map f := by
  induction p with
  | done a => rfl
  | ask r k ih => exact congrArg (ask r) (funext ih)
  | pause p ih => exact congrArg pause ih
  | turn p ih => exact congrArg turn ih
  | act h k ih => exact congrArg (act h) (funext ih)

variable {t : Terms σ} {s : σ}

theorem Keeps.of_toStop {Q : α → σ → Prop} {p : Program σ α} (refl : ∀ s, t.rely s s)
    (h : p.toStop.Keeps t (Stop.Keeps t Q) s) : p.Keeps t Q s := by
  induction p generalizing s with
  | done a => exact h
  | ask r k ih =>
    simp only [Program.toStop] at h
    refine ⟨h.1, fun reply heard s' later => ?_⟩
    have next := h.2 reply heard s' later
    cases reply with
    | silence => exact next s' (refl s')
    | answer status body => exact ih _ next
    | fault f => exact ih _ next
  | pause p ih => exact fun s' later => ih (h s' later)
  | turn p => exact h
  | act f k ih => exact ⟨h.1, ih s h.2⟩

end Program

/-- The terms of programs that count on no state and make no other changes than `R`. -/
def Terms.after (t : Terms σ) (R : σ → σ → Prop) : Terms σ :=
  ⟨t.hears, fun _ _ => True, t.sends, R⟩

/-- Whether a program ends in `Q`, whatever becomes of the state. -/
def Program.Sure (t : Terms σ) (R : σ → σ → Prop) (Q : α → Prop) (p : Program σ α) : Prop :=
  ∀ s, p.Keeps (t.after R) (fun a _ => Q a) s

/-- Whether a program that came to a stop ends in `Q`, whatever becomes of the state. -/
def Stop.Sure (t : Terms σ) (R : σ → σ → Prop) (Q : α → Prop) : Stop σ α → Prop
  | .ended a => Q a
  | .gaveWay p => p.Sure t R Q
  | .silence p => p.Sure t R Q

section Sure

variable {t : Terms σ} {R : σ → σ → Prop} {Q : α → Prop} {J : σ → Prop}

/-- The bounds within which a company of programs that are sure of their ends keeps `J`. -/
structure Terms.Leaves (t : Terms σ) (R : σ → σ → Prop) (J : σ → Prop) : Prop where
  makes : ∀ s s', t.makes s s'
  others : t.Stable J
  own : ∀ s s', R s s' → J s → J s'

theorem Program.Sure.keeps {p : Program σ α} (h : p.Sure t R Q) (leaves : t.Leaves R J) {s : σ}
    (start : J s) : p.Keeps t (fun a s => Q a ∧ J s) s :=
  (h s).frame start (fun _ _ heard => heard)
    (fun s s' holds later => ⟨trivial, leaves.others s s' later holds⟩) (fun _ sent => sent)
    fun s s' holds made => ⟨leaves.makes s s', leaves.own s s' made holds⟩

/-- The first stop of a program that is sure of its end. -/
theorem Program.Sure.toStop {p : Program σ α} (h : p.Sure t R Q) (leaves : t.Leaves R J) {s : σ}
    (start : J s) : p.toStop.Keeps t (fun stop s => stop.Sure t R Q ∧ J s) s := by
  have kept := ((h s).toStop fun _ _ => trivial).frame (u := t) start (fun _ _ heard => heard)
    (fun s s' holds later => ⟨trivial, leaves.others s s' later holds⟩) (fun _ sent => sent)
    fun s s' holds made => ⟨leaves.makes s s', leaves.own s s' made holds⟩
  refine kept.mono fun stop s' ⟨stopped, holds⟩ => ⟨?_, holds⟩
  cases stop with
  | ended a => exact stopped
  | gaveWay p => exact fun s'' => stopped s'' trivial
  | silence p => exact fun s'' => stopped s'' trivial

theorem Stop.Sure.mono {P : α → Prop} {stop : Stop σ α} (h : stop.Sure t R P)
    (weaker : ∀ a, P a → Q a) : stop.Sure t R Q := by
  cases stop with
  | ended a => exact weaker a h
  | gaveWay p => exact fun s => (h s).mono fun a _ => weaker a
  | silence p => exact fun s => (h s).mono fun a _ => weaker a

theorem Stop.Sure.keeps {stop : Stop σ α} (h : stop.Sure t R Q) (leaves : t.Leaves R J) {s : σ}
    (holds : J s) : stop.Keeps t (fun a s => Q a ∧ J s) s := by
  cases stop with
  | ended a => exact ⟨h, holds⟩
  | gaveWay p =>
    intro s' later
    exact Program.Sure.keeps h leaves (leaves.others s s' later holds)
  | silence p =>
    intro s' later
    exact Program.Sure.keeps h leaves (leaves.others s s' later holds)

end Sure

end SignalDesk
