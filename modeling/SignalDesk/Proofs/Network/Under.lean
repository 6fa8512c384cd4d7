import SignalDesk.Proofs.Network.Company

namespace SignalDesk

variable {σ α β ν : Type} {J : σ → Prop} {R : σ → σ → Prop} {Q : α → Prop} {Q' : β → Prop}

/-- Whether a step from a state of `J` leads to another one, by a change of `R`. -/
def Preserves (J : σ → Prop) (R : σ → σ → Prop) (s s' : σ) : Prop := J s → J s' ∧ R s s'

namespace Program

/-- Whether a program that comes upon states of `J` only keeps to them, makes only changes of `R`,
and ends only with results of `Q`. -/
def Under (J : σ → Prop) (R : σ → σ → Prop) (Q : α → Prop) : Program σ α → Prop
  | done a => Q a
  | ask _ k => ∀ reply, Under J R Q (k reply)
  | pause p => Under J R Q p
  | turn p => Under J R Q p
  | act f k => ∀ s, J s → (J (f s) ∧ R s (f s)) ∧ Under J R Q (k s)

namespace Under

theorem bind {p : Program σ α} {g : α → Program σ β} (h : p.Under J R Q)
    (hg : ∀ a, Q a → (g a).Under J R Q') : (p.bind g).Under J R Q' := by
  induction p with
  | done a => exact hg a h
  | ask r k ih => exact fun reply => ih reply (h reply)
  | pause p ih => exact ih h
  | turn p ih => exact ih h
  | act f k ih =>
    intro s holds
    obtain ⟨made, rest⟩ := h s holds
    exact ⟨made, ih s rest⟩

theorem toStop {p : Program σ α} (h : p.Under J R Q) :
    p.toStop.Under J R (Stop.Has (Under J R) Q) := by
  induction p with
  | done a => exact h
  | ask r k ih =>
    simp only [Program.toStop]
    intro reply
    cases reply with
    | silence => exact h .silence
    | answer status body => exact ih _ (h _)
    | fault f => exact ih _ (h _)
  | pause p ih => exact ih h
  | turn p ih => exact h
  | act f k ih =>
    intro s holds
    obtain ⟨made, rest⟩ := h s holds
    exact ⟨made, ih s rest⟩

theorem composes (J : σ → Prop) (R : σ → σ → Prop) : Composes (Under J R) :=
  ⟨fun ha => ha, Under.bind, Under.toStop⟩

/-- What a program does at most, it does under any assumption. -/
theorem of_within {P : Request → Prop} {R' : σ → σ → Prop} {p : Program σ α}
    (h : p.Within P R' Q) (weaker : ∀ s s', R' s s' → Preserves J R s s') : p.Under J R Q := by
  induction p with
  | done a => exact h
  | ask r k ih => exact fun reply => ih reply (h.2 reply)
  | pause p ih => exact ih h
  | turn p ih => exact ih h
  | act f k ih => exact fun s holds => ⟨weaker s (f s) (h s).1 holds, ih s (h s).2⟩

/-- What is read, is read in a state of the assumption. -/
theorem read {f : σ → α} (refl : ∀ s, R s s) :
    (Program.read f).Under J R fun a => ∃ s, J s ∧ a = f s :=
  fun s holds => ⟨⟨holds, refl s⟩, s, holds, rfl⟩

theorem atomically {step : σ → α × σ}
    (h : ∀ s, J s → (J (step s).2 ∧ R s (step s).2) ∧ Q (step s).1) :
    (Program.atomically step).Under J R Q := h

/-- In surroundings that preserve the assumption, a run that starts under it does only what its
program does. -/
theorem run {p : Program σ α} (h : p.Under J R Q) (refl : ∀ s, R s s)
    (trans : ∀ {s t u}, R s t → R t u → R s u) {around : Surroundings σ ν}
    (bounds : around.Within (Preserves J R)) {w : σ × ν} (start : J w.1) :
    J (p.run around w).2.1 ∧ R w.1 (p.run around w).2.1 := by
  induction p generalizing w with
  | done a => exact ⟨start, refl _⟩
  | ask r k ih =>
    obtain ⟨holds, passed⟩ := bounds.reply r w start
    obtain ⟨ends, made⟩ := ih _ (h (around.reply r w).1) (w := (around.reply r w).2) holds
    exact ⟨ends, trans passed made⟩
  | pause p ih =>
    obtain ⟨holds, passed⟩ := bounds.second w start
    obtain ⟨ends, made⟩ := ih h (w := around.second w) holds
    exact ⟨ends, trans passed made⟩
  | turn p ih => exact ih h start
  | act f k ih =>
    obtain ⟨⟨holds, made⟩, rest⟩ := h w.1 start
    obtain ⟨ends, later⟩ := ih w.1 rest (w := (f w.1, w.2)) holds
    exact ⟨ends, trans made later⟩

end Under
end Program
end SignalDesk
