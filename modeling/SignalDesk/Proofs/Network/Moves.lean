import Mathlib.Logic.Relation
import SignalDesk.Proofs.Network.Within

/-!
# Moves

Programs beside each other move one at a time. What is left of a program after a move keeps to its
bounds (`Within.move`), up to a change that commits it to others (`Until.move`), and to the number
of requests that it may still send (`Left.move`). What holds when a program ends whose state others
may change before any of its moves (`Program.Amid`) goes on holding while they do (`Amid.later`) and
while the program moves (`Amid.move`).
-/

namespace SignalDesk

/-- One move of a program: it hears a reply, its second is over, its turn comes, or it acts. -/
inductive Program.Move {σ α : Type} : Program σ α × σ → Program σ α × σ → Prop where
  | hear (r : Request) (k : Reply → Program σ α) (reply : Reply) (s : σ) :
      Move (.ask r k, s) (k reply, s)
  | wake (p : Program σ α) (s : σ) : Move (.pause p, s) (p, s)
  | turn (p : Program σ α) (s : σ) : Move (.turn p, s) (p, s)
  | act (f : σ → σ) (k : σ → Program σ α) (s : σ) : Move (.act f k, s) (k s, f s)

section Moves

variable {σ α ν : Type} {p p' : Program σ α} {s s' : σ}

/-- In surroundings that leave the state alone, a run is a sequence of moves. -/
theorem Program.run_moves (p : Program σ α) {around : Surroundings σ ν}
    (alone : around.Within fun s s' => s' = s) (w : σ × ν) :
    Relation.ReflTransGen Move (p, w.1) (.done (p.run around w).1, (p.run around w).2.1) := by
  induction p generalizing w with
  | done a => exact .refl
  | ask r k ih =>
    have rest := ih (around.reply r w).1 (around.reply r w).2
    rw [alone.reply r w] at rest
    exact .head (.hear r k _ w.1) rest
  | pause p ih =>
    have rest := ih (around.second w)
    rw [alone.second w] at rest
    exact .head (.wake p w.1) rest
  | turn p ih => exact .head (.turn p w.1) (ih w)
  | act f k ih => exact .head (.act f k w.1) (ih w.1 (f w.1, w.2))

/-- What is put after a program does not hinder it. -/
theorem Program.Move.bind {β : Type} (m : Move (p, s) (p', s')) (g : α → Program σ β) :
    Move (p.bind g, s) (p'.bind g, s') := by
  cases m with
  | hear r k reply => exact .hear r (fun reply => (k reply).bind g) reply s
  | wake => exact .wake (p'.bind g) s
  | turn => exact .turn (p'.bind g) s
  | act f k => exact .act f (fun s => (k s).bind g) s

/-- A move of programs put together is one of the first, as long as that has not ended. -/
theorem Program.Move.of_bind {β : Type} {g : α → Program σ β} {q : Program σ β}
    (m : Move (p.bind g, s) (q, s')) :
    (∃ p', Move (p, s) (p', s') ∧ q = p'.bind g) ∨ ∃ a, p = .done a := by
  cases p with
  | done a => exact .inr ⟨a, rfl⟩
  | ask r k =>
    cases m with
    | hear _ _ reply => exact .inl ⟨k reply, .hear r k reply s, rfl⟩
  | pause p =>
    cases m
    exact .inl ⟨p, .wake p s, rfl⟩
  | turn p =>
    cases m
    exact .inl ⟨p, .turn p s, rfl⟩
  | act f k =>
    cases m
    exact .inl ⟨k s, .act f k s, rfl⟩

theorem Program.Move.of_map {β : Type} {f : α → β} {q : Program σ β}
    (m : Move (p.map f, s) (q, s')) : ∃ p', Move (p, s) (p', s') ∧ q = p'.map f := by
  rcases of_bind m with moves | ⟨a, rfl⟩
  · exact moves
  · exact nomatch m

theorem Program.moves_bind {β : Type} (g : α → Program σ β)
    (moves : Relation.ReflTransGen Move (p, s) (p', s')) :
    Relation.ReflTransGen Move (p.bind g, s) (p'.bind g, s') :=
  moves.lift (fun x : Program σ α × σ => (x.1.bind g, x.2)) fun _ _ m => m.bind g

/-- A move keeps to the bounds of its program. -/
theorem Program.Within.move {P : Request → Prop} {R : σ → σ → Prop} {Q : α → Prop}
    (h : p.Within P R Q) (refl : ∀ s, R s s) (m : Program.Move (p, s) (p', s')) :
    p'.Within P R Q ∧ R s s' := by
  cases m with
  | hear r k reply => exact ⟨h.2 reply, refl s⟩
  | wake => exact ⟨h, refl s⟩
  | turn => exact ⟨h, refl s⟩
  | act f k => exact ⟨(h s).2, (h s).1⟩

end Moves

namespace Program

variable {σ α β : Type} {p p' : Program σ α} {s s' : σ}

/-- What is left of a program that has stopped once it hears a reply or its turn comes. -/
def resume (reply : Reply) : Program σ α → Program σ α
  | ask _ k => k reply
  | pause p => p
  | turn p => p
  | p => p

/-- A segment of a program: it goes on from where it has stopped, and acts until it stops again. -/
def Segment (before after : Program σ α × σ) : Prop :=
  ∃ reply, after = (before.1.resume reply).advance before.2

section Segments

variable {P : Request → Prop} {R : σ → σ → Prop} {Q : α → Prop}

theorem Within.resume (h : p.Within P R Q) (reply : Reply) : (p.resume reply).Within P R Q := by
  cases p with
  | ask r k => exact h.2 reply
  | _ => exact h

theorem Within.advance (h : p.Within P R Q) (refl : ∀ s, R s s)
    (trans : ∀ {s t u}, R s t → R t u → R s u) (s : σ) :
    (p.advance s).1.Within P R Q ∧ R s (p.advance s).2 := by
  induction p generalizing s with
  | act f k ih =>
    obtain ⟨made, rest⟩ := h s
    obtain ⟨within, later⟩ := ih s rest (f s)
    exact ⟨within, trans made later⟩
  | _ => exact ⟨h, refl s⟩

/-- A segment keeps to the bounds of its program. -/
theorem Within.segment (h : p.Within P R Q) (refl : ∀ s, R s s)
    (trans : ∀ {s t u}, R s t → R t u → R s u) (step : Segment (p, s) (p', s')) :
    p'.Within P R Q ∧ R s s' := by
  obtain ⟨reply, stopped⟩ := step
  have bounds := (h.resume reply).advance refl trans s
  rwa [← stopped] at bounds

end Segments

section Until

variable {P : Request → Prop} {R : σ → σ → Prop} {Q : α → Prop} {Q' : β → Prop}
  {C : σ → σ → Program σ α → Prop} {C' : σ → σ → Program σ β → Prop}

/-- Whether a program keeps to bounds until a change that `C` tells of, together with what is left
of the program then. -/
def Until (P : Request → Prop) (R : σ → σ → Prop) (Q : α → Prop)
    (C : σ → σ → Program σ α → Prop) : Program σ α → Prop
  | done a => Q a
  | ask r k => P r ∧ ∀ reply, Until P R Q C (k reply)
  | pause p => Until P R Q C p
  | turn p => Until P R Q C p
  | act f k => ∀ s, R s (f s) ∧ Until P R Q C (k s) ∨ C s (f s) (k s)

/-- A program within bounds goes on to one that keeps to them until it commits itself. -/
theorem Within.until_bind {g : α → Program σ β} (h : p.Within P R Q)
    (hg : ∀ a, Q a → (g a).Until P R Q' C') : (p.bind g).Until P R Q' C' := by
  induction p with
  | done a => exact hg a h
  | ask r k ih => exact ⟨h.1, fun reply => ih reply (h.2 reply)⟩
  | pause p ih => exact ih h
  | turn p ih => exact ih h
  | act f k ih => exact fun s => .inl ⟨(h s).1, ih s (h s).2⟩

/-- A move keeps to the bounds of its program, or commits it. -/
theorem Until.move (h : p.Until P R Q C) (refl : ∀ s, R s s) (m : Move (p, s) (p', s')) :
    R s s' ∧ p'.Until P R Q C ∨ C s s' p' := by
  cases m with
  | hear r k reply => exact .inl ⟨refl s, h.2 reply⟩
  | wake => exact .inl ⟨refl s, h⟩
  | turn => exact .inl ⟨refl s, h⟩
  | act f k => exact h s

end Until

/-- The request whose reply a program waits for. -/
def asks? : Program σ α → Option Request
  | ask r _ => some r
  | _ => none

theorem Until.asks {P : Request → Prop} {R : σ → σ → Prop} {Q : α → Prop}
    {C : σ → σ → Program σ α → Prop} (h : p.Until P R Q C) {r : Request}
    (asked : p.asks? = some r) : P r := by
  cases p with
  | ask r k =>
    obtain rfl := Option.some.inj asked
    exact h.1
  | _ => exact nomatch asked

variable {P P' : Request → Prop} {n m : Nat}

/-- Whether a program sends no more than `n` requests of `P`, whatever it hears. -/
def AtMost (P : Request → Prop) : Program σ α → Nat → Prop
  | done _, _ => True
  | ask r k, n => ∃ m, m ≤ n ∧ (P r → m < n) ∧ ∀ reply, AtMost P (k reply) m
  | pause p, n => AtMost P p n
  | turn p, n => AtMost P p n
  | act _ k, n => ∀ s, AtMost P (k s) n

/-- Whether a program that waits for a reply, or for nothing, sends no more than `n` requests of `P`
from there on. -/
def Left (P : Request → Prop) : Program σ α → Nat → Prop
  | ask _ k, n => ∀ reply, AtMost P (k reply) n
  | p, n => AtMost P p n

theorem AtMost.mono (h : p.AtMost P n) (le : n ≤ m) : p.AtMost P m := by
  induction p generalizing n m with
  | done a => trivial
  | ask r k ih =>
    obtain ⟨l, hl, strict, rest⟩ := h
    exact ⟨l, Nat.le_trans hl le, fun hr => Nat.lt_of_lt_of_le (strict hr) le, rest⟩
  | pause p ih => exact ih h le
  | turn p ih => exact ih h le
  | act f k ih => exact fun s => ih s (h s) le

theorem AtMost.bind {g : α → Program σ β} (h : p.AtMost P n) (hg : ∀ a, (g a).AtMost P 0) :
    (p.bind g).AtMost P n := by
  induction p generalizing n with
  | done a => exact (hg a).mono (Nat.zero_le n)
  | ask r k ih =>
    obtain ⟨l, hl, strict, rest⟩ := h
    exact ⟨l, hl, strict, fun reply => ih reply (rest reply)⟩
  | pause p ih => exact ih h
  | turn p ih => exact ih h
  | act f k ih => exact fun s => ih s (h s)

theorem Within.atMost {R : σ → σ → Prop} {Q : α → Prop} (h : p.Within P' R Q)
    (other : ∀ r, P' r → ¬P r) : p.AtMost P 0 := by
  induction p with
  | done a => trivial
  | ask r k ih =>
    exact ⟨0, Nat.le_refl 0, fun hr => absurd hr (other r h.1), fun reply => ih reply (h.2 reply)⟩
  | pause p ih => exact ih h
  | turn p ih => exact ih h
  | act f k ih => exact fun s => ih s (h s).2

/-- Waiting for the reply to another request uses up nothing. -/
theorem AtMost.left (h : p.AtMost P n) : p.Left P n := by
  cases p with
  | ask r k =>
    obtain ⟨l, hl, -, rest⟩ := h
    exact fun reply => (rest reply).mono hl
  | _ => exact h

theorem AtMost.left_asks (h : p.AtMost P n) {r : Request} (asked : p.asks? = some r) (hr : P r) :
    ∃ m, m < n ∧ p.Left P m := by
  cases p with
  | ask r k =>
    obtain rfl := Option.some.inj asked
    obtain ⟨l, -, strict, rest⟩ := h
    exact ⟨l, strict hr, rest⟩
  | _ => exact nomatch asked

theorem Left.move (h : p.Left P n) (m : Move (p, s) (p', s')) : p'.AtMost P n := by
  cases m with
  | hear r k reply => exact h reply
  | wake => exact h
  | turn => exact h
  | act f k => exact h s

end Program

namespace Program

variable {σ α β : Type} {R : σ → σ → Prop} {Q : α → σ → Prop} {p p' : Program σ α} {s s' : σ}

/-- Whether a program that goes on from a state ends in `Q`, whatever it hears, when others change
the state by `R` before each of its moves and after the last. -/
def Amid (R : σ → σ → Prop) (Q : α → σ → Prop) : Program σ α → σ → Prop
  | done a, s => ∀ t, R s t → Q a t
  | ask _ k, s => ∀ t, R s t → ∀ reply, Amid R Q (k reply) t
  | pause p, s => ∀ t, R s t → Amid R Q p t
  | turn p, s => ∀ t, R s t → Amid R Q p t
  | act f k, s => ∀ t, R s t → Amid R Q (k t) (f t)

namespace Amid

theorem later (h : p.Amid R Q s) (trans : ∀ {s t u}, R s t → R t u → R s u) (changed : R s s') :
    p.Amid R Q s' := by
  cases p with
  | done a => exact fun t more => h t (trans changed more)
  | ask r k => exact fun t more => h t (trans changed more)
  | pause p => exact fun t more => h t (trans changed more)
  | turn p => exact fun t more => h t (trans changed more)
  | act f k => exact fun t more => h t (trans changed more)

theorem move (h : p.Amid R Q s) (refl : ∀ s, R s s) (m : Move (p, s) (p', s')) :
    p'.Amid R Q s' := by
  cases m with
  | hear r k reply => exact h s (refl s) reply
  | wake => exact h s (refl s)
  | turn => exact h s (refl s)
  | act f k => exact h s (refl s)

theorem mono {Q' : α → σ → Prop} (h : p.Amid R Q s) (hQ : ∀ a t, Q a t → Q' a t) :
    p.Amid R Q' s := by
  induction p generalizing s with
  | done a => exact fun t changed => hQ a t (h t changed)
  | ask r k ih => exact fun t changed reply => ih reply (h t changed reply)
  | pause p ih => exact fun t changed => ih (h t changed)
  | turn p ih => exact fun t changed => ih (h t changed)
  | act f k ih => exact fun t changed => ih t (h t changed)

theorem bind {Q' : β → σ → Prop} {g : α → Program σ β} (h : p.Amid R Q s) (refl : ∀ s, R s s)
    (hg : ∀ a t, Q a t → (g a).Amid R Q' t) : (p.bind g).Amid R Q' s := by
  induction p generalizing s with
  | done a => exact hg a s (h s (refl s))
  | ask r k ih => exact fun t changed reply => ih reply (h t changed reply)
  | pause p ih => exact fun t changed => ih (h t changed)
  | turn p ih => exact fun t changed => ih (h t changed)
  | act f k ih => exact fun t changed => ih t (h t changed)

/-- A program whose own changes are like those of others leaves what only they could undo. -/
theorem of_within {P : Request → Prop} {R' : σ → σ → Prop} {Q' : α → Prop}
    (h : p.Within P R' Q') (trans : ∀ {s t u}, R s t → R t u → R s u)
    (own : ∀ s t, R' s t → R s t) {start : σ} (reached : R start s) :
    p.Amid R (fun a t => Q' a ∧ R start t) s := by
  induction p generalizing s with
  | done a => exact fun t changed => ⟨h, trans reached changed⟩
  | ask r k ih => exact fun t changed reply => ih reply (h.2 reply) (trans reached changed)
  | pause p ih => exact fun t changed => ih h (trans reached changed)
  | turn p ih => exact fun t changed => ih h (trans reached changed)
  | act f k ih =>
    intro t changed
    obtain ⟨made, rest⟩ := h t
    exact ih t rest (trans (trans reached changed) (own t _ made))

end Amid
end Program
end SignalDesk
