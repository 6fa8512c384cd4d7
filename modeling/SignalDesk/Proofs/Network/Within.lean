import SignalDesk.Network.Program

/-!
# Programs within bounds

What a program does at most, whatever it hears and whatever becomes of the state while it waits:
the requests that it sends, the changes that it makes, and what it ends with. Programs put together
keep to the bounds of their parts (`Within.bind`), and a run keeps to those of its program
(`Within.run`). Where each request gets a settled reply and nobody else changes the state, a run ends
as its program comes to by itself (`run_still`), whatever the surroundings keep for themselves.
-/

namespace SignalDesk

variable {σ α β ν : Type}

namespace Program

@[simp] theorem pure_eq_done (a : α) : (pure a : Program σ α) = done a := rfl

@[simp] theorem monad_bind_eq (p : Program σ α) (g : α → Program σ β) : p >>= g = p.bind g := rfl

theorem bind_done (p : Program σ α) : p.bind done = p := by
  induction p with
  | done a => rfl
  | ask r k ih => simp only [bind, ih]
  | pause p ih => simp only [bind, ih]
  | turn p ih => simp only [bind, ih]
  | act f k ih => simp only [bind, ih]

/-- The requests of a run, in order. -/
def requests (around : Surroundings σ ν) : Program σ α → σ × ν → List Request
  | done _, _ => []
  | ask r k, w => r :: requests around (k (around.reply r w).1) (around.reply r w).2
  | pause p, w => requests around p (around.second w)
  | turn p, w => requests around p w
  | act f k, w => requests around (k w.1) (f w.1, w.2)

/-- The requests of a run with the replies that they got, in order. -/
def dialogue (around : Surroundings σ ν) : Program σ α → σ × ν → List (Request × Reply)
  | done _, _ => []
  | ask r k, w =>
    (r, (around.reply r w).1) :: dialogue around (k (around.reply r w).1) (around.reply r w).2
  | pause p, w => dialogue around p (around.second w)
  | turn p, w => dialogue around p w
  | act f k, w => dialogue around (k w.1) (f w.1, w.2)

section Runs

variable (around : Surroundings σ ν) (w : σ × ν)

theorem run_bind (p : Program σ α) (g : α → Program σ β) :
    (p.bind g).run around w = (g (p.run around w).1).run around (p.run around w).2 := by
  induction p generalizing w with
  | done a => rfl
  | ask r k ih => simp only [bind, run, ih]
  | pause p ih => simp only [bind, run, ih]
  | turn p ih => simp only [bind, run, ih]
  | act f k ih => simp only [bind, run, ih]

theorem requests_bind (p : Program σ α) (g : α → Program σ β) :
    (p.bind g).requests around w =
      p.requests around w ++ (g (p.run around w).1).requests around (p.run around w).2 := by
  induction p generalizing w with
  | done a => rfl
  | ask r k ih => simp only [bind, run, requests, ih, List.cons_append]
  | pause p ih => simp only [bind, run, requests, ih]
  | turn p ih => simp only [bind, run, requests, ih]
  | act f k ih => simp only [bind, run, requests, ih]

theorem dialogue_bind (p : Program σ α) (g : α → Program σ β) :
    (p.bind g).dialogue around w =
      p.dialogue around w ++ (g (p.run around w).1).dialogue around (p.run around w).2 := by
  induction p generalizing w with
  | done a => rfl
  | ask r k ih => simp only [bind, run, dialogue, ih, List.cons_append]
  | pause p ih => simp only [bind, run, dialogue, ih]
  | turn p ih => simp only [bind, run, dialogue, ih]
  | act f k ih => simp only [bind, run, dialogue, ih]

/-- A dialogue is about the requests of the run. -/
theorem map_fst_dialogue (p : Program σ α) :
    (p.dialogue around w).map (·.1) = p.requests around w := by
  induction p generalizing w with
  | done a => rfl
  | ask r k ih => simp only [dialogue, requests, List.map_cons, ih]
  | pause p ih => exact ih _
  | turn p ih => exact ih _
  | act f k ih => exact ih _ _

theorem run_ask (r : Request) (k : Reply → Program σ α) :
    (ask r k).run around w = (k (around.reply r w).1).run around (around.reply r w).2 := rfl

theorem run_read (f : σ → α) : (read f).run around w = (f w.1, w) := rfl

theorem run_atomically (step : σ → α × σ) :
    (atomically step).run around w = ((step w.1).1, ((step w.1).2, w.2)) := rfl

end Runs

end Program

/-- Whether the surroundings make no other changes than `R`. -/
structure Surroundings.Within (R : σ → σ → Prop) (around : Surroundings σ ν) : Prop where
  reply : ∀ r w, R w.1 (around.reply r w).2.1
  second : ∀ w, R w.1 (around.second w).1

theorem Surroundings.Within.mono {R R' : σ → σ → Prop} {around : Surroundings σ ν}
    (h : around.Within R) (weaker : ∀ {s t}, R s t → R' s t) : around.Within R' :=
  ⟨fun r w => weaker (h.reply r w), fun w => weaker (h.second w)⟩

namespace Program

/-- Whether a program sends only requests of `P`, makes only changes of `R`, and ends only with
results of `Q`. -/
def Within (P : Request → Prop) (R : σ → σ → Prop) (Q : α → Prop) : Program σ α → Prop
  | done a => Q a
  | ask r k => P r ∧ ∀ reply, Within P R Q (k reply)
  | pause p => Within P R Q p
  | turn p => Within P R Q p
  | act f k => ∀ s, R s (f s) ∧ Within P R Q (k s)

namespace Within

variable {P P' : Request → Prop} {R R' : σ → σ → Prop} {Q : α → Prop} {Q' : β → Prop}

theorem mono {Q' : α → Prop} {p : Program σ α} (h : p.Within P R Q) (hP : ∀ r, P r → P' r)
    (hR : ∀ s t, R s t → R' s t) (hQ : ∀ a, Q a → Q' a) : p.Within P' R' Q' := by
  induction p with
  | done a => exact hQ a h
  | ask r k ih => exact ⟨hP r h.1, fun reply => ih reply (h.2 reply)⟩
  | pause p ih => exact ih h
  | turn p ih => exact ih h
  | act f k ih => exact fun s => ⟨hR s _ (h s).1, ih s (h s).2⟩

/-- What a program changes at most, whatever it asks and ends with. -/
theorem changes {p : Program σ α} (h : p.Within P R Q) (hR : ∀ s t, R s t → R' s t) :
    p.Within (fun _ => True) R' fun _ => True :=
  h.mono (fun _ _ => trivial) hR fun _ _ => trivial

theorem bind {p : Program σ α} {g : α → Program σ β} (h : p.Within P R Q)
    (hg : ∀ a, Q a → (g a).Within P R Q') : (p.bind g).Within P R Q' := by
  induction p with
  | done a => exact hg a h
  | ask r k ih => exact ⟨h.1, fun reply => ih reply (h.2 reply)⟩
  | pause p ih => exact ih h
  | turn p ih => exact ih h
  | act f k ih => exact fun s => ⟨(h s).1, ih s (h s).2⟩

theorem map {p : Program σ α} {f : α → β} (h : p.Within P R fun a => Q' (f a)) :
    (p.map f).Within P R Q' :=
  h.bind fun _ ha => ha

theorem atomically {step : σ → α × σ} (h : ∀ s, R s (step s).2 ∧ Q (step s).1) :
    (Program.atomically step).Within P R Q := h

theorem modify {f : σ → σ} (h : ∀ s, R s (f s)) :
    (Program.modify f).Within P R fun _ => True := fun s => ⟨h s, trivial⟩

theorem giveWay : (Program.giveWay : Program σ Unit).Within P R fun _ => True := trivial

/-- In surroundings that keep to the bounds of its program, so does a run. -/
theorem run {p : Program σ α} (h : p.Within P R Q) (refl : ∀ s, R s s)
    (trans : ∀ {s t u}, R s t → R t u → R s u) {around : Surroundings σ ν}
    (bounds : around.Within R) (w : σ × ν) :
    Q (p.run around w).1 ∧ R w.1 (p.run around w).2.1 ∧ ∀ r ∈ p.requests around w, P r := by
  induction p generalizing w with
  | done a => exact ⟨h, refl _, by simp [requests]⟩
  | ask r k ih =>
    obtain ⟨hQ, hR, hP⟩ := ih _ (h.2 (around.reply r w).1) (around.reply r w).2
    refine ⟨hQ, trans (bounds.reply r w) hR, ?_⟩
    simp only [requests, List.mem_cons, forall_eq_or_imp]
    exact ⟨h.1, hP⟩
  | pause p ih =>
    obtain ⟨hQ, hR, hP⟩ := ih h (around.second w)
    exact ⟨hQ, trans (bounds.second w) hR, hP⟩
  | turn p ih => exact ih h w
  | act f k ih =>
    obtain ⟨hQ, hR, hP⟩ := ih w.1 (h w.1).2 (f w.1, w.2)
    exact ⟨hQ, trans (h w.1).1 hR, hP⟩

/-- In any surroundings a run ends and asks within the bounds of its program. -/
theorem ends_asks {p : Program σ α} (h : p.Within P R Q) (around : Surroundings σ ν) (w : σ × ν) :
    Q (p.run around w).1 ∧ ∀ r ∈ p.requests around w, P r := by
  have loose : p.Within P (fun _ _ => True) Q :=
    h.mono (fun _ h => h) (fun _ _ _ => trivial) fun _ h => h
  have bounds : around.Within fun _ _ => True := ⟨fun _ _ => trivial, fun _ => trivial⟩
  obtain ⟨ends, -, asks⟩ := loose.run (fun _ => trivial) (fun _ _ => trivial) bounds w
  exact ⟨ends, asks⟩

end Within
end Program

/-- Whether surroundings reply as told and leave the state as it is. -/
structure Surroundings.Still (replies : Request → Reply) (around : Surroundings σ ν) : Prop where
  told : ∀ r w, (around.reply r w).1 = replies r
  asked : ∀ r w, (around.reply r w).2.1 = w.1
  waited : ∀ w, (around.second w).1 = w.1

namespace Program

/-- What a program comes to by itself, with the replies that it gets. -/
def comesTo (replies : Request → Reply) : Program σ α → σ → α × σ
  | done a, s => (a, s)
  | ask r k, s => comesTo replies (k (replies r)) s
  | pause p, s => comesTo replies p s
  | turn p, s => comesTo replies p s
  | act f k, s => comesTo replies (k s) (f s)

section Steps

variable (replies : Request → Reply) (s : σ)

@[simp] theorem comesTo_read (f : σ → α) : (read f).comesTo replies s = (f s, s) := rfl

@[simp] theorem comesTo_atomically (step : σ → α × σ) :
    (atomically step).comesTo replies s = step s := rfl

end Steps

theorem comesTo_bind (replies : Request → Reply) (p : Program σ α) (g : α → Program σ β) (s : σ) :
    (p.bind g).comesTo replies s =
      (g (p.comesTo replies s).1).comesTo replies (p.comesTo replies s).2 := by
  induction p generalizing s with
  | done a => rfl
  | ask r k ih => simp only [bind, comesTo, ih]
  | pause p ih => simp only [bind, comesTo, ih]
  | turn p ih => simp only [bind, comesTo, ih]
  | act f k ih => simp only [bind, comesTo, ih]

/-- **Runs in still surroundings.** -/
theorem run_still {replies : Request → Reply} {around : Surroundings σ ν}
    (still : around.Still replies) (p : Program σ α) (w : σ × ν) :
    (p.run around w).1 = (p.comesTo replies w.1).1 ∧
      (p.run around w).2.1 = (p.comesTo replies w.1).2 := by
  induction p generalizing w with
  | done a => exact ⟨rfl, rfl⟩
  | ask r k ih =>
    have := ih (around.reply r w).1 (around.reply r w).2
    rw [still.asked, still.told] at this
    simp only [run, comesTo]
    rwa [still.told]
  | pause p ih =>
    have := ih (around.second w)
    rwa [still.waited] at this
  | turn p ih => exact ih w
  | act f k ih => exact ih w.1 (f w.1, w.2)

end Program
end SignalDesk
