import SignalDesk.Proofs.Network.Within

namespace SignalDesk

variable {σ α β ν : Type}

/-- What a program counts on, the replies to its requests and the changes that others make while it
waits, and what it keeps to, its own requests and changes. -/
structure Terms (σ : Type) where
  hears : Request → Reply → Prop
  rely : σ → σ → Prop
  sends : Request → Prop
  makes : σ → σ → Prop

/-- Terms that count on nothing. -/
def Terms.alone (P : Request → Prop) (R : σ → σ → Prop) : Terms σ :=
  ⟨fun _ _ => True, fun _ _ => True, P, R⟩

/-- Whether surroundings do what programs on some terms count on. -/
structure Surroundings.Follows (t : Terms σ) (around : Surroundings σ ν) : Prop where
  hears : ∀ r w, t.hears r (around.reply r w).1
  reply : ∀ r w, t.rely w.1 (around.reply r w).2.1
  second : ∀ w, t.rely w.1 (around.second w).1

namespace Program

/-- Whether a program that goes on from a state keeps its terms and ends in `Q`. -/
def Keeps (t : Terms σ) (Q : α → σ → Prop) : Program σ α → σ → Prop
  | done a, s => Q a s
  | ask r k, s =>
    t.sends r ∧ ∀ reply, t.hears r reply → ∀ s', t.rely s s' → Keeps t Q (k reply) s'
  | pause p, s => ∀ s', t.rely s s' → Keeps t Q p s'
  | turn p, s => ∀ s', t.rely s s' → Keeps t Q p s'
  | act f k, s => t.makes s (f s) ∧ Keeps t Q (k s) (f s)

namespace Keeps

variable {t u : Terms σ} {Q : α → σ → Prop} {Q' : β → σ → Prop} {p : Program σ α} {s : σ}

/-- What holds of every state along the way holds at the end, and a program may go by other terms
that its own cover in such states. -/
theorem frame {J : σ → Prop} (h : p.Keeps t Q s) (start : J s)
    (hears : ∀ r reply, u.hears r reply → t.hears r reply)
    (rely : ∀ s s', J s → u.rely s s' → t.rely s s' ∧ J s')
    (sends : ∀ r, t.sends r → u.sends r)
    (makes : ∀ s s', J s → t.makes s s' → u.makes s s' ∧ J s') :
    p.Keeps u (fun a s => Q a s ∧ J s) s := by
  induction p generalizing s with
  | done a => exact ⟨h, start⟩
  | ask r k ih =>
    refine ⟨sends r h.1, fun reply heard s' later => ?_⟩
    obtain ⟨later, holds⟩ := rely s s' start later
    exact ih reply (h.2 reply (hears r reply heard) s' later) holds
  | pause p ih =>
    intro s' later
    obtain ⟨later, holds⟩ := rely s s' start later
    exact ih (h s' later) holds
  | turn p ih =>
    intro s' later
    obtain ⟨later, holds⟩ := rely s s' start later
    exact ih (h s' later) holds
  | act f k ih =>
    obtain ⟨made, holds⟩ := makes s (f s) start h.1
    exact ⟨made, ih s h.2 holds⟩

theorem mono {Q' : α → σ → Prop} (h : p.Keeps t Q s) (hQ : ∀ a s, Q a s → Q' a s) :
    p.Keeps t Q' s := by
  induction p generalizing s with
  | done a => exact hQ a s h
  | ask r k ih => exact ⟨h.1, fun reply heard s' later => ih reply (h.2 reply heard s' later)⟩
  | pause p ih => exact fun s' later => ih (h s' later)
  | turn p ih => exact fun s' later => ih (h s' later)
  | act f k ih => exact ⟨h.1, ih s h.2⟩

theorem bind {g : α → Program σ β} (h : p.Keeps t Q s)
    (hg : ∀ a s', Q a s' → (g a).Keeps t Q' s') : (p.bind g).Keeps t Q' s := by
  induction p generalizing s with
  | done a => exact hg a s h
  | ask r k ih => exact ⟨h.1, fun reply heard s' later => ih reply (h.2 reply heard s' later)⟩
  | pause p ih => exact fun s' later => ih (h s' later)
  | turn p ih => exact fun s' later => ih (h s' later)
  | act f k ih => exact ⟨h.1, ih s h.2⟩

theorem map {f : α → β} (h : p.Keeps t (fun a => Q' (f a)) s) : (p.map f).Keeps t Q' s :=
  h.bind fun _ _ ha => ha

theorem read {f : σ → α} (makes : t.makes s s) (h : Q (f s) s) : (Program.read f).Keeps t Q s :=
  ⟨makes, h⟩

/-- In surroundings that follow its terms, a run ends as its program does and sends nothing else. -/
theorem run {w : σ × ν} (h : p.Keeps t Q w.1) (refl : ∀ s, t.rely s s)
    {around : Surroundings σ ν} (follows : around.Follows t) :
    Q (p.run around w).1 (p.run around w).2.1 ∧ ∀ r ∈ p.requests around w, t.sends r := by
  induction p generalizing w with
  | done a => exact ⟨h, by simp [requests]⟩
  | ask r k ih =>
    obtain ⟨ends, sent⟩ := ih _ (h.2 _ (follows.hears r w) _ (follows.reply r w))
    refine ⟨ends, ?_⟩
    simp only [requests, List.mem_cons, forall_eq_or_imp]
    exact ⟨h.1, sent⟩
  | pause p ih => exact ih (h _ (follows.second w))
  | turn p ih => exact ih (h w.1 (refl w.1))
  | act f k ih => exact ih w.1 (w := (f w.1, w.2)) h.2

end Keeps

/-- A program within bounds keeps to them without counting on anything. -/
theorem Within.keeps {P : Request → Prop} {R : σ → σ → Prop} {Q : α → Prop} {p : Program σ α}
    (h : p.Within P R Q) (s : σ) : p.Keeps (.alone P R) (fun a _ => Q a) s := by
  induction p generalizing s with
  | done a => exact h
  | ask r k ih => exact ⟨h.1, fun reply _ s' _ => ih reply (h.2 reply) s'⟩
  | pause p ih => exact fun s' _ => ih h s'
  | turn p ih => exact fun s' _ => ih h s'
  | act f k ih => exact ⟨(h s).1, ih s (h s).2 (f s)⟩

end Program
end SignalDesk
