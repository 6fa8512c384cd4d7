import SignalDesk.Proofs.Network.Turns
import SignalDesk.Proofs.Run.Commitment
import SignalDesk.Proofs.Run.Evaluation

namespace SignalDesk

variable {ν : Type}

/-- Whether nothing happens at a desk but that time passes. -/
def Desk.OnlyTime (d d' : Desk) : Prop := ∃ clock, d' = { d with clock }

/-- Whether the market replies as told, and nobody else is at the desk. -/
structure Surroundings.Settled (replies : Request → Reply) (around : Surroundings Desk ν) :
    Prop where
  replies : ∀ r w, r.method = .get → (around.reply r w).1 = replies r
  alone : around.Within Desk.OnlyTime

namespace Desk

/-- Whether a desk comes from another one by charges for trades and what becomes of them. -/
def Later (d d' : Desk) : Prop := d.store.Spent d'.store ∧ (d.Faithful → d'.Faithful)

/-- Whether a desk has the store of another one. -/
def Rests (d d' : Desk) : Prop := d'.store = d.store ∧ (d.Faithful → d'.Faithful)

variable {d d' d'' : Desk}

theorem Later.refl (d : Desk) : d.Later d := ⟨.refl _, fun faithful => faithful⟩

theorem Later.trans (first : d.Later d') (second : d'.Later d'') : d.Later d'' :=
  ⟨first.1.trans second.1, fun faithful => second.2 (first.2 faithful)⟩

theorem Rests.refl (d : Desk) : d.Rests d := ⟨rfl, fun faithful => faithful⟩

theorem Rests.trans (first : d.Rests d') (second : d'.Rests d'') : d.Rests d'' :=
  ⟨second.1.trans first.1, fun faithful => second.2 (first.2 faithful)⟩

theorem Rests.later (h : d.Rests d') : d.Later d' := ⟨h.1 ▸ .refl _, h.2⟩

theorem OnlyTime.rests (h : d.OnlyTime d') : d.Rests d' := by
  obtain ⟨clock, rfl⟩ := h
  exact ⟨rfl, fun faithful => faithful.of_eq rfl rfl⟩

theorem Marks.later (h : d.Marks d') : d.Later d' := by
  refine ⟨h.spent, fun faithful => ?_⟩
  obtain ⟨trades, -, rfl⟩ := h
  exact faithful.of_eq rfl rfl

end Desk

/-- The terms of programs at a desk that only `R` happens to, on a market that replies as told. -/
def Terms.market (replies : Request → Reply) (P : Request → Prop) (R : Desk → Desk → Prop) :
    Terms Desk :=
  ⟨fun r reply => r.method = .get → reply = replies r, R, P, R⟩

theorem Terms.market_asks {replies : Request → Reply} {P : Request → Prop}
    {R : Desk → Desk → Prop} (sends : ∀ r : Request, r.method = .get → P r) :
    (Terms.market replies P R).Asks replies :=
  ⟨sends, fun _ _ get heard => heard get⟩

theorem Surroundings.Settled.follows {replies : Request → Reply} {around : Surroundings Desk ν}
    (h : around.Settled replies) {P : Request → Prop} {R : Desk → Desk → Prop}
    (time : ∀ {d d'}, Desk.OnlyTime d d' → R d d') : around.Follows (.market replies P R) :=
  ⟨fun r w get => h.replies r w get, fun r w => time (h.alone.reply r w),
    fun w => time (h.alone.second w)⟩

end SignalDesk
