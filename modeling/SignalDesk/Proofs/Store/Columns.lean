import SignalDesk.Proofs.Results
import SignalDesk.Proofs.Store.Spending

/-!
# Columns that tell what became of trades

The columns of a trade that tell of its order and its end are written as its status calls for
(`Trade.Tallies`). A trade that is reserved has none of them; they are written as its order is
answered (`Trade.Answered`) and as it is closed. The exit price is the only one that can be left out,
by a closing at a NaN (`Store.Tallied.close`).
-/

namespace SignalDesk
namespace Trade

/-- Whether the columns of a trade that tell what became of it are written as its status calls for. A
trade that is closed may be without an exit price. -/
@[mk_iff]
structure Tallies (t : Trade) : Prop where
  order : t.order.isSome ↔ t.status = .opened ∨ t.status = .closed
  openedAt : t.openedAt.isSome ↔ t.status = .opened ∨ t.status = .closed
  closedAt : t.closedAt.isSome ↔ t.status = .closed
  error : t.error.isSome ↔ t.status = .failed ∨ t.status = .cancelled
  exitPrice : t.exitPrice.isSome → t.status = .closed

/-- Whether a trade is closed without an exit price. -/
def LacksExit (t : Trade) : Prop := t.status = .closed ∧ t.exitPrice = none

instance (t : Trade) : Decidable t.Tallies := decidable_of_iff' _ (tallies_iff t)

instance (t : Trade) : Decidable t.LacksExit := inferInstanceAs (Decidable (_ ∧ _))

/-- What becomes of a trade when its order is answered: nothing, or a pending one opens with the
number of the order, or fails or is cancelled with a message. -/
inductive Answered (t : Trade) : Trade → Prop where
  | rests : Answered t t
  | opens (pending : t.status = .pending) (order now : String) (price : Real64)
      (quantity : Option String) :
      Answered t { t with
        status := .opened, order := some order, openedAt := some now, entryPrice := price
        quantity }
  | fails (pending : t.status = .pending) (message : String) :
      Answered t { t with status := .failed, error := some message }
  | cancels (pending : t.status = .pending) (message : String) :
      Answered t { t with status := .cancelled, error := some message }

variable {t t' : Trade}

theorem Tallies.of_pending (pending : t.status = .pending) (order : t.order = none)
    (openedAt : t.openedAt = none) (closedAt : t.closedAt = none) (error : t.error = none)
    (exitPrice : t.exitPrice = none) : t.Tallies := by
  constructor <;> simp [pending, order, openedAt, closedAt, error, exitPrice]

theorem Tallies.ended (tallies : t.Tallies) (pending : t.status = .pending) {status : TradeStatus}
    (ends : status = .failed ∨ status = .cancelled) (message : String) :
    { t with status, error := some message : Trade }.Tallies := by
  obtain ⟨order, openedAt, closedAt, -, exitPrice⟩ := tallies
  simp only [pending, reduceCtorEq, or_self, iff_false, imp_false]
    at order openedAt closedAt exitPrice
  rcases ends with rfl | rfl <;> constructor <;> simp [order, openedAt, closedAt, exitPrice]

theorem Answered.tallies (h : t.Answered t') (tallies : t.Tallies) : t'.Tallies := by
  cases h with
  | rests => exact tallies
  | opens pending =>
    obtain ⟨-, -, closedAt, error, exitPrice⟩ := tallies
    simp only [pending, reduceCtorEq, or_self, iff_false, imp_false] at closedAt error exitPrice
    constructor <;> simp [closedAt, error, exitPrice]
  | fails pending message => exact tallies.ended pending (.inl rfl) message
  | cancels pending message => exact tallies.ended pending (.inr rfl) message

/-- An answer closes no trade. -/
theorem Answered.eq_of_lacksExit (h : t.Answered t') (lacks : t'.LacksExit) : t' = t := by
  cases h with
  | rests => rfl
  | opens | fails | cancels => cases lacks.1

theorem Tallies.closed (tallies : t.Tallies) (opened : t.status = .opened)
    (price : Option Real64) (now : String) :
    { t with status := .closed, exitPrice := price, closedAt := some now : Trade }.Tallies := by
  obtain ⟨order, openedAt, -, error, -⟩ := tallies
  simp only [opened, reduceCtorEq, or_false, or_self, iff_true, iff_false]
    at order openedAt error
  constructor <;> simp [order, openedAt, error]

end Trade

/-- A trade is made without any of these columns. -/
theorem Reservation.trade_tallies {r : Reservation} {id : Int} {now : String} {t : Trade}
    (h : r.trade id now = .ok t) : t.Tallies := by
  simp only [trade, bind_ok] at h
  obtain ⟨_, -, _, -, _, -, _, -, _, -, _, -, _, -, _, -, _, -, h⟩ := h
  split at h <;> cases h
  exact .of_pending rfl rfl rfl rfl rfl rfl

namespace Store

/-- Whether the trades of a store are those of another one, as answers to orders left them. -/
def Answers (s s' : Store) : Prop := List.Forall₂ Trade.Answered s.trades s'.trades

/-- Whether these columns are in order in all trades, and `P` holds of the numbers of those that are
closed without an exit price. -/
def Tallied (P : Int → Prop) (s : Store) : Prop :=
  ∀ t ∈ s.trades, t.Tallies ∧ (t.LacksExit → P t.id)

variable {s s' : Store} {P P' : Int → Prop}

theorem Answers.of_eq (same : s'.trades = s.trades) : s.Answers s' := by
  rw [Answers, same]
  exact List.forall₂_same.mpr fun _ _ => .rests

theorem answers_changeTrade {id : Int} {p : Trade → Bool} {change : Trade → Trade}
    (h : ∀ t, p t = true → t.Answered (change t)) : s.Answers (s.changeTrade id p change) := by
  refine List.forall₂_map_right_iff.mpr (List.forall₂_same.mpr fun t _ => ?_)
  split
  · rename_i fits
    exact h t (Bool.and_eq_true_iff.mp fits).2
  · exact .rests

theorem status_of_isPending {t : Trade} (h : isPending t = true) : t.status = .pending :=
  of_decide_eq_true h

theorem markOpen_answers (s : Store) (id : Int) (order : String) (price : Option Real64)
    (quantity : Option String) (now : String) :
    s.Answers (s.markOpen id (some order) price quantity now) :=
  answers_changeTrade fun _ pending => .opens (status_of_isPending pending) ..

theorem markFailed_answers (s : Store) (id : Int) (message : String) :
    s.Answers (s.markFailed id (some message)) :=
  answers_changeTrade fun _ pending => .fails (status_of_isPending pending) message

theorem markCancelled_answers (s : Store) (id : Int) (message : String) :
    s.Answers (s.markCancelled id (some message)) :=
  answers_changeTrade fun _ pending => .cancels (status_of_isPending pending) message

/-- Only a NaN is stored as nothing. -/
theorem stored?_eq_none_iff {x : Real64} : stored? x = none ↔ x = .nan := by
  cases x <;> simp [stored?]

namespace Tallied

theorem of_eq (h : s.Tallied P) (same : s'.trades = s.trades) : s'.Tallied P := by
  rw [Tallied, same]
  exact h

theorem answers (h : s.Tallied P) (answers : s.Answers s') : s'.Tallied P := by
  intro t' member
  obtain ⟨t, before, answered⟩ := exists_of_forall₂ answers t' member
  refine ⟨answered.tallies (h t before).1, fun lacks => ?_⟩
  obtain rfl := answered.eq_of_lacksExit lacks
  exact (h t' before).2 lacks

theorem reserve (h : s.Tallied P) {r : Reservation} {now : String} {id : Int}
    (reserved : s.reserve r now = .ok (id, s')) : s'.Tallied P := by
  obtain ⟨t, made, -, trades⟩ := reserve_trades reserved
  rw [Tallied, trades]
  refine List.forall_mem_append.mpr ⟨h, List.forall_mem_singleton.mpr ?_⟩
  refine ⟨Reservation.trade_tallies made, fun lacks => ?_⟩
  cases (Reservation.trade_ok made).2.1.symm.trans lacks.1

/-- A closing leaves a trade without an exit price only at a NaN. -/
theorem close (h : s.Tallied P) {id : Int} {price : Real64} (nan : price = .nan → P id)
    (user : Option String) (now : String) : (s.close id price user now).2.Tallied P := by
  refine List.forall_mem_map.mpr fun t member => ?_
  dsimp only
  split
  · rename_i fits
    obtain ⟨named, opened⟩ := Bool.and_eq_true_iff.mp fits
    have opened : t.status = .opened := of_decide_eq_true (Bool.and_eq_true_iff.mp opened).1
    refine ⟨(h t member).1.closed opened _ now, fun lacks => ?_⟩
    rw [show t.id = id from beq_iff_eq.mp named]
    exact nan (stored?_eq_none_iff.mp lacks.2)
  · exact h t member

end Tallied
end Store
end SignalDesk
