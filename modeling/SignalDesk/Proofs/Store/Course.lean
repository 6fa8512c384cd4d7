import SignalDesk.Proofs.Store.Change
import SignalDesk.Proofs.Store.Spending

/-!
# The course of trades

A trade is made pending. It opens, fails or is cancelled, and one that is open can be closed
(`TradeStatus.Next`); what it was made with stays, and its other columns are written by these moves
only (`Trade.Becomes`). Every change of the store takes the trades along that course
(`Store.Alterations.proceeds`), and a call that does not fit its trade changes nothing
(`Store.guarded`).
-/

namespace SignalDesk

/-- The moves of a trade from status to status. -/
inductive TradeStatus.Next : TradeStatus → TradeStatus → Prop where
  | opens : Next .pending .opened
  | fails : Next .pending .failed
  | cancels : Next .pending .cancelled
  | closes : Next .opened .closed

/-- Whether a status is the last one of a trade. -/
def TradeStatus.IsLast : TradeStatus → Prop
  | failed | cancelled | closed => True
  | pending | opened => False

/-- How many moves lie behind a trade at least. -/
def TradeStatus.stage : TradeStatus → Nat
  | pending => 0
  | opened => 1
  | closed | failed | cancelled => 2

theorem TradeStatus.Next.stage_lt {a b : TradeStatus} (h : a.Next b) : a.stage < b.stage := by
  cases h <;> decide

theorem TradeStatus.Next.not_isLast {a b : TradeStatus} (h : a.Next b) : ¬a.IsLast := by
  cases h <;> exact id

namespace Trade

/-- What a trade is made with. -/
structure SameTerms (t t' : Trade) : Prop where
  id : t'.id = t.id
  user : t'.user = t.user
  script : t'.script = t.script
  symbol : t'.symbol = t.symbol
  timeframe : t'.timeframe = t.timeframe
  side : t'.side = t.side
  candleTime : t'.candleTime = t.candleTime
  stopLoss : t'.stopLoss = t.stopLoss
  takeProfit : t'.takeProfit = t.takeProfit
  reason : t'.reason = t.reason
  createdAt : t'.createdAt = t.createdAt

theorem SameTerms.refl (t : Trade) : t.SameTerms t := by constructor <;> rfl

theorem SameTerms.trans {t t' t'' : Trade} (first : t.SameTerms t') (second : t'.SameTerms t'') :
    t.SameTerms t'' where
  id := second.id.trans first.id
  user := second.user.trans first.user
  script := second.script.trans first.script
  symbol := second.symbol.trans first.symbol
  timeframe := second.timeframe.trans first.timeframe
  side := second.side.trans first.side
  candleTime := second.candleTime.trans first.candleTime
  stopLoss := second.stopLoss.trans first.stopLoss
  takeProfit := second.takeProfit.trans first.takeProfit
  reason := second.reason.trans first.reason
  createdAt := second.createdAt.trans first.createdAt

/-- What may become of a trade at once: nothing at all, or one move. -/
structure Becomes (t t' : Trade) : Prop where
  moves : t' = t ∨ t.status.Next t'.status
  terms : t.SameTerms t'
  /-- Entry price and quantity are written when a trade opens. -/
  entry : t'.entryPrice ≠ t.entryPrice ∨ t'.quantity ≠ t.quantity →
    t.status = .pending ∧ t'.status = .opened
  /-- Exit price and the time of closing are written when it closes. -/
  exit : t'.exitPrice ≠ t.exitPrice ∨ t'.closedAt ≠ t.closedAt →
    t.status = .opened ∧ t'.status = .closed

theorem Becomes.refl (t : Trade) : t.Becomes t :=
  ⟨.inl rfl, .refl t, by simp, by simp⟩

/-- What may become of a trade in the course of time. -/
abbrev Comes : Trade → Trade → Prop := Relation.ReflTransGen Becomes

section Comes

variable {t t' : Trade}

theorem Comes.terms (h : t.Comes t') : t.SameTerms t' := by
  induction h with
  | refl => exact .refl t
  | tail _ last ih => exact ih.trans last.terms

/-- A trade that has moved on is further along. -/
theorem Comes.same_or_further (h : t.Comes t') : t' = t ∨ t.status.stage < t'.status.stage := by
  induction h with
  | refl => exact .inl rfl
  | @tail u v _ last ih =>
    rcases last.moves with same | next
    · exact same ▸ ih
    · right
      rcases ih with rfl | further
      · exact next.stage_lt
      · exact Nat.lt_trans further next.stage_lt

/-- A trade with its last status stays as it is. -/
theorem Comes.same_of_isLast (h : t.Comes t') (last : t.status.IsLast) : t' = t := by
  induction h with
  | refl => rfl
  | tail _ step ih =>
    subst ih
    exact step.moves.resolve_right fun next => next.not_isLast last

/-- A trade that has its status again was never without it, nor changed at all. -/
theorem Comes.same_between {u : Trade} (before : t.Comes u) (after : u.Comes t')
    (status : t'.status = t.status) : u = t := by
  rcases before.same_or_further with same | further
  · exact same
  · rcases after.same_or_further with rfl | more
    · exact absurd further (by simp [status])
    · exact absurd (Nat.lt_trans further more) (by simp [status])

end Comes
end Trade

namespace Store

/-- Whether calls on trades change nothing where they do not fit: an opening, a failure or a
cancellation where no trade of that number is pending, and a closing where none is open, or none of
the user that asks for it. -/
structure Guarded (s : Store) : Prop where
  opening : ∀ id order price quantity now,
    (∀ t ∈ s.trades, t.id = id → t.status ≠ .pending) →
      s.markOpen id order price quantity now = s
  failure : ∀ id message, (∀ t ∈ s.trades, t.id = id → t.status ≠ .pending) →
    s.markFailed id message = s
  cancellation : ∀ id message, (∀ t ∈ s.trades, t.id = id → t.status ≠ .pending) →
    s.markCancelled id message = s
  closing : ∀ id price user now,
    (∀ t ∈ s.trades, t.id = id → t.status = .opened → ∃ u, user = some u ∧ t.user ≠ u) →
      s.close id price user now = (false, s)

variable {s s' : Store}

/-- A change for which there is no trade leaves the store as it is. -/
theorem changeTrade_eq {id : Int} {p : Trade → Bool} {change : Trade → Trade}
    (none : ∀ t ∈ s.trades, t.id = id → p t = false) : s.changeTrade id p change = s := by
  have same : (s.trades.map fun t => if t.id == id && p t then change t else t) = s.trades := by
    refine (List.map_congr_left fun t ht => ?_).trans (List.map_id _)
    by_cases mine : t.id = id
    · simp [none t ht mine]
    · simp [mine]
  simp only [changeTrade, same]

theorem isOpenOf_eq_false {user : Option String} {t : Trade}
    (h : t.status = .opened → ∃ u, user = some u ∧ t.user ≠ u) : isOpenOf user t = false := by
  by_cases opened : t.status = .opened
  · obtain ⟨u, rfl, other⟩ := h opened
    simp [isOpenOf, other]
  · simp [isOpenOf, opened]

theorem guarded (s : Store) : s.Guarded := by
  have pending : ∀ {id : Int}, (∀ t ∈ s.trades, t.id = id → t.status ≠ .pending) →
      ∀ t ∈ s.trades, t.id = id → isPending t = false :=
    fun none t ht mine => by simp [isPending, none t ht mine]
  constructor
  case opening => exact fun id order price quantity now none => changeTrade_eq (pending none)
  case failure => exact fun id message none => changeTrade_eq (pending none)
  case cancellation => exact fun id message none => changeTrade_eq (pending none)
  case closing =>
    intro id price user now none
    have closed : ∀ t ∈ s.trades, t.id = id → isOpenOf user t = false :=
      fun t ht mine => isOpenOf_eq_false (none t ht mine)
    refine Prod.ext ?_ (changeTrade_eq closed)
    simp only [close, List.any_eq_false, Bool.and_eq_true, beq_iff_eq, not_and, Bool.not_eq_true]
    exact closed

/-- Whether trades go on to others: each stands in its place and became what it may become, and
those that are added are pending. -/
structure Proceeds (s s' : Store) : Prop where
  rows : ∀ (n : Nat) (t : Trade), s.trades[n]? = some t → ∃ t', s'.trades[n]? = some t' ∧ t.Becomes t'
  added : ∀ (n : Nat) (t : Trade), s.trades[n]? = none → s'.trades[n]? = some t → t.status = .pending

theorem Proceeds.of_eq (same : s'.trades = s.trades) : s.Proceeds s' := by
  constructor
  case rows => exact fun n t found => ⟨t, same ▸ found, .refl t⟩
  case added =>
    intro n t outside found
    rw [same, outside] at found
    cases found

theorem Proceeds.refl (s : Store) : s.Proceeds s := .of_eq rfl

theorem proceeds_append {t : Trade} (trades : s'.trades = s.trades ++ [t])
    (pending : t.status = .pending) : s.Proceeds s' := by
  constructor
  case rows =>
    intro n u found
    obtain ⟨inside, -⟩ := List.getElem?_eq_some_iff.mp found
    exact ⟨u, by rw [trades, List.getElem?_append_left inside, found], .refl u⟩
  case added =>
    intro n u outside found
    rw [trades, List.getElem?_append_right (List.getElem?_eq_none_iff.mp outside)] at found
    exact List.mem_singleton.mp (List.mem_of_getElem? found) ▸ pending

theorem proceeds_changeTrade {id : Int} {p : Trade → Bool} {change : Trade → Trade}
    (h : ∀ t, p t = true → t.Becomes (change t)) : s.Proceeds (s.changeTrade id p change) := by
  have place : ∀ n : Nat, (s.changeTrade id p change).trades[n]? =
      s.trades[n]?.map fun t => if t.id == id && p t then change t else t :=
    fun n => List.getElem?_map
  constructor
  case rows =>
    intro n t found
    refine ⟨_, by rw [place, found]; rfl, ?_⟩
    dsimp only
    split
    · rename_i fits
      exact h t (Bool.and_eq_true_iff.mp fits).2
    · exact .refl t
  case added =>
    intro n t outside found
    rw [place, outside] at found
    cases found

/-- A pending trade may open, fail or be cancelled. -/
theorem becomes_of_pending {t t' : Trade} (pending : isPending t = true)
    (next : TradeStatus.Next .pending t'.status) (terms : t.SameTerms t')
    (entry : t'.status = .opened ∨ t'.entryPrice = t.entryPrice ∧ t'.quantity = t.quantity)
    (exit : t'.exitPrice = t.exitPrice ∧ t'.closedAt = t.closedAt) : t.Becomes t' := by
  have status : t.status = .pending := by simpa [isPending] using pending
  constructor
  case moves => exact .inr (status ▸ next)
  case terms => exact terms
  case entry =>
    intro written
    refine ⟨status, entry.resolve_right fun same => ?_⟩
    exact written.elim (· same.1) (· same.2)
  case exit => exact fun written => (written.elim (· exit.1) (· exit.2)).elim

theorem markOpen_proceeds (id : Int) (order : Option String) (price : Option Real64)
    (quantity : Option String) (now : String) :
    s.Proceeds (s.markOpen id order price quantity now) :=
  proceeds_changeTrade fun _ pending =>
    becomes_of_pending pending .opens (by constructor <;> rfl) (.inl rfl) ⟨rfl, rfl⟩

theorem markFailed_proceeds (id : Int) (message : Option String) :
    s.Proceeds (s.markFailed id message) :=
  proceeds_changeTrade fun _ pending =>
    becomes_of_pending pending .fails (by constructor <;> rfl) (.inr ⟨rfl, rfl⟩) ⟨rfl, rfl⟩

theorem markCancelled_proceeds (id : Int) (message : Option String) :
    s.Proceeds (s.markCancelled id message) :=
  proceeds_changeTrade fun _ pending =>
    becomes_of_pending pending .cancels (by constructor <;> rfl) (.inr ⟨rfl, rfl⟩) ⟨rfl, rfl⟩

theorem close_proceeds (id : Int) (price : Real64) (user : Option String) (now : String) :
    s.Proceeds (s.close id price user now).2 := by
  refine proceeds_changeTrade fun t fits => ?_
  have status : t.status = .opened := of_decide_eq_true (Bool.and_eq_true_iff.mp fits).1
  exact ⟨.inr (status ▸ .closes), by constructor <;> rfl, by simp, fun _ => ⟨status, rfl⟩⟩

theorem Change.proceeds (h : Change s s') : s.Proceeds s' := by
  cases h with
  | enroll h range => exact .of_eq (ensureProfile_trades h)
  | enable script h =>
    have same := ensureProfile_trades h
    exact .of_eq same
  | adjust h range => exact .of_eq (adjust_trades h)
  | reserve h =>
    obtain ⟨t, made, -, trades⟩ := reserve_trades h
    exact proceeds_append trades (Reservation.trade_ok made).2.1
  | markOpen => exact markOpen_proceeds ..
  | markFailed => exact markFailed_proceeds ..
  | markCancelled => exact markCancelled_proceeds ..
  | close => exact close_proceeds ..
  | addSignal h => exact .of_eq (addSignal_trades h)
  | createToken h =>
    simp only [Store.createToken] at h
    split at h <;> cases h
    exact .of_eq rfl
  | initialise | subscribe | markProcessed | saveScript | activate | deactivate | setGate | setFlag
  | saveKeys => exact .of_eq rfl

/-- **The course of trades, change by change.** -/
theorem Alterations.proceeds (h : s.Alterations s') : s.Proceeds s' := by
  cases h with
  | refl => exact .refl s
  | single h =>
    cases h with
    | change h => exact h.proceeds
    | enroll h => exact .of_eq (ensureProfile_trades h)
    | adjust h => exact .of_eq (adjust_trades h)

end Store
end SignalDesk
