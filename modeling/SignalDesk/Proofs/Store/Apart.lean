import SignalDesk.Proofs.Store.Spending

namespace SignalDesk
namespace Store

/-- Whether two stores are alike to all users but one, as far as runs look. -/
structure AlikeBut (user : String) (s s' : Store) : Prop where
  flags : s.currentFlags = s'.currentFlags
  processed : s.isProcessed = s'.isProcessed
  profiles : ∀ other, other ≠ user → s.profile? other = s'.profile? other
  gates : ∀ other, other ≠ user → s.gate? other = s'.gate? other
  keys : ∀ other, other ≠ user → s.orderKeys? other = s'.orderKeys? other
  trades : ∀ other, other ≠ user → s.hasTradeFor other = s'.hasTradeFor other

variable {user other : String} {s s' t : Store} {r : Reservation} {now now' : String} {id : Int}

namespace AlikeBut

theorem refl (s : Store) : s.AlikeBut user s :=
  ⟨rfl, rfl, fun _ _ => rfl, fun _ _ => rfl, fun _ _ => rfl, fun _ _ => rfl⟩

theorem symm (h : s.AlikeBut user s') : s'.AlikeBut user s where
  flags := h.flags.symm
  processed := h.processed.symm
  profiles other apart := (h.profiles other apart).symm
  gates other apart := (h.gates other apart).symm
  keys other apart := (h.keys other apart).symm
  trades other apart := (h.trades other apart).symm

/-- A trade of the one user makes no difference to the others. -/
theorem charged_own (h : s.AlikeBut user s') {x : Trade} (own : x.user = user) {left : Amount}
    {reason : String} : (s.charged x left reason now).AlikeBut user s' where
  flags := h.flags
  processed := h.processed
  profiles other apart := by
    rw [profile?_charged, ← h.profiles other apart]
    simp only [own, if_neg apart, Option.map_id']
  gates := h.gates
  keys := h.keys
  trades other apart := by
    funext script timeframe time
    have mine : isTradeFor other script timeframe time x = false := by
      simp [isTradeFor, own, Ne.symm apart]
    rw [hasTradeFor_charged, mine, Bool.or_false, h.trades other apart]

/-- The same trade is the same difference. -/
theorem charged (h : s.AlikeBut user s') {x x' : Trade} (owner : x'.user = x.user)
    (same : ∀ user script timeframe time,
      isTradeFor user script timeframe time x' = isTradeFor user script timeframe time x)
    {left : Amount} {reason : String} :
    (s.charged x left reason now).AlikeBut user (s'.charged x' left reason now') where
  flags := h.flags
  processed := h.processed
  profiles other apart := by
    rw [profile?_charged, profile?_charged, owner, h.profiles other apart]
  gates := h.gates
  keys := h.keys
  trades other apart := by
    funext script timeframe time
    rw [hasTradeFor_charged, hasTradeFor_charged, same, h.trades other apart]

theorem of_made (h : s.AlikeBut user s') {trades : List Trade}
    (made : trades.map Trade.identity = s.made) :
    ({ s with trades } : Store).AlikeBut user s' where
  flags := h.flags
  processed := h.processed
  profiles := h.profiles
  gates := h.gates
  keys := h.keys
  trades other apart := by
    funext script timeframe time
    rw [← h.trades other apart, hasTradeFor_eq, hasTradeFor_eq s]
    exact congrArg (List.any · _) made

/-- **Reservations of others come out the same.** -/
theorem reserve (h : s.AlikeBut user s') (owner : r.user.stored = some other)
    (apart : other ≠ user) (now now' : String) :
    (∃ e, s.reserve r now = .error e ∧ s'.reserve r now' = .error e) ∨
      ∃ id id' t t', s.reserve r now = .ok (id, t) ∧ s'.reserve r now' = .ok (id', t') ∧
        t.AlikeBut user t' := by
  have made' := r.trade_renumber (nextId (s.trades.map (·.id))) (nextId (s'.trades.map (·.id))) now
    now'
  cases made : r.trade (nextId (s.trades.map (·.id))) now with
  | error e =>
    rw [made] at made'
    refine .inl ⟨.store e, ?_, ?_⟩
    · simp only [reserve_eq_verdict, made]
    · simp only [reserve_eq_verdict, made', Except.map]
  | ok x =>
    rw [made] at made'
    obtain rfl : other = x.user := by
      obtain ⟨-, -, known, -⟩ := Reservation.trade_ok made
      rw [owner] at known
      exact Option.some.inj known
    have only := congrFun (congrFun (congrFun (h.trades x.user apart) x.script) x.timeframe)
      x.candleTime
    have profile := h.profiles x.user apart
    simp only [reserve_eq_verdict, made, made', Except.map, ← only, ← profile]
    cases r.verdict (s.hasTradeFor x.user x.script x.timeframe x.candleTime)
      (s.profile? x.user) with
    | error e => exact .inl ⟨e, rfl, rfl⟩
    | ok p =>
      refine .inr ⟨_, _, _, _, rfl, rfl, h.charged ?owner ?same⟩
      case owner => rfl
      case same => exact fun _ _ _ _ => rfl

end AlikeBut
end Store
end SignalDesk
