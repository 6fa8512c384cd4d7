import SignalDesk.Proofs.Store.Tables

namespace SignalDesk

theorem fitsWord_iff {n : Int} : fitsWord n = true ↔ -2 ^ 63 ≤ n ∧ n < 2 ^ 63 := by
  simp [fitsWord]

namespace Amount

theorem plus_whole {n delta : Int} (h : fitsWord (n + delta) = true) :
    (whole n).plus delta = whole (n + delta) := by
  simp [plus, h]

theorem floored_whole {a : Amount} {n : Int} (h : a.floored = whole n) : 0 ≤ n := by
  unfold floored at h
  split at h
  · cases h
    exact Int.le_refl 0
  · rename_i told
    subst h
    simpa [isNegative] using told

end Amount

/-- The values of a reservation that is admitted are those of its trade. -/
theorem Reservation.trade_ok {r : Reservation} {id : Int} {now : String} {t : Trade}
    (h : r.trade id now = .ok t) :
    t.id = id ∧ t.status = .pending ∧ r.user.stored = some t.user ∧
      r.script.stored = some t.script ∧ r.timeframe.stored = some t.timeframe ∧
      Store.figure? r.candleTime = .ok (some t.candleTime) ∧ r.side = some t.side := by
  simp only [trade, bind_ok, Store.require_ok] at h
  obtain ⟨user, hu, script, hs, symbol, -, timeframe, ht, time, figure, candleTime, hc, price, -,
    stop, -, target, -, h⟩ := h
  subst hc
  split at h
  · cases h
  · rename_i side hside
    obtain rfl := pure_ok.mp h
    exact ⟨rfl, rfl, hu, hs, ht, figure, hside⟩

/-- A reservation is admitted when all its values are there. -/
theorem Reservation.trade_exists {r : Reservation} {id : Int} {now : String}
    {user script symbol timeframe : String} {side : Side} {time : Figure}
    (hu : r.user.stored = some user) (hs : r.script.stored = some script)
    (hy : r.symbol.stored = some symbol) (ht : r.timeframe.stored = some timeframe)
    (hc : Store.figure? r.candleTime = .ok (some time)) (hp : r.entryPrice ≠ .nan)
    (hl : r.stopLoss ≠ .nan) (hg : r.takeProfit ≠ .nan) (hd : r.side = some side) :
    ∃ t, r.trade id now = .ok t ∧ t.user = user ∧ t.script = script ∧ t.timeframe = timeframe ∧
      t.candleTime = time := by
  have level : ∀ x : Real64, x ≠ .nan → ∃ y, Store.stored? x = some y := by
    intro x hx
    cases x with
    | nan => exact absurd rfl hx
    | finite x => exact ⟨_, rfl⟩
    | infinite b => exact ⟨_, rfl⟩
  obtain ⟨price, hp⟩ := level _ hp
  obtain ⟨stop, hl⟩ := level _ hl
  obtain ⟨target, hg⟩ := level _ hg
  simp only [trade, hu, hs, hy, ht, hc, hp, hl, hg, hd, Store.require]
  exact ⟨_, rfl, rfl, rfl, rfl, rfl⟩

namespace Store

/-- Whether every balance that is found is a whole number below `2 ^ 63`. -/
def InRange (s : Store) : Prop :=
  ∀ user coins, s.coins? user = some coins → ∃ n : Int, coins = .number (.whole n) ∧ n < 2 ^ 63

theorem inRange_of_profiles {s : Store}
    (h : ∀ p ∈ s.profiles, ∃ n : Int, p.coins = .number (.whole n) ∧ n < 2 ^ 63) : s.InRange := by
  intro user coins found
  obtain ⟨p, profile, rfl⟩ := Option.map_eq_some_iff.mp found
  exact h p (List.mem_of_find?_eq_some profile)

/-- A trade taken into the books. `coins` are what is left to its user. -/
structure Booked (s : Store) (t : Trade) (coins : Int) (e : LedgerEntry) (s' : Store) : Prop where
  fresh : t.id = nextId (s.trades.map (·.id))
  only : s.hasTradeFor t.user t.script t.timeframe t.candleTime = false
  balance : s.coins? t.user = some (.number (.whole (coins + 1)))
  paid : 0 ≤ coins
  next : e.id = nextId (s.ledger.map (·.id))
  holder : e.user = t.user
  before : e.before = .number (.whole (coins + 1))
  after : e.after = .number (.whole coins)
  trade : e.trade = some t.id
  store : s' = { s.setCoins t.user (.number (.whole coins)) with
    trades := s.trades ++ [t], ledger := s.ledger ++ [e] }

theorem reserve_booked {s s' : Store} {r : Reservation} {now : String} {id : Int}
    (range : s.InRange) (h : s.reserve r now = .ok (id, s')) :
    ∃ t coins e, Booked s t coins e s' ∧ r.trade id now = .ok t := by
  simp only [reserve] at h
  split at h
  · cases h
  rename_i t ht
  have hid := (Reservation.trade_ok ht).1
  split at h
  · cases h
  rename_i only
  split at h
  · cases h
  rename_i p profile
  have found : s.coins? t.user = some p.coins := by simp [coins?, profile]
  obtain ⟨n, hn, below⟩ := range _ _ found
  rw [hn] at h found
  simp only [Figure.amount, Figure.isPositive, Amount.isPositive] at h
  have positive : 0 < n := by
    by_cases positive : 0 < n
    · exact positive
    · simp [positive] at h
  have less : (Amount.whole n).plus (-1) = .whole (n - 1) :=
    Amount.plus_whole (fitsWord_iff.mpr ⟨by omega, by omega⟩)
  have back : (Amount.whole (n - 1)).plus 1 = .whole (n - 1 + 1) :=
    Amount.plus_whole (fitsWord_iff.mpr ⟨by omega, by omega⟩)
  have kept : (Amount.whole (n - 1)).isNegative = false := by
    simp only [Amount.isNegative, decide_eq_false_iff_not]
    omega
  simp only [less, back, kept, positive, decide_true, Bool.not_true, Bool.false_eq_true, if_false,
    Except.ok.injEq, Prod.mk.injEq] at h
  obtain ⟨rfl, rfl⟩ := h
  refine ⟨t, n - 1, _, ⟨hid, by simpa using only, ?_, by omega, rfl, rfl, rfl, rfl, ?_, rfl⟩,
    ht⟩
  · rw [found, Int.sub_add_cancel]
  · rw [hid]

end Store
end SignalDesk
