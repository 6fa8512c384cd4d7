import SignalDesk.Proofs.Store.Reservation
import SignalDesk.Store.Scripts
import SignalDesk.Store.Signals

namespace SignalDesk

/-- Whether a coin can be taken from a balance, as the store checks it. -/
def Figure.IsSpendable (f : Figure) : Prop :=
  f.isPositive = true ∧ (f.amount.plus (-1)).isNegative = false

/-- The number of a trade and the time it was made do not decide whether it is admitted. -/
theorem Reservation.trade_renumber (r : Reservation) (id id' : Int) (now now' : String) :
    r.trade id' now' =
      (r.trade id now).map fun t => { t with id := id', createdAt := now' } := by
  obtain ⟨user, script, symbol, timeframe, side, time, price, stop, target, reason, quantity⟩ := r
  simp only [trade, bind, Except.bind, Except.map]
  cases Store.require "trades.user_id" user.stored with
  | error e => rfl
  | ok user =>
  cases Store.require "trades.script_id" script.stored with
  | error e => rfl
  | ok script =>
  cases Store.require "trades.symbol" symbol.stored with
  | error e => rfl
  | ok symbol =>
  cases Store.require "trades.timeframe" timeframe.stored with
  | error e => rfl
  | ok timeframe =>
  cases Store.figure? time with
  | error e => rfl
  | ok time =>
  dsimp only
  cases Store.require "trades.candle_open_time" time with
  | error e => rfl
  | ok time =>
  cases Store.require "trades.entry_price" (Store.stored? price) with
  | error e => rfl
  | ok price =>
  cases Store.require "trades.stop_loss" (Store.stored? stop) with
  | error e => rfl
  | ok stop =>
  cases Store.require "trades.take_profit" (Store.stored? target) with
  | error e => rfl
  | ok target => cases side <;> rfl

/-- Whom a reservation charges: nobody when there is a trade for its candle, or no coin is left. -/
def Reservation.verdict (r : Reservation) (traded : Bool) (profile : Option Profile) :
    Except ReserveError Profile :=
  if traded then .error (.duplicate r.duplicateMessage)
  else
    match profile with
    | none => .error (.noCoins r.user)
    | some p =>
      if !p.coins.isPositive then .error (.noCoins r.user)
      else if (p.coins.amount.plus (-1)).isNegative then .error (.store (.check "coins >= 0"))
      else .ok p

theorem Reservation.verdict_ok {r : Reservation} {traded : Bool} {profile : Option Profile}
    {p : Profile} :
    r.verdict traded profile = .ok p ↔
      traded = false ∧ profile = some p ∧ p.coins.IsSpendable := by
  constructor
  · intro h
    simp only [verdict] at h
    split at h
    · cases h
    rename_i untraded
    split at h
    · cases h
    split at h
    · cases h
    rename_i positive
    split at h
    · cases h
    rename_i rest
    cases h
    exact ⟨by simpa using untraded, rfl, by simpa using positive, by simpa using rest⟩
  · rintro ⟨rfl, rfl, positive, rest⟩
    simp only [verdict, positive, rest, Bool.not_true, Bool.false_eq_true, if_false]

namespace Store

variable {s s' s'' : Store} {r : Reservation} {now : String} {id : Int} {t : Trade}

/-- The store with a trade, the coins that are left to its user, and an entry that tells of it. -/
def charged (s : Store) (t : Trade) (left : Amount) (reason now : String) : Store :=
  (({ s with trades := s.trades ++ [t] }).setCoins t.user left).record t.user (left.plus 1) left
    "trade_debit" (some reason) "engine" (some t.id) now

/-- A reservation depends on its values, on whether there is a trade for its candle, and on the
profile of its user. -/
theorem reserve_eq_verdict (s : Store) (r : Reservation) (now : String) :
    s.reserve r now =
      match r.trade (nextId (s.trades.map (·.id))) now with
      | .error e => .error (.store e)
      | .ok t =>
        (r.verdict (s.hasTradeFor t.user t.script t.timeframe t.candleTime)
          (s.profile? t.user)).map fun p =>
            (t.id, s.charged t (p.coins.amount.plus (-1)) r.ledgerReason now) := by
  simp only [reserve]
  cases made : r.trade (nextId (s.trades.map (·.id))) now with
  | error e => rfl
  | ok t =>
    have number : t.id = nextId (s.trades.map (·.id)) := (Reservation.trade_ok made).1
    simp only [Reservation.verdict, charged, number]
    split
    · rfl
    cases s.profile? t.user with
    | none => rfl
    | some p =>
      dsimp only
      split
      · rfl
      · split <;> rfl

/-- Whether a reservation makes a trade, and whom it charges. -/
structure Reserves (s : Store) (r : Reservation) (now : String) (t : Trade) (p : Profile) :
    Prop where
  made : r.trade (nextId (s.trades.map (·.id))) now = .ok t
  only : s.hasTradeFor t.user t.script t.timeframe t.candleTime = false
  profile : s.profile? t.user = some p
  spendable : p.coins.IsSpendable

theorem Reserves.reserve_eq {p : Profile} (h : s.Reserves r now t p) :
    s.reserve r now =
      .ok (t.id, s.charged t (p.coins.amount.plus (-1)) r.ledgerReason now) := by
  have admitted := (Reservation.verdict_ok (r := r)).mpr ⟨h.only, h.profile, h.spendable⟩
  simp only [reserve_eq_verdict, h.made, admitted, Except.map]

theorem reserve_ok (h : s.reserve r now = .ok (id, s')) :
    ∃ t p, s.Reserves r now t p ∧ id = t.id ∧
      s' = s.charged t (p.coins.amount.plus (-1)) r.ledgerReason now := by
  rw [reserve_eq_verdict] at h
  split at h
  · cases h
  · rename_i t made
    obtain ⟨p, admitted, same⟩ := map_ok.mp h
    obtain ⟨only, profile, spendable⟩ := Reservation.verdict_ok.mp admitted
    cases same
    exact ⟨t, p, ⟨made, only, profile, spendable⟩, rfl, rfl⟩

/-- A reservation adds its trade. -/
theorem reserve_trades (h : s.reserve r now = .ok (id, s')) :
    ∃ t, r.trade (nextId (s.trades.map (·.id))) now = .ok t ∧ t.id = id ∧
      s'.trades = s.trades ++ [t] := by
  obtain ⟨t, p, reserves, rfl, rfl⟩ := reserve_ok h
  exact ⟨t, reserves.made, rfl, rfl⟩

/-- A reserved trade is new, and the last one. -/
theorem reserve_made (h : s.reserve r now = .ok (id, s')) :
    ∃ k : TradeIdentity, k.id = nextId (s.trades.map (·.id)) ∧ s'.made = s.made ++ [k] := by
  obtain ⟨t, made, -, trades⟩ := reserve_trades h
  refine ⟨t.identity, (Reservation.trade_ok made).1, ?_⟩
  simp only [Store.made, trades, List.map_append, List.map_cons, List.map_nil]

section Charged

variable {left : Amount} {reason : String}

theorem profile?_charged (user : String) :
    (s.charged t left reason now).profile? user =
      (s.profile? user).map fun p => if user = t.user then { p with coins := left } else p :=
  profile?_setCoins (s := { s with trades := s.trades ++ [t] }) left user

theorem hasTradeFor_charged (user script timeframe : String) (time : Figure) :
    (s.charged t left reason now).hasTradeFor user script timeframe time =
      (s.hasTradeFor user script timeframe time || isTradeFor user script timeframe time t) := by
  change (s.trades ++ [t]).any _ = _
  rw [List.any_append, List.any_cons, List.any_nil, Bool.or_false]
  rfl

end Charged

/-- A trade is looked for by what never changes of it. -/
theorem hasTradeFor_eq (s : Store) (user script timeframe : String) (time : Figure) :
    s.hasTradeFor user script timeframe time =
      s.made.any fun k => k.user == user && k.script == script && k.timeframe == timeframe &&
        k.candleTime.same time := by
  simp only [made, List.any_map]
  rfl

/-- Whether a store comes from another one by nothing but charges for trades and what becomes of
them. Who had no coin to spend has none now, and a trade that was made is there. -/
structure Spent (s s' : Store) : Prop where
  scripts : s'.scripts = s.scripts
  activations : s'.activations = s.activations
  gates : s'.gates = s.gates
  signals : s'.signals = s.signals
  keys : s'.keys = s.keys
  flags : s'.flags = s.flags
  profiles : ∀ user, Option.Rel
    (fun p p' => p'.subscription = p.subscription ∧ (p'.coins.IsSpendable → p.coins.IsSpendable))
    (s.profile? user) (s'.profile? user)
  trades : ∀ user script timeframe time, s.hasTradeFor user script timeframe time = true →
    s'.hasTradeFor user script timeframe time = true

namespace Spent

theorem refl (s : Store) : s.Spent s := by
  constructor
  case profiles =>
    intro user
    cases s.profile? user with
    | none => exact .none
    | some p => exact .some ⟨rfl, id⟩
  case trades => exact fun _ _ _ _ had => had
  all_goals rfl

theorem trans (first : s.Spent s') (second : s'.Spent s'') : s.Spent s'' := by
  constructor
  case scripts => exact second.scripts.trans first.scripts
  case activations => exact second.activations.trans first.activations
  case gates => exact second.gates.trans first.gates
  case signals => exact second.signals.trans first.signals
  case keys => exact second.keys.trans first.keys
  case flags => exact second.flags.trans first.flags
  case profiles =>
    intro user
    have before := first.profiles user
    have after := second.profiles user
    generalize s.profile? user = p, s'.profile? user = p', s''.profile? user = p'' at before after ⊢
    cases before with
    | none =>
      cases after
      exact .none
    | some old =>
      cases after with
      | some new => exact .some ⟨new.1.trans old.1, fun spendable => old.2 (new.2 spendable)⟩
  case trades => exact fun _ _ _ _ had => second.trades _ _ _ _ (first.trades _ _ _ _ had)

theorem of_made (h : ∃ trades, s' = { s with trades := trades }) (made : s'.made = s.made) :
    s.Spent s' := by
  obtain ⟨trades, rfl⟩ := h
  have same := refl s
  constructor
  case profiles => exact same.profiles
  case trades =>
    intro user script timeframe time had
    rwa [hasTradeFor_eq, made, ← hasTradeFor_eq]
  all_goals rfl

theorem of_reserve (h : s.reserve r now = .ok (id, s')) : s.Spent s' := by
  obtain ⟨t, p, reserves, -, rfl⟩ := reserve_ok h
  constructor
  case profiles =>
    intro user
    rw [profile?_charged]
    cases found : s.profile? user with
    | none => exact .none
    | some q =>
      refine .some ?_
      split
      · rename_i mine
        subst mine
        rw [reserves.profile] at found
        cases found
        exact ⟨rfl, fun _ => reserves.spendable⟩
      · exact ⟨rfl, fun spendable => spendable⟩
  case trades =>
    intro user script timeframe time had
    rw [hasTradeFor_charged, had, Bool.true_or]
  all_goals rfl

end Spent
end Store
end SignalDesk
