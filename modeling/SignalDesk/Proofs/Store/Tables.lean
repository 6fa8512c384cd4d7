import SignalDesk.Proofs.Results
import SignalDesk.Store.Signals
import SignalDesk.Store.Trades

namespace SignalDesk
namespace Store

theorem require_ok {α : Type} {column : String} {o : Option α} {v : α} :
    require column o = .ok v ↔ o = some v := by
  cases o <;> simp [require]

theorem le_foldl_max (ids : List Int) (n : Int) : n ≤ ids.foldl max n := by
  induction ids generalizing n with
  | nil => exact Int.le_refl n
  | cons i ids ih => exact Int.le_trans (Int.le_max_left n i) (ih (max n i))

theorem lt_nextId {ids : List Int} {i : Int} (h : i ∈ ids) : i < nextId ids := by
  have below : ∀ (ids : List Int) (n : Int), i ∈ ids → i ≤ ids.foldl max n := by
    intro ids
    induction ids with
    | nil => simp
    | cons j ids ih =>
      intro n h
      rcases List.mem_cons.mp h with rfl | h
      · exact Int.le_trans (Int.le_max_right n i) (le_foldl_max ids _)
      · exact ih _ h
  have := below ids 0 h
  simp only [nextId]
  omega

variable {s : Store} {user : String}

/-- The balance in the profile of a user, if the user has one. -/
def coins? (s : Store) (user : String) : Option Figure := (s.profile? user).map (·.coins)

/-- Profiles changed in place are found by the same names. -/
theorem profile?_update (f : Profile → Profile) (keeps : ∀ p, (f p).user = p.user)
    (other : String) :
    ({ s with profiles := s.profiles.map fun p => if p.user = some user then f p else p } :
        Store).profile? other =
      (s.profile? other).map fun p => if other = user then f p else p := by
  simp only [profile?, List.find?_map]
  have names : ((fun p : Profile => p.user == some other) ∘ fun p =>
      if p.user = some user then f p else p) = fun p => p.user == some other := by
    funext p
    simp only [Function.comp]
    split
    · rw [keeps p]
    · rfl
  rw [names]
  cases found : s.profiles.find? fun p => p.user == some other with
  | none => rfl
  | some p =>
    have name : p.user = some other := by simpa using List.find?_some found
    simp [name]

theorem profile?_setCoins (coins : Figure) (other : String) :
    (s.setCoins user coins).profile? other =
      (s.profile? other).map fun p => if other = user then { p with coins } else p :=
  profile?_update (fun p => { p with coins }) (fun _ => rfl) other

theorem profile?_setSubscription (subscription : Int) (other : String) :
    (s.setSubscription user subscription).profile? other =
      (s.profile? other).map fun p => if other = user then { p with subscription } else p :=
  profile?_update (fun p => { p with subscription }) (fun _ => rfl) other

theorem coins?_setCoins (coins : Figure) (other : String) :
    (s.setCoins user coins).coins? other =
      if other = user then (s.coins? user).map fun _ => coins else s.coins? other := by
  simp only [coins?, profile?_setCoins, Option.map_map]
  split
  · rename_i same
    subst same
    rfl
  · rfl

/-- A new profile is found by its name unless there was one already. -/
theorem profile?_append (p : Profile) (other : String) :
    ({ s with profiles := s.profiles ++ [p] } : Store).profile? other =
      (s.profile? other).or (if p.user = some other then some p else none) := by
  simp only [profile?, List.find?_append]
  congr 1
  by_cases name : p.user = some other <;> simp [name]

end Store

/-- What of a trade never changes: its number and the candle that it was made for. -/
structure TradeIdentity where
  id : Int
  user : String
  script : String
  timeframe : String
  candleTime : Figure
deriving DecidableEq, Repr

def Trade.identity (t : Trade) : TradeIdentity :=
  ⟨t.id, t.user, t.script, t.timeframe, t.candleTime⟩

namespace Store

/-- The identities of the trades that were made. -/
def made (s : Store) : List TradeIdentity := s.trades.map Trade.identity

theorem made_ids (s : Store) : s.made.map (·.id) = s.trades.map (·.id) := by
  simp only [made, List.map_map]
  rfl

/-- A change of a trade in place leaves the identities alone. -/
theorem made_changeTrade {s : Store} {id : Int} {p : Trade → Bool} {change : Trade → Trade}
    (h : ∀ t, (change t).identity = t.identity) :
    (s.changeTrade id p change).made = s.made := by
  simp only [made, changeTrade, List.map_map]
  refine List.map_congr_left fun t _ => ?_
  simp only [Function.comp]
  split
  · exact h t
  · rfl

end Store
end SignalDesk
