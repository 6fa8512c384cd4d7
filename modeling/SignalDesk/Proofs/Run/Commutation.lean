import SignalDesk.Proofs.Network.Within
import SignalDesk.Proofs.Run.Alone
import SignalDesk.Proofs.Store.Renumbering

/-!
# Runs of two users

Where each request gets a settled reply and the clock stands still, a run does no more to the store
than to charge its user for a trade (`Run.run_effect`), and finds nothing that the charge of another
user changes (`Run.effect_alike`). So the runs of two users end alike in either order, and leave the
same rows but for the numbers of the new ones (`Run.runs_commute`).
-/

namespace SignalDesk

variable {α σ ν : Type} {replies : Request → Reply}

/-! ## What programs come to by themselves -/

theorem Hosts.askFrom_comesTo (replies : Request → Reply) (request : String → Request)
    (parse : Json → Payload.Read α) (failures : List HostFailure) (hosts : List String) :
    ∃ found, ∀ s : σ, (askFrom request parse failures hosts).comesTo replies s = (found, s) := by
  induction hosts generalizing failures with
  | nil => exact ⟨_, fun _ => rfl⟩
  | cons host hosts ih =>
    simp only [askFrom, Program.comesTo]
    cases judge parse (replies (request host)) with
    | accept a => exact ⟨.ok a, fun _ => rfl⟩
    | abort e => exact ⟨.error e, fun _ => rfl⟩
    | pass fault => exact ih (⟨host, fault⟩ :: failures)

theorem Market.get_comesTo (replies : Request → Reply) (m : Market) (path : String)
    (params : List (String × ParamValue)) (parse : Json → Payload.Read α) :
    ∃ found, ∀ s : σ, (m.get path params parse).comesTo replies s = (found, s) :=
  Hosts.askFrom_comesTo replies _ parse [] m.hosts

theorem Exchange.placeLegs_comesTo (replies : Request → Reply) (x : Exchange) (clock : Int)
    (legs : List (String × Params)) :
    ∃ placed, ∀ d : Desk, d.clock = clock →
      (x.placeLegs Desk.clock legs).comesTo replies d = (placed, d) := by
  induction legs with
  | nil => exact ⟨[], fun _ _ => rfl⟩
  | cons leg legs ih =>
    obtain ⟨placed, settled⟩ := ih
    refine ⟨if (fields .zero (replies (x.request leg.2 clock))).isOk then leg.1 :: placed
      else placed, fun d still => ?_⟩
    simp only [placeLegs, Program.comesTo, Program.map, Program.comesTo_bind, id, settled d still,
      still]
    cases fields .zero (replies (x.request leg.2 clock)) <;> rfl

namespace Run

/-- How a run of a trade ends. -/
def traded (trade : Int) (ending : Ending) : Ending :=
  ending.map fun r => { r with trade := some trade }

/-- What becomes of the order of a pending trade: the end of its run, but for the number of the
trade, and what the trade turns into. -/
structure Aftermath where
  ending : Ending
  change : Trade → Trade
  identity : ∀ t, (change t).identity = t.identity
  renumber : ∀ t id, change (t.numbered id) = (change t).numbered id

namespace Aftermath

variable (a : Activation) (signal : Signal Real64)

/-- What the exchange said cannot be kept, and the trade stays as it is. -/
def breaking (e : StoreError) : Aftermath where
  ending := .error (.store e)
  change t := t
  identity _ := rfl
  renumber _ _ := rfl

def refusal (e : OrderError) (message : String) : Aftermath where
  ending := .ok (a.result (refusedOutcome e) message (some signal))
  change t :=
    { t with
      status := if refusedOutcome e = .deferred then .cancelled else .failed
      error := some message }
  identity _ := rfl
  renumber _ _ := rfl

def filling (order : Order) (id : String) (price : Real64) (placed : List String) (clock : Int) :
    Aftermath where
  ending := .ok (a.result .executed (filledReason id placed) (some signal))
  change t :=
    { t with
      status := .opened
      order := some id
      openedAt := some (Stamp.ofMillis clock)
      entryPrice := (((some price).filter (!·.isZero)).bind Store.stored?).getD t.entryPrice
      quantity := (some order.quantity).or t.quantity }
  identity _ := rfl
  renumber _ _ := rfl

end Aftermath

theorem placeMarket_comesTo (replies : Request → Reply) (config : Config) (clock : Int)
    (order : Order) (keys : Keys) :
    ∃ answer, ∀ trade (d : Desk), d.clock = clock →
      (placeMarket config ⟨trade, order, keys⟩).comesTo replies d = (answer, d) := by
  by_cases late : config.orderTimeout.le .zero = true
  · refine ⟨.error (.timedOut config.orderTimeout), fun trade d _ => ?_⟩
    simp only [placeMarket, late, if_true]
    rfl
  · refine ⟨(Exchange.fields config.orderTimeout
      (replies ((config.exchange keys).request order.market clock))).bind
        (Exchange.acknowledgement order), fun trade d still => ?_⟩
    subst still
    simp only [placeMarket, late, Bool.false_eq_true, if_false]
    rfl

theorem conclude_comesTo (replies : Request → Reply) (config : Config) (clock : Int)
    (a : Activation) (signal : Signal Real64) (order : Order) (keys : Keys)
    (mark : Except StoreError Mark) :
    ∃ after : Aftermath, ∀ trade (d : Desk), d.clock = clock →
      (conclude config a signal ⟨trade, order, keys⟩ mark).comesTo replies d =
        (traded trade after.ending,
          { d with store := d.store.changeTrade trade Store.isPending after.change }) := by
  rcases mark with e | ⟨e, message⟩ | ⟨id, price⟩
  · refine ⟨.breaking e, fun trade d _ => ?_⟩
    have same : d.store.changeTrade trade Store.isPending id = d.store := by
      simp only [Store.changeTrade, id, ite_self, List.map_id']
    exact Prod.ext rfl (congrArg (fun s => { d with store := s }) same.symm)
  · refine ⟨.refusal a signal e message, fun trade d _ => ?_⟩
    cases e <;> rfl
  · obtain ⟨placed, legs⟩ :=
      (config.exchange keys).placeLegs_comesTo replies clock order.legs
    let after := Aftermath.filling a signal order id price placed clock
    refine ⟨after, fun trade d still => ?_⟩
    have marked : (Program.modify (markFilled ⟨trade, order, keys⟩ id price)).comesTo replies d =
        ((), { d with store := d.store.changeTrade trade Store.isPending after.change }) := by
      subst still
      rfl
    have sent := legs { d with store := d.store.changeTrade trade Store.isPending after.change } still
    simp only [conclude, Program.monad_bind_eq, Program.comesTo_bind, marked,
      Exchange.placeProtective, sent]
    rfl

theorem place_comesTo (replies : Request → Reply) (config : Config) (clock : Int) (a : Activation)
    (signal : Signal Real64) (order : Order) (keys : Keys) :
    ∃ after : Aftermath, ∀ trade (d : Desk), d.clock = clock →
      (place config a signal ⟨trade, order, keys⟩).comesTo replies d =
        (traded trade after.ending,
          { d with store := d.store.changeTrade trade Store.isPending after.change }) := by
  obtain ⟨answer, answers⟩ := placeMarket_comesTo replies config clock order keys
  obtain ⟨after, concludes⟩ :=
    conclude_comesTo replies config clock a signal order keys (markFor answer)
  refine ⟨after, fun trade d still => ?_⟩
  simp only [place, Program.monad_bind_eq, Program.comesTo_bind, answers trade d still]
  exact concludes trade d still

/-! ## What a run does to the store -/

/-- How a run ends, and in which store, when its evaluation comes to `found` and its orders to what
`after` tells. -/
def effect (config : Config) (a : Activation) (flags : Option Flags)
    (found : Except Ending (Signal Real64)) (after : Signal Real64 → Order → Keys → Aftermath)
    (now : String) (s : Store) : Ending × Store :=
  match passGates a flags s with
  | .error r => (.ok r, s)
  | .ok gate =>
    match found with
    | .error ending => (ending, s)
    | .ok signal =>
      match commit config a gate signal now s with
      | .error ending => (ending, s)
      | .ok (r, t) =>
        let rest := after signal r.order r.keys
        (traded r.trade rest.ending,
          t.changeTrade r.trade Store.isPending rest.change)

/-- Whether a program does to the store of a desk what is told, and keeps `good` what is kept
compiled. -/
def Does (replies : Request → Reply) (good : StrategyCache → Prop) (clock : Int)
    (p : Program Desk Ending) (does : Store → Ending × Store) : Prop :=
  ∀ d : Desk, d.clock = clock → good d.cache → ∃ cache, good cache ∧
    p.comesTo replies d = ((does d.store).1, { d with store := (does d.store).2, cache })

/-- Whether the script of an activation is had from good caches as it says. -/
def Serves (good : StrategyCache → Prop) (a : Activation) : Prop :=
  ∀ c, good c → (c.get a.script a.content).1 = Script.parse a.content ∧
    good (c.get a.script a.content).2

section Effect

variable {good : StrategyCache → Prop} {a : Activation} (serves : Serves good a) (config : Config)

include serves

/-- What the search for a signal comes to, whatever is kept compiled. -/
theorem signalFor_comesTo (replies : Request → Reply) (given : Option (Signal Real64)) :
    ∃ found, ∀ d : Desk, good d.cache → ∃ cache, good cache ∧
      (signalFor config a given).comesTo replies d = (found, { d with cache }) := by
  cases given with
  | some signal => exact ⟨.ok signal, fun d keeps => ⟨d.cache, keeps, rfl⟩⟩
  | none =>
    obtain ⟨candles, fetched⟩ : ∃ candles, ∀ d : Desk, (config.market.fetchCandles a.symbol
        a.timeframe (a.overrides.candleLimitOr config.candleLimit)).comesTo replies d =
          (candles, d) := config.market.get_comesTo replies _ _ _
    refine ⟨match Script.parse a.content, candles with
      | .error e, _ => .error (invalidScript a e)
      | .ok _, .error e => .error (withoutCandles a e)
      | .ok strategy, .ok candles => signalOf a (strategy.map .finite) candles,
      fun d keeps => ⟨_, (serves _ keeps).2, ?_⟩⟩
    have compiled : (Program.atomically (compile a.script a.content)).comesTo replies d =
        (Script.parse a.content, { d with cache := (d.cache.get a.script a.content).2 }) := by
      rw [← (serves _ keeps).1]
      rfl
    simp only [signalFor, evaluate, Program.monad_bind_eq, Program.comesTo_bind, compiled]
    cases Script.parse a.content with
    | error e => rfl
    | ok strategy =>
      simp only [Program.comesTo_bind, fetched]
      cases candles <;> rfl

/-- **What a run comes to.** In a store it does what its effect tells, whatever is kept compiled. -/
theorem run_effect (replies : Request → Reply) (clock : Int) (flags : Option Flags)
    (given : Option (Signal Real64)) :
    ∃ found after, Does replies good clock (run config a flags given)
      (effect config a flags found after (Stamp.ofMillis clock)) := by
  obtain ⟨found, finds⟩ := signalFor_comesTo serves config replies given
  choose after places using place_comesTo replies config clock a
  refine ⟨found, after, fun d still keeps => ?_⟩
  have now : d.now = Stamp.ofMillis clock := congrArg Stamp.ofMillis still
  obtain ⟨cache, keeps', searched⟩ := finds d keeps
  simp only [run_eq, effect, Program.comesTo_bind, Program.comesTo_read]
  cases passGates a flags d.store with
  | error r => exact ⟨d.cache, keeps, rfl⟩
  | ok gate =>
    refine ⟨cache, keeps', ?_⟩
    simp only [Program.comesTo_bind, searched]
    cases found with
    | error ending => rfl
    | ok signal =>
      simp only [follow, Program.comesTo_bind, Program.comesTo_atomically]
      rw [← now]
      cases committed : commit config a gate signal d.now d.store with
      | error ending => simp only [commitOn_error (d := { d with cache }) committed]; rfl
      | ok made =>
        obtain ⟨r, t⟩ := made
        have placed := places signal r.order r.keys r.trade { d with cache, store := t } still
        simp only [commitOn_ok (d := { d with cache }) committed, placed]

end Effect

/-! ## Effects beside each other -/

section Twins

variable {config : Config} {a : Activation} {flags : Option Flags}
  {found : Except Ending (Signal Real64)} {after : Signal Real64 → Order → Keys → Aftermath}
  {now user : String} {s s' : Store}

/-- How the effects of a run on two stores compare: it ends alike in both and leaves them as they
are, or its user is charged in both for a trade that is the same but for its number. -/
inductive Twins (a : Activation) (now : String) (s s' : Store) :
    Ending × Store → Ending × Store → Prop where
  | rests (ending : Ending) : Twins a now s s' (ending, s) (ending, s')
  | trades (ending : Ending) (t : Trade) (left : Amount) (reason : String)
      (owner : a.user.stored = some t.user) (number : t.id = s.nextTrade) :
      Twins a now s s'
        (traded s.nextTrade ending, s.charged t left reason now)
        (traded s'.nextTrade ending, s'.charged (t.numbered s'.nextTrade) left reason now)

theorem passGates_owner {gate : Gate} (gates : passGates a flags s = .ok gate) :
    ∃ owner, a.user.stored = some owner := by
  cases owner : a.user.stored with
  | some user => exact ⟨user, rfl⟩
  | none =>
    simp only [passGates, gateOf, owner, Option.bind_eq_bind, Option.bind_none] at gates
    split at gates
    · cases gates
    split at gates <;> cases gates

/-- **Users find the same.** Stores that are alike to the user of a run see the same effect. -/
theorem effect_alike (alike : s.AlikeBut user s') (apart : a.user.stored ≠ some user) :
    Twins a now s s' (effect config a flags found after now s)
      (effect config a flags found after now s') := by
  simp only [effect, ← passGates_alike alike apart flags]
  cases gates : passGates a flags s with
  | error r => exact .rests _
  | ok gate =>
    cases found with
    | error ending => exact .rests ending
    | ok signal =>
      obtain ⟨owner, owns⟩ := passGates_owner gates
      have other : owner ≠ user := fun same => apart (same ▸ owns)
      rcases commit_alike alike owns other config gate signal now now with
        ⟨ending, left, right⟩ | ⟨trade, trade', order, keys, t, t', left, right, -⟩
      · simp only [left, right]
        exact .rests ending
      · obtain ⟨_, commits⟩ := commit_commits left
        obtain ⟨_, commits'⟩ := commit_commits right
        obtain ⟨x, p, reserves, rfl, rfl⟩ := Store.reserve_ok commits.reserve
        obtain ⟨x', p', reserves', rfl, rfl⟩ := Store.reserve_ok commits'.reserve
        obtain ⟨number, pending, owned, -⟩ := Reservation.trade_ok reserves.made
        have owned : a.user.stored = some x.user := owned
        obtain ⟨rfl, rfl⟩ := reserves.alike reserves' alike fun same => apart (same ▸ owned)
        let rest := after signal order keys
        have kept := rest.identity x
        have number' : (rest.change x).id = x.id := congrArg TradeIdentity.id kept
        have owner' : (rest.change x).user = x.user := congrArg TradeIdentity.user kept
        have marks := Store.charged_changeTrade number pending kept
        have marks' := Store.charged_changeTrade (s := s') (t := x.numbered s'.nextTrade) rfl
          pending (rest.identity _)
        rw [rest.renumber] at marks'
        simp only [left, right, rest, marks, marks']
        rw [number]
        exact .trades rest.ending (rest.change x) _ _ (owner'.symm ▸ owned) (number'.trans number)

variable (config a flags found after now s) in
theorem effect_self : Twins a now s s (effect config a flags found after now s)
    (effect config a flags found after now s) := by
  by_cases nameless : a.user.stored = some ""
  · exact effect_alike (.refl s) (show a.user.stored ≠ some "x" by simp [nameless])
  · exact effect_alike (.refl s) nameless

/-- A run leaves a store as it is, or charges its user there. -/
theorem Twins.changes {x y : Ending × Store} (h : Twins a now s s' x y) :
    x.2 = s ∨ ∃ t left reason, a.user.stored = some t.user ∧
      x.2 = s.charged t left reason now := by
  cases h with
  | rests ending => exact .inl rfl
  | trades ending t left reason owner number => exact .inr ⟨t, left, reason, owner, rfl⟩

variable {b : Activation} {flags' : Option Flags} {found' : Except Ending (Signal Real64)}
  {after' : Signal Real64 → Order → Keys → Aftermath}

/-- What a run does makes no difference to another user. -/
theorem effect_beside (users : a.user.stored ≠ b.user.stored) :
    Twins b now s (effect config a flags found after now s).2
      (effect config b flags' found' after' now s)
      (effect config b flags' found' after' now (effect config a flags found after now s).2) := by
  rcases (effect_self config a flags found after now s).changes with
    same | ⟨t, left, reason, owner, charged⟩
  · rw [same]
    exact effect_self ..
  · rw [charged]
    exact effect_alike ((Store.AlikeBut.refl s).charged_own rfl).symm fun same =>
      users (owner.trans same.symm)

/-- The end of a run, with another number for its trade. -/
def renumbered (ρ : Equiv.Perm Int) (ending : Ending) : Ending :=
  ending.map fun r => { r with trade := r.trade.map ρ }

theorem renumbered_refl (ending : Ending) : renumbered (Equiv.refl Int) ending = ending := by
  cases ending <;> simp [renumbered, Except.map]

theorem renumbered_traded (ρ : Equiv.Perm Int) (trade : Int) (ending : Ending) :
    renumbered ρ (traded trade ending) = traded (ρ trade) ending := by
  cases ending <;> rfl

/-- **Effects commute.** Of two runs of different users, the one that comes second does the same,
but for the number of its trade. -/
theorem Twins.commute {x x' y y' : Ending × Store} (ofA : Twins a now s y.2 x x')
    (ofB : Twins b now s x.2 y y') (users : a.user.stored ≠ b.user.stored) :
    ∃ ρ σ : Equiv.Perm Int, x'.1 = renumbered ρ x.1 ∧ y.1 = renumbered ρ y'.1 ∧
      s.SameButNumbers ρ σ y'.2 x'.2 := by
  cases ofA with
  | rests e =>
    refine ⟨.refl _, .refl _, (renumbered_refl _).symm, ?_⟩
    cases ofB with
    | rests e' =>
      exact ⟨(renumbered_refl _).symm,
        Store.sameButNumbers_self (List.prefix_refl _) (List.prefix_refl _)⟩
    | trades ending u left reason owner number =>
      rw [Trade.numbered_of_eq number]
      exact ⟨(renumbered_refl _).symm, Store.sameButNumbers_charged ..⟩
  | trades ending t left reason owner number =>
    cases ofB with
    | rests e' =>
      refine ⟨.refl _, .refl _, (renumbered_refl _).symm, (renumbered_refl _).symm, ?_⟩
      rw [Trade.numbered_of_eq number]
      exact Store.sameButNumbers_charged ..
    | trades ending' u left' reason' owner' number' =>
      -- both would have had the next number, and the second one has the number after it
      have apart : t.user ≠ u.user := fun same =>
        users (owner.trans ((congrArg some same).trans owner'.symm))
      refine ⟨Equiv.swap s.nextTrade (s.nextTrade + 1), Equiv.swap s.nextEntry (s.nextEntry + 1),
        ?_, ?_, ?_⟩
      · rw [renumbered_traded, Equiv.swap_apply_left, Store.nextTrade_charged number']
      · rw [renumbered_traded, Store.nextTrade_charged number, Equiv.swap_apply_right]
      · simp only [Store.nextTrade_charged number', Store.nextTrade_charged number]
        exact Store.charged_comm apart number number'

end Twins

/-! ## Runs in either order -/

section Orders

variable {around : Surroundings Desk ν} (still : around.Still replies) {w : Desk × ν}

include still

/-- What two programs do one after the other. -/
theorem Does.in_turn {good : StrategyCache → Prop} (cache : good w.1.cache)
    {p q : Program Desk Ending} {does does' : Store → Ending × Store}
    (told : Does replies good w.1.clock p does) (told' : Does replies good w.1.clock q does') :
    let first := p.run around w
    let second := q.run around first.2
    first.1 = (does w.1.store).1 ∧ second.1 = (does' (does w.1.store).2).1 ∧
      second.2.1.store = (does' (does w.1.store).2).2 := by
  intro first second
  obtain ⟨kept, keeps, comes⟩ := told w.1 rfl cache
  obtain ⟨ends, leaves⟩ := Program.run_still still p w
  rw [comes] at ends leaves
  obtain ⟨_, -, comes'⟩ := told' first.2.1 (by rw [leaves]) (by rw [leaves]; exact keeps)
  obtain ⟨ends', leaves'⟩ := Program.run_still still q first.2
  rw [comes', leaves] at ends' leaves'
  exact ⟨ends, ends', congrArg Desk.store leaves'⟩

/-- **Runs of two users commute.** In still surroundings each of two runs of different users ends
alike whichever comes first, and the rows that they leave are the same, but for the numbers of the
new trades and entries of the ledger. What is kept compiled of their scripts is what these say, and
two texts of one script do not have the same digest. -/
theorem runs_commute (config : Config) {a b : Activation} (users : a.user.stored ≠ b.user.stored)
    (keeps : w.1.cache.KeepsAs a.script a.content)
    (keeps' : w.1.cache.KeepsAs b.script b.content)
    (apart : a.script.key = b.script.key → Script.digest a.content = Script.digest b.content →
      a.content = b.content)
    (flags flags' : Option Flags) (given given' : Option (Signal Real64)) :
    let ofA := run config a flags given
    let ofB := run config b flags' given'
    let first := ofA.run around w
    let second := ofB.run around first.2
    let first' := ofB.run around w
    let second' := ofA.run around first'.2
    ∃ ρ σ : Equiv.Perm Int, second'.1 = renumbered ρ first.1 ∧ first'.1 = renumbered ρ second.1 ∧
      w.1.store.SameButNumbers ρ σ second.2.1.store second'.2.1.store := by
  let good (c : StrategyCache) := c.KeepsAs a.script a.content ∧ c.KeepsAs b.script b.content
  have serves : Serves good a := fun c kept =>
    ⟨kept.1.get, kept.1.after_get kept.1 fun _ _ => rfl, kept.1.after_get kept.2 apart⟩
  have serves' : Serves good b := fun c kept =>
    ⟨kept.2.get, kept.2.after_get kept.1 fun same digests => (apart same.symm digests.symm).symm,
      kept.2.after_get kept.2 fun _ _ => rfl⟩
  obtain ⟨_, _, does⟩ := run_effect serves config replies w.1.clock flags given
  obtain ⟨_, _, does'⟩ := run_effect serves' config replies w.1.clock flags' given'
  obtain ⟨first, second, rows⟩ := does.in_turn still ⟨keeps, keeps'⟩ does'
  obtain ⟨first', second', rows'⟩ := does'.in_turn still ⟨keeps, keeps'⟩ does
  simp only [first, second, rows, first', second', rows']
  exact (effect_beside users.symm).commute (effect_beside users) users

end Orders

namespace Sample

def holder (user : String) : Activation := { activation with user }

/-- A desk with two users who may trade. -/
def pair : Desk :=
  { desk with store :=
    { store with
      profiles := store.profiles ++ [⟨some "bob", .number (.whole 1), 0, ""⟩]
      gates := store.gates ++ [⟨"bob", "cross", ⟨true, none⟩, ""⟩]
      keys := store.keys ++ [⟨"bob", Store.defaultExchange, "key", "secret", ""⟩] } }

/-- The trades after the runs of two users. -/
def bought (user user' : String) : List (Int × String) :=
  let first := (run .sample (holder user) none (some signal)).run silent (pair, ())
  let second := (run .sample (holder user') none (some signal)).run silent first.2
  second.2.1.store.trades.map fun t => (t.id, t.user)

end Sample

open Sample in
theorem sample_runs_commute :
    bought "ada" "bob" = [(1, "ada"), (2, "bob")] ∧
      bought "bob" "ada" = [(1, "bob"), (2, "ada")] ∧
      let ofAda := run .sample (holder "ada") none (some signal)
      let ofBob := run .sample (holder "bob") none (some signal)
      ∃ ρ : Equiv.Perm Int, (ofBob.run silent (pair, ())).1 =
        renumbered ρ (ofBob.run silent (ofAda.run silent (pair, ())).2).1 := by
  have still : silent.Still fun _ => .silence := ⟨fun _ _ => rfl, fun _ _ => rfl, fun _ => rfl⟩
  have users : (holder "ada").user.stored ≠ (holder "bob").user.stored := by decide
  have empty : pair.cache.KeepsAs (holder "ada").script (holder "ada").content :=
    StrategyCache.keepsAs_ofSize _ _ _
  obtain ⟨ρ, σ, -, alike, -⟩ := runs_commute still (w := (pair, ())) .sample users empty empty
    (fun _ _ => rfl) none none (some signal) (some signal)
  exact ⟨by decide +kernel, by decide +kernel, ρ, alike⟩

end Run
end SignalDesk
