import Mathlib.Logic.Function.Basic
import SignalDesk.Proofs.Ledger.Debits
import SignalDesk.Proofs.Network.Moves
import SignalDesk.Proofs.Run.Commitment
import SignalDesk.Proofs.Run.Settlement

/-!
# Contests

Runs that nothing keeps apart, any number of them at one desk, moving one at a time in any order
while others do what they do. Only one of them ever sends the market order for a candle, when the
trade and its debit are in the store; the others that come to the reservation are turned down
(`one_order_per_candle`).
-/

namespace SignalDesk
namespace Contest

/-- One call of a run. -/
structure Call where
  config : Config
  activation : Activation
  flags : Option Flags
  given : Option (Signal Real64)

namespace Call

variable (c : Call)

def program : Program Desk Run.Ending := Run.run c.config c.activation c.flags c.given

/-- What is left of a call that is past its gate and has a signal, before it checks that against the
store and reserves a trade. -/
def commitment (gate : Gate) (signal : Signal Real64) : Program Desk Run.Ending :=
  Run.follow c.config c.activation gate (.ok signal)

/-- Whether a call, by a change of the desk, makes the trade `k` in the names of its activation, and
enters the debit. -/
structure Reserves (d d' : Desk) (k : TradeIdentity) : Prop where
  user : c.activation.user.stored = some k.user
  script : c.activation.script.stored = some k.script
  timeframe : c.activation.timeframe.stored = some k.timeframe
  made : d'.store.made = d.store.made ++ [k]
  debit : ∃ e, d'.store.ledger = d.store.ledger ++ [e] ∧ e.trade = some k.id ∧ e.user = k.user

/-- Whether a call with a signal gets as far as the reservation of a trade for a candle, or to the
checks right before it that there is none yet. -/
structure Reaches (gate : Gate) (signal : Signal Real64) (candle : Option Figure) (d : Desk) :
    Prop where
  side : signal.side.isNone = false
  time : Run.timeOf gate signal = .ok (some candle)
  keys : (c.activation.user.stored.bind d.store.orderKeys?).isSome = true

end Call

/-- Whether a run that ends so was turned down for a candle: there is a trade, no coin is left, or
the store refuses it. -/
def TurnedDown : Run.Ending → Prop
  | .ok r => r.outcome = .skippedDuplicate ∨ r.outcome = .skippedNoBudget
  | .error _ => True

/-! ## One call -/

section Calls

variable {c : Call} {d d' : Desk} {gate : Gate} {signal : Signal Real64} {candle : Option Figure}

/-- Whether a call, by a change of the desk, reserves a trade for a candle that had none, and does
no more than place its order from there on. -/
def Call.Commits (c : Call) (d d' : Desk) (p : Program Desk Run.Ending) : Prop :=
  ∃ k, c.Reserves d d' k ∧ (∀ l ∈ d.store.made, l.sameCandle k = false) ∧
    p.Within (fun _ => True) Desk.Marks (Run.EndsWith k.id) ∧ p.AtMost (·.IsMarket) 1

theorem placeMarket_atMost (config : Config) (r : Run.Reserved) :
    (Run.placeMarket config r).AtMost (·.IsMarket) 1 := by
  by_cases late : config.orderTimeout.le .zero = true
  · simp only [Run.placeMarket, late, if_true]
    exact trivial
  · simp only [Run.placeMarket, late, Bool.false_eq_true, if_false]
    exact fun d => ⟨0, Nat.zero_le 1, fun _ => Nat.one_pos, fun _ => trivial⟩

/-- No more than one market order comes of a reserved trade. -/
theorem place_atMost (config : Config) (a : Activation) (signal : Signal Real64)
    (r : Run.Reserved) : (Run.place config a signal r).AtMost (·.IsMarket) 1 := by
  refine (placeMarket_atMost config r).bind fun answer => ?_
  have concludes : (Run.conclude config a signal r (Run.markFor answer)).Within (·.IsProtective)
      (fun _ _ => True) fun _ => True :=
    Run.conclude_looks (fun _ => trivial) (fun _ _ _ => trivial) (fun _ _ _ => trivial)
      (fun _ _ => trivial) fun _ _ => trivial
  exact concludes.atMost (P := (·.IsMarket)) fun _ leg => leg.not_isMarket

theorem commits_of_commit {r : Run.Reserved} {s : Store}
    (committed : Run.commit c.config c.activation gate signal d.now d.store = .ok (r, s)) :
    ∃ k, Store.figure? signal.candleTime = .ok (some k.candleTime) ∧ k.id = r.trade ∧
      c.Reserves d { d with store := s } k ∧ ∀ l ∈ d.store.made, l.sameCandle k = false := by
  obtain ⟨candle, commits⟩ := Run.commit_commits committed
  obtain ⟨t, p, reserves, number, rfl⟩ := Store.reserve_ok commits.reserve
  obtain ⟨-, -, user, script, timeframe, figure, -⟩ := Reservation.trade_ok reserves.made
  refine ⟨t.identity, figure, number.symm, ⟨user, script, timeframe, ?made, ?debit⟩, ?fresh⟩
  case made => simp [Store.made, Store.charged, Store.setCoins, Store.record]
  case debit => exact ⟨_, rfl, rfl, rfl⟩
  case fresh =>
    intro l hl
    have only := reserves.only
    rw [Store.hasTradeFor_eq] at only
    simpa [TradeIdentity.sameCandle, Trade.identity] using List.any_eq_false.mp only l hl

/-- A call only asks the market before it commits itself. -/
theorem program_until (c : Call) :
    c.program.Until (·.method = .get) Desk.SameStore (fun ending => Run.tradeOf ending = none)
      c.Commits := by
  rw [Call.program, Run.run_eq]
  refine fun d => .inl ⟨rfl, ?_⟩
  dsimp only
  cases gates : Run.passGates c.activation c.flags d.store with
  | error r => exact Run.passGates_noTrade gates
  | ok gate =>
    refine (Run.signalFor_within c.config c.activation c.given).until_bind fun found unplaced => ?_
    cases found with
    | error ending => exact (unplaced ending rfl).noTrade
    | ok signal =>
      intro d
      cases committed : Run.commit c.config c.activation gate signal d.now d.store with
      | error ending =>
        left
        simp only [Run.commitOn_error committed]
        exact ⟨rfl, Run.commit_noTrade _ _ _ _ _ _ ending committed⟩
      | ok made =>
        obtain ⟨r, s⟩ := made
        obtain ⟨k, -, number, reserves, fresh⟩ := commits_of_commit committed
        right
        simp only [Run.commitOn_ok committed]
        exact ⟨k, reserves, fresh, number ▸ Run.place_marks .., place_atMost ..⟩

/-- A call that comes to the reservation and does not commit itself is turned down. -/
theorem turnedDown_of_commit {now : String} {ending : Run.Ending}
    (reaches : c.Reaches gate signal candle d)
    (refused : Run.commit c.config c.activation gate signal now d.store = .error ending) :
    TurnedDown ending := by
  obtain ⟨keys, found⟩ := Option.isSome_iff_exists.mp reaches.keys
  simp only [Run.commit, reaches.side, Bool.false_eq_true, if_false, reaches.time, found] at refused
  split at refused
  · exact Except.error.inj refused ▸ .inl rfl
  split at refused
  · exact Except.error.inj refused ▸ .inl rfl
  split at refused
  · cases refused
  · exact Except.error.inj refused ▸ .inl rfl
  · exact Except.error.inj refused ▸ .inr rfl
  · exact Except.error.inj refused ▸ trivial

end Calls

/-! ## Calls beside each other -/

/-- A move of one of the calls: what was left of it before and after, and the desk then. -/
structure Entry (ι : Type) where
  caller : ι
  before : Program Desk Run.Ending × Desk
  after : Program Desk Run.Ending × Desk

namespace Entry

variable {ι : Type}

/-- Whether a call comes by a move to wait for the reply to a market order. -/
def SendsMarket (e : Entry ι) : Prop := ∃ r ∈ e.after.1.asks?, r.IsMarket

instance (e : Entry ι) : Decidable e.SendsMarket := inferInstanceAs (Decidable (∃ _ ∈ _, _))

/-- Whether a move leaves the store as it is. -/
def Quiet (e : Entry ι) : Prop := e.after.2.store = e.before.2.store

end Entry

end Contest

/-- Whether a trade and its debit are in a store. -/
def Store.Holds (s : Store) (k : TradeIdentity) : Prop :=
  k ∈ s.made ∧ ∃ e ∈ s.ledger, e.trade = some k.id ∧ e.user = k.user

/-- Whether no trade and no entry of the ledger is lost from one desk to another. -/
structure Desk.Grows (d d' : Desk) : Prop where
  made : d.store.made <+: d'.store.made
  ledger : d.store.ledger <+: d'.store.ledger

namespace Desk.Grows

variable {d d' : Desk} {k : TradeIdentity}

theorem of_same (h : d.SameStore d') : d.Grows d' := by
  rw [Desk.SameStore] at h
  exact ⟨h ▸ List.prefix_rfl, h ▸ List.prefix_rfl⟩

theorem of_marks (h : d.Marks d') : d.Grows d' := by
  obtain ⟨trades, made, rfl⟩ := h
  exact ⟨made ▸ List.prefix_rfl, List.prefix_rfl⟩

theorem holds (h : d.Grows d') (holds : d.store.Holds k) : d'.store.Holds k := by
  obtain ⟨made, e, entered, told⟩ := holds
  exact ⟨h.made.subset made, e, h.ledger.subset entered, told⟩

end Desk.Grows

namespace Contest

theorem Call.Reserves.grows {c : Call} {d d' : Desk} {k : TradeIdentity} (h : c.Reserves d d' k) :
    d.Grows d' := by
  obtain ⟨e, ledger, -⟩ := h.debit
  exact ⟨⟨[k], h.made.symm⟩, ⟨[e], ledger.symm⟩⟩

theorem Call.Reserves.holds {c : Call} {d d' : Desk} {k : TradeIdentity} (h : c.Reserves d d' k) :
    d'.store.Holds k := by
  obtain ⟨e, ledger, told⟩ := h.debit
  refine ⟨h.made ▸ List.mem_append_right _ List.mem_cons_self, e, ?_, told⟩
  exact ledger ▸ List.mem_append_right _ List.mem_cons_self

/-- Nothing is reserved where no trade is new. -/
theorem Call.Reserves.new {c : Call} {d d' : Desk} {k : TradeIdentity} (h : c.Reserves d d' k) :
    d'.store.made ≠ d.store.made := by
  intro same
  have := congrArg List.length (h.made.symm.trans same)
  simp at this

/-- A desk, what is left of each of the calls, and their moves so far, the latest first. -/
structure Arena (ι : Type) where
  desk : Desk
  rest : ι → Program Desk Run.Ending
  log : List (Entry ι)

namespace Arena

variable {ι : Type} [DecidableEq ι]

/-- Calls that are yet to begin. -/
def start (calls : ι → Call) (d : Desk) : Arena ι := ⟨d, fun i => (calls i).program, []⟩

/-- The arena after a move of one call. -/
def moved (w : Arena ι) (i : ι) (p : Program Desk Run.Ending) (d : Desk) : Arena ι :=
  ⟨d, Function.update w.rest i p, ⟨i, (w.rest i, w.desk), (p, d)⟩ :: w.log⟩

@[simp] theorem rest_moved (w : Arena ι) (i : ι) (p : Program Desk Run.Ending) (d : Desk) :
    (w.moved i p d).rest i = p := by
  simp only [moved, Function.update_self]

theorem rest_moved_of_ne (w : Arena ι) {i j : ι} (other : j ≠ i) (p : Program Desk Run.Ending)
    (d : Desk) : (w.moved i p d).rest j = w.rest j := by
  simp only [moved, Function.update_of_ne other]

/-- What happens in an arena: a call moves, or others change the desk and lose no trade and no entry
of the ledger. -/
inductive Step : Arena ι → Arena ι → Prop where
  | move {w : Arena ι} (i : ι) {p : Program Desk Run.Ending} {d : Desk}
      (move : Program.Move (w.rest i, w.desk) (p, d)) : Step w (w.moved i p d)
  | elsewhere {w : Arena ι} {d : Desk} (grows : w.desk.Grows d) : Step w { w with desk := d }

/-- The arenas that come about. -/
inductive Reachable (calls : ι → Call) : Arena ι → Prop where
  | start (d : Desk) : Reachable calls (start calls d)
  | step {w w' : Arena ι} (h : Reachable calls w) (step : Step w w') : Reachable calls w'

/-- Whether a call has made the trade `k`. -/
def Trades (calls : ι → Call) (w : Arena ι) (i : ι) (k : TradeIdentity) : Prop :=
  ∃ e ∈ w.log, e.caller = i ∧ (calls i).Reserves e.before.2 e.after.2 k

/-- The arena after a call has made its move, if it has not ended, and heard a reply if it waits
for one. -/
def go (w : Arena ι) (i : ι) (reply : Reply) : Arena ι :=
  match w.rest i with
  | .done _ => w
  | .ask _ k => w.moved i (k reply) w.desk
  | .pause p => w.moved i p w.desk
  | .turn p => w.moved i p w.desk
  | .act f k => w.moved i (k w.desk) (f w.desk)

theorem Reachable.go {calls : ι → Call} {w : Arena ι} (h : Reachable calls w) (i : ι)
    (reply : Reply) : Reachable calls (w.go i reply) := by
  simp only [Arena.go]
  split
  · exact h
  · rename_i r k rest
    exact h.step (.move i (rest ▸ .hear r k reply w.desk))
  · rename_i p rest
    exact h.step (.move i (rest ▸ .wake p w.desk))
  · rename_i p rest
    exact h.step (.move i (rest ▸ .turn p w.desk))
  · rename_i f k rest
    exact h.step (.move i (rest ▸ .act f k w.desk))

/-- How a call stands: it has changed nothing, or it has made its trade and sends one market order
at most. -/
inductive Stands (calls : ι → Call) (w : Arena ι) (i : ι) : Prop where
  | seeking
      (bounds : (w.rest i).Until (·.method = .get) Desk.SameStore
        (fun ending => Run.tradeOf ending = none) (calls i).Commits)
      (quiet : ∀ e ∈ w.log, e.caller = i → e.Quiet ∧ ¬e.SendsMarket)
  | placing (k : TradeIdentity) (trades : w.Trades calls i k) (holds : w.desk.store.Holds k)
      (within : (w.rest i).Within (fun _ => True) Desk.Marks (Run.EndsWith k.id))
      (left : (w.rest i).Left (·.IsMarket) 1)
      (sent : (∃ e ∈ w.log, e.caller = i ∧ e.SendsMarket) → (w.rest i).Left (·.IsMarket) 0)
      (held : ∀ e ∈ w.log, e.caller = i → e.SendsMarket → e.after.2.store.Holds k)

section Steps

variable {calls : ι → Call} {w w' : Arena ι} {i j : ι} {p : Program Desk Run.Ending} {d : Desk}

omit [DecidableEq ι] in
/-- What others do does not change how a call stands. -/
theorem Stands.later (h : Stands calls w j) (rest : w'.rest j = w.rest j)
    (log : ∀ e, e.caller = j → (e ∈ w'.log ↔ e ∈ w.log)) (grows : w.desk.Grows w'.desk) :
    Stands calls w' j := by
  cases h with
  | seeking bounds quiet =>
    exact .seeking (rest ▸ bounds) fun e he mine => quiet e ((log e mine).mp he) mine
  | placing k trades holds within left sent held =>
    obtain ⟨b, hb, mine, reserves⟩ := trades
    refine .placing k ⟨b, (log b mine).mpr hb, mine, reserves⟩ (grows.holds holds) (rest ▸ within)
      (rest ▸ left) ?_ fun e he mine => held e ((log e mine).mp he) mine
    rintro ⟨e, he, mine, market⟩
    exact rest ▸ sent ⟨e, (log e mine).mp he, mine, market⟩

/-- What a call that has changed nothing does by a move. -/
theorem Stands.seeks (bounds : (w.rest i).Until (·.method = .get) Desk.SameStore
      (fun ending => Run.tradeOf ending = none) (calls i).Commits)
    (quiet : ∀ e ∈ w.log, e.caller = i → e.Quiet ∧ ¬e.SendsMarket)
    (move : Program.Move (w.rest i, w.desk) (p, d)) :
    Stands calls (w.moved i p d) i ∧ w.desk.Grows d ∧
      ∀ k, (calls i).Reserves w.desk d k → ∀ l ∈ w.desk.store.made, l.sameCandle k = false := by
  have rest : p = (w.moved i p d).rest i := (rest_moved w i p d).symm
  rcases bounds.move (fun _ => rfl) move with ⟨same, bounds⟩ | ⟨k, reserves, fresh, within, atMost⟩
  · refine ⟨.seeking (rest ▸ bounds) (List.forall_mem_cons.mpr ⟨fun _ => ⟨same, ?_⟩, quiet⟩),
      .of_same same, fun k reserves => absurd (congrArg Store.made same) reserves.new⟩
    rintro ⟨r, asked, post, -⟩
    rw [bounds.asks asked] at post
    exact nomatch post
  · refine ⟨.placing k ⟨_, List.mem_cons_self, rfl, reserves⟩ reserves.holds (rest ▸ within)
      (rest ▸ atMost.left) ?sent ?held, reserves.grows, ?apart⟩
    case sent =>
      rintro ⟨e, he, mine, market⟩
      rcases List.mem_cons.mp he with rfl | he
      · obtain ⟨r, asked, isMarket⟩ := market
        obtain ⟨m, less, left⟩ := atMost.left_asks asked isMarket
        obtain rfl : m = 0 := by omega
        exact rest ▸ left
      · exact absurd market (quiet e he mine).2
    case held =>
      refine List.forall_mem_cons.mpr ⟨fun _ _ => reserves.holds, fun e he mine market => ?_⟩
      exact absurd market (quiet e he mine).2
    case apart =>
      intro l again
      obtain rfl : l = k := by
        have both := again.made.symm.trans reserves.made
        simpa using both
      exact fresh

/-- What a call that has made its trade does by a move. -/
theorem Stands.places {k : TradeIdentity} (trades : w.Trades calls i k)
    (holds : w.desk.store.Holds k)
    (within : (w.rest i).Within (fun _ => True) Desk.Marks (Run.EndsWith k.id))
    (left : (w.rest i).Left (·.IsMarket) 1)
    (sent : (∃ e ∈ w.log, e.caller = i ∧ e.SendsMarket) → (w.rest i).Left (·.IsMarket) 0)
    (held : ∀ e ∈ w.log, e.caller = i → e.SendsMarket → e.after.2.store.Holds k)
    (move : Program.Move (w.rest i, w.desk) (p, d)) :
    Stands calls (w.moved i p d) i ∧ w.desk.Grows d ∧
      ∀ k, (calls i).Reserves w.desk d k → ∀ l ∈ w.desk.store.made, l.sameCandle k = false := by
  have rest : p = (w.moved i p d).rest i := (rest_moved w i p d).symm
  obtain ⟨within, marks⟩ := within.move Desk.Marks.refl move
  have grows : w.desk.Grows d := .of_marks marks
  have atMost := left.move move
  obtain ⟨b, hb, mine, reserves⟩ := trades
  refine ⟨.placing k ⟨b, List.mem_cons_of_mem _ hb, mine, reserves⟩ (grows.holds holds)
    (rest ▸ within) (rest ▸ atMost.left) ?sent ?held, grows, ?apart⟩
  case sent =>
    rintro ⟨e, he, mine, market⟩
    rw [← rest]
    rcases List.mem_cons.mp he with rfl | he
    · obtain ⟨r, asked, isMarket⟩ := market
      obtain ⟨m, less, left⟩ := atMost.left_asks asked isMarket
      obtain rfl : m = 0 := by omega
      exact left
    · exact ((sent ⟨e, he, mine, market⟩).move move).left
  case held =>
    exact List.forall_mem_cons.mpr ⟨fun _ _ => grows.holds holds, held⟩
  case apart =>
    intro l again
    obtain ⟨ts, made, rfl⟩ := marks
    exact absurd made again.new

/-- **Moves of a call.** No trade is lost by a move, and what a call reserves by it is for a candle
that had no trade. -/
theorem Stands.move (h : Stands calls w i) (move : Program.Move (w.rest i, w.desk) (p, d)) :
    Stands calls (w.moved i p d) i ∧ w.desk.Grows d ∧
      ∀ k, (calls i).Reserves w.desk d k → ∀ l ∈ w.desk.store.made, l.sameCandle k = false := by
  cases h with
  | seeking bounds quiet => exact Stands.seeks bounds quiet move
  | placing k trades holds within left sent held =>
    exact Stands.places trades holds within left sent held move

omit [DecidableEq ι] in
/-- A call that has sent its market order sends no other. -/
theorem Stands.sends_once (h : Stands calls w i) (move : Program.Move (w.rest i, w.desk) (p, d))
    {e : Entry ι} (he : e ∈ w.log) (mine : e.caller = i) (market : e.SendsMarket) {r : Request}
    (asked : p.asks? = some r) : ¬r.IsMarket := by
  intro isMarket
  cases h with
  | seeking bounds quiet => exact (quiet e he mine).2 market
  | placing k trades holds within left sent held =>
    obtain ⟨m, less, -⟩ := ((sent ⟨e, he, mine, market⟩).move move).left_asks asked isMarket
    exact Nat.not_lt_zero m less

end Steps

/-! ## From move to move -/

/-- What holds of an arena before and after each move. -/
structure Sound (calls : ι → Call) (w : Arena ι) : Prop where
  stands : ∀ i, Stands calls w i
  held : ∀ e ∈ w.log, ∀ k, (calls e.caller).Reserves e.before.2 e.after.2 k →
    k ∈ w.desk.store.made
  apart : w.log.Pairwise fun e f => ∀ k l, (calls e.caller).Reserves e.before.2 e.after.2 k →
    (calls f.caller).Reserves f.before.2 f.after.2 l → k.sameCandle l = false
  once : w.log.Pairwise fun e f => e.SendsMarket → f.SendsMarket → e.caller ≠ f.caller
  moves : ∀ e ∈ w.log, Program.Move e.before e.after
  ended : ∀ e ∈ w.log, ∀ ending, e.after.1 = .done ending → w.rest e.caller = .done ending

section Sound

variable {calls : ι → Call} {w w' : Arena ι}

omit [DecidableEq ι] in
theorem sound_start (calls : ι → Call) (d : Desk) : (start calls d).Sound calls := by
  constructor
  case stands => exact fun i => .seeking (program_until (calls i)) (by simp [start])
  all_goals simp [start]

theorem Sound.moved {i : ι} {p : Program Desk Run.Ending} {d : Desk} (sound : w.Sound calls)
    (move : Program.Move (w.rest i, w.desk) (p, d)) : (w.moved i p d).Sound calls := by
  obtain ⟨stands, grows, fresh⟩ := (sound.stands i).move move
  constructor
  case stands =>
    intro j
    by_cases same : j = i
    · exact same ▸ stands
    · refine (sound.stands j).later (rest_moved_of_ne w same p d) (fun e mine => ?_) grows
      exact ⟨fun he => (List.mem_cons.mp he).resolve_left fun new => same (mine ▸ new ▸ rfl),
        List.mem_cons_of_mem _⟩
  case held =>
    refine List.forall_mem_cons.mpr ⟨fun k reserves => reserves.holds.1, fun e he k reserves => ?_⟩
    exact grows.made.subset (sound.held e he k reserves)
  case apart =>
    refine List.pairwise_cons.mpr ⟨fun f hf k l new old => ?_, sound.apart⟩
    rw [TradeIdentity.sameCandle_comm]
    exact fresh k new l (sound.held f hf l old)
  case once =>
    refine List.pairwise_cons.mpr ⟨fun f hf new old mine => ?_, sound.once⟩
    obtain ⟨r, asked, isMarket⟩ := new
    exact (sound.stands i).sends_once move hf mine.symm old asked isMarket
  case moves => exact List.forall_mem_cons.mpr ⟨move, sound.moves⟩
  case ended =>
    refine List.forall_mem_cons.mpr ⟨fun ending done => (rest_moved w i p d).trans done,
      fun e he ending done => ?_⟩
    have finished := sound.ended e he ending done
    have other : e.caller ≠ i := by
      rintro rfl
      rw [finished] at move
      exact nomatch move
    exact (rest_moved_of_ne w other p d).trans finished

theorem Step.sound (step : Step w w') (sound : w.Sound calls) : w'.Sound calls := by
  cases step with
  | move i move => exact sound.moved move
  | elsewhere grows =>
    refine ⟨fun i => ?_, fun e he k reserves => ?_, sound.apart, sound.once, sound.moves,
      sound.ended⟩
    · exact (sound.stands i).later rfl (fun _ _ => .rfl) grows
    · exact grows.made.subset (sound.held e he k reserves)

theorem Reachable.sound (h : Reachable calls w) : w.Sound calls := by
  induction h with
  | start d => exact sound_start calls d
  | step _ step ih => exact step.sound ih

end Sound

/-- How calls that contend for candles come off. -/
structure Orderly (calls : ι → Call) (w : Arena ι) : Prop where
  /-- A market order is sent for a trade that the call has made, when the trade and its debit are in
  the store. -/
  committed : ∀ e ∈ w.log, e.SendsMarket →
    ∃ k, w.Trades calls e.caller k ∧ e.after.2.store.Holds k
  /-- No two market orders are sent for the same candle. -/
  single : w.log.Pairwise fun e f => e.SendsMarket → f.SendsMarket →
    ∀ k l, w.Trades calls e.caller k → w.Trades calls f.caller l → k.sameCandle l = false
  /-- No two calls make a trade for the same candle. -/
  apart : ∀ i j, i ≠ j → ∀ k l, w.Trades calls i k → w.Trades calls j l → k.sameCandle l = false
  /-- A call that comes to the reservation for a candle makes its trade, or it is turned down and ends
  without a change of the store. -/
  others : ∀ e ∈ w.log, ∀ gate signal candle,
    e.before.1 = (calls e.caller).commitment gate signal →
      (calls e.caller).Reaches gate signal candle e.before.2 →
        (∃ k, candle = some k.candleTime ∧ (calls e.caller).Reserves e.before.2 e.after.2 k) ∨
          ∃ ending, e.after = (.done ending, e.before.2) ∧ TurnedDown ending ∧
            w.rest e.caller = .done ending ∧ ∀ f ∈ w.log, f.caller = e.caller → f.Quiet

section Orderly

variable {calls : ι → Call} {w : Arena ι}

omit [DecidableEq ι] in
theorem Sound.apart_calls (sound : w.Sound calls) {i j : ι} (other : i ≠ j) {k l : TradeIdentity}
    (mine : w.Trades calls i k) (yours : w.Trades calls j l) : k.sameCandle l = false := by
  let R (e f : Entry ι) : Prop := ∀ k l, (calls e.caller).Reserves e.before.2 e.after.2 k →
    (calls f.caller).Reserves f.before.2 f.after.2 l → k.sameCandle l = false
  have symmetric : Std.Symm R := ⟨fun e f h k l hk hl => by
    rw [TradeIdentity.sameCandle_comm]
    exact h l k hl hk⟩
  obtain ⟨b, hb, rfl, reserves⟩ := mine
  obtain ⟨c, hc, rfl, reserves'⟩ := yours
  have distinct : b ≠ c := fun same => other (congrArg Entry.caller same)
  have apart : w.log.Pairwise R := sound.apart
  exact apart.forall hb hc distinct k l reserves reserves'

omit [DecidableEq ι] in
/-- What becomes of a call that comes to the reservation. -/
theorem Sound.comes_off (sound : w.Sound calls) {e : Entry ι} (he : e ∈ w.log) {gate : Gate}
    {signal : Signal Real64} {candle : Option Figure}
    (comes : e.before.1 = (calls e.caller).commitment gate signal)
    (reaches : (calls e.caller).Reaches gate signal candle e.before.2) :
    (∃ k, candle = some k.candleTime ∧ (calls e.caller).Reserves e.before.2 e.after.2 k) ∨
      ∃ ending, e.after = (.done ending, e.before.2) ∧ TurnedDown ending ∧
        w.rest e.caller = .done ending ∧ ∀ f ∈ w.log, f.caller = e.caller → f.Quiet := by
  have move := sound.moves e he
  have finished := sound.ended e he
  obtain ⟨i, ⟨before, d⟩, ⟨p, d'⟩⟩ := e
  dsimp only at comes reaches move finished ⊢
  subst comes
  cases committed : Run.commit (calls i).config (calls i).activation gate signal d.now d.store with
  | error ending =>
    have after : (p, d') = (.done ending, d) := by
      cases move
      simp only [Run.commitOn_error committed]
      rfl
    obtain ⟨rfl, rfl⟩ := Prod.mk.inj after
    have rest := finished ending rfl
    refine .inr ⟨ending, rfl, turnedDown_of_commit reaches committed, rest, fun f hf mine => ?_⟩
    -- the call has no trade to tell of, and did not break off
    cases sound.stands i with
    | seeking bounds quiet => exact (quiet f hf mine).1
    | placing k trades holds within left sent held =>
      rw [rest] at within
      rcases within with told | broken
      · cases (Run.commit_noTrade _ _ _ _ _ _ ending committed).symm.trans told
      · exact absurd broken (Run.commit_unbroken reaches.time committed)
  | ok made =>
    obtain ⟨r, s⟩ := made
    obtain ⟨k, figure, -, reserves, -⟩ := commits_of_commit committed
    have after : d' = { d with store := s } := by
      cases move
      simp only [Run.commitOn_ok committed]
    subst after
    have known : candle = some k.candleTime := by
      have told := Run.timeOf_figure reaches.time
      rw [figure] at told
      exact (Except.ok.inj told).symm
    exact .inl ⟨k, known, reserves⟩

end Orderly

end Arena

/-- **One order per candle.** However many runs go on beside each other, and in whatever order they
move, one of them at most sends a market order for a candle, when the trade and its debit are in the
store, and the others are turned down. -/
theorem one_order_per_candle {ι : Type} [DecidableEq ι] (calls : ι → Call) {w : Arena ι}
    (h : Arena.Reachable calls w) : w.Orderly calls := by
  have sound := h.sound
  constructor
  case committed =>
    intro e he market
    cases sound.stands e.caller with
    | seeking bounds quiet => exact absurd market (quiet e he rfl).2
    | placing k trades holds within left sent held => exact ⟨k, trades, held e he rfl market⟩
  case single =>
    refine sound.once.imp fun {e f} distinct new old k l mine yours => ?_
    exact sound.apart_calls (distinct new old) mine yours
  case apart => exact fun i j other k l mine yours => sound.apart_calls other mine yours
  case others => exact fun e he gate signal candle comes reaches => sound.comes_off he comes reaches

namespace Sample

def calls (_ : Bool) : Call := ⟨.sample, Run.Sample.activation, none, some Run.Sample.signal⟩

def arena : Arena Bool :=
  [true, false, true, false, true, true].foldl (fun w i => w.go i .silence)
    (Arena.start calls Run.Sample.desk)

theorem arena_reachable : Arena.Reachable calls arena :=
  (((((Arena.Reachable.start Run.Sample.desk).go true .silence).go false .silence).go true
    .silence).go false .silence).go true .silence |>.go true .silence

end Sample

open Sample in
theorem sample_candle_contested :
    (∃ e ∈ arena.log, e.caller = true ∧ e.SendsMarket) ∧
      (∃ r, arena.rest false = .done (.ok r) ∧ r.outcome = .skippedDuplicate) ∧
        arena.Orderly calls :=
  ⟨by decide +kernel, ⟨_, rfl, rfl⟩, one_order_per_candle calls arena_reachable⟩

end Contest
end SignalDesk
