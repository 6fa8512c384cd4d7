import SignalDesk.Proofs.Network.Oblivious
import SignalDesk.Proofs.Run.Evaluation
import SignalDesk.Proofs.Store.Setup
import SignalDesk.Proofs.Strategy.Recency
import SignalDesk.Run.DryRun
import SignalDesk.Sweep.Basic

namespace SignalDesk

/-- Whether all that is kept compiled is what one of some texts says. -/
def StrategyCache.KeepsOnly (texts : List String) (c : StrategyCache) : Prop :=
  ∀ entry ∈ c.entries, ∃ text ∈ texts,
    Script.digest text = entry.1.digest ∧ Script.parse text = .ok entry.2

theorem StrategyCache.keepsOnly_ofSize (texts : List String) (size : Int) :
    (ofSize size).KeepsOnly texts := by
  intro entry kept
  cases kept

/-- Among texts with different digests, a script comes out as its text says, whatever was kept. -/
theorem StrategyCache.KeepsOnly.get {texts : List String} {c : StrategyCache} {text : String}
    (keeps : c.KeepsOnly texts) (apart : DigestsApart texts) (known : text ∈ texts)
    (script : Label) :
    (c.get script text).1 = Script.parse text ∧ (c.get script text).2.KeepsOnly texts := by
  have keepsAs : c.KeepsAs script text := by
    intro entry kept key
    obtain ⟨other, member, digest, parsed⟩ := keeps entry kept
    obtain rfl := apart other member text known (digest.trans (congrArg ScriptKey.digest key))
    exact parsed
  refine ⟨keepsAs.get, fun entry kept => ?_⟩
  rcases keepsAs.mem_get kept with old | ⟨key, parsed⟩
  · exact keeps entry old
  · exact ⟨text, known, (congrArg ScriptKey.digest key).symm, parsed⟩

/-- Whether the texts of all saved scripts are among some texts. -/
def Store.Knows (texts : List String) (s : Store) : Prop :=
  ∀ script ∈ s.scripts, script.content ∈ texts

theorem Store.Knows.script {texts : List String} {s : Store} (known : s.Knows texts) {id : String}
    {script : SavedScript} (found : s.script? id = some script) : script.content ∈ texts :=
  known script (List.mem_of_find?_eq_some found)

theorem Store.Knows.activations {texts : List String} {s : Store} (known : s.Knows texts)
    {script timeframe : String} {as : List Activation}
    (listed : s.activations? script timeframe = .ok as) : ∀ a ∈ as, a.content ∈ texts := by
  intro a member
  obtain ⟨row, -, saved, found, made⟩ := Store.activations?_listed listed a member
  obtain ⟨-, -, -, content⟩ := Store.activationOf_ok made
  exact content ▸ known.script found

/-- Whether desks differ in nothing but what they keep in memory. While the loop goes on, both know
whether it was stopped. -/
structure Desk.Alike (texts : List String) (looping : Prop) (d d' : Desk) : Prop where
  store : d'.store = d.store
  clock : d'.clock = d.clock
  running : looping → d'.running = d.running
  cache : d.cache.KeepsOnly texts
  cache' : d'.cache.KeepsOnly texts
  known : d.store.Knows texts
  settled : d.store.Settled

namespace Desk.Alike

variable {texts : List String} {looping : Prop} {d d' : Desk}

theorem now (alike : Alike texts looping d d') : d'.now = d.now :=
  congrArg Stamp.ofMillis alike.clock

theorem weaken (alike : Alike texts looping d d') : Alike texts False d d' :=
  { alike with running := False.elim }

/-- Both desks may go on with another store. -/
theorem change (alike : Alike texts looping d d') {s : Store} (known : s.Knows texts)
    (settled : s.Settled) : Alike texts looping { d with store := s } { d' with store := s } :=
  ⟨rfl, alike.clock, alike.running, alike.cache, alike.cache', known, settled⟩

theorem keeps (alike : Alike texts looping d d') {s : Store} (keeps : d.store.KeepsSetup s) :
    Alike texts looping { d with store := s } { d' with store := s } :=
  alike.change (fun script member => alike.known script (keeps.scripts ▸ member))
    (alike.settled.keeps keeps)

end Desk.Alike

/-- Whether a step depends on nothing but the store and the clock, and changes nothing but the
store. -/
def Desk.OnStore {α : Type} (step : Desk → α × Desk) : Prop :=
  ∀ d d' : Desk, d'.store = d.store → d'.clock = d.clock →
    step d' = ((step d).1, { d' with store := (step d).2.store })

theorem Desk.OnStore.alone {α : Type} {step : Desk → α × Desk} (h : OnStore step) (d : Desk) :
    (step d).2 = { d with store := (step d).2.store } :=
  congrArg Prod.snd (h d d rfl rfl)

section Programs

variable {α σ : Type} {texts : List String} {looping : Prop}

theorem Desk.OnStore.oblivious {step : Desk → α × Desk} (onStore : Desk.OnStore step)
    (keeps : ∀ d : Desk, d.store.KeepsSetup (step d).2.store) :
    (Program.atomically step).Oblivious (Desk.Alike texts looping) fun _ => True := by
  refine Program.Oblivious.atomically fun d d' alike => ?_
  rw [onStore d d' alike.store alike.clock, onStore.alone d]
  exact ⟨alike.keeps (keeps d), rfl, trivial⟩

theorem Market.get_oblivious {R : σ → σ → Prop} (m : Market) (path : String)
    (params : List (String × ParamValue)) (parse : Json → Payload.Read α) :
    (m.get path params parse : Program σ _).Oblivious R fun _ => True := by
  have asks : ∀ (request : String → Request) (failures : List HostFailure) (hosts : List String),
      (Hosts.askFrom request parse failures hosts : Program σ _).Oblivious R fun _ => True := by
    intro request failures hosts
    induction hosts generalizing failures with
    | nil => exact trivial
    | cons host hosts ih =>
      intro reply
      dsimp only
      split
      · exact trivial
      · exact trivial
      · exact ih _
  exact asks _ _ _

namespace Run

section

variable (apart : StrategyCache.DigestsApart texts)

include apart

theorem compile_oblivious (script : Label) {content : String} (known : content ∈ texts) :
    (Program.atomically (compile script content)).Oblivious (Desk.Alike texts looping)
      fun _ => True := by
  refine Program.Oblivious.atomically fun d d' alike => ?_
  obtain ⟨compiled, keeps⟩ := alike.cache.get apart known script
  obtain ⟨compiled', keeps'⟩ := alike.cache'.get apart known script
  exact ⟨{ alike with cache := keeps, cache' := keeps' }, compiled'.trans compiled.symm, trivial⟩

theorem evaluate_oblivious (config : Config) {a : Activation} (known : a.content ∈ texts) :
    (evaluate config a).Oblivious (Desk.Alike texts looping) fun _ => True := by
  refine (compile_oblivious apart a.script known).bind fun strategy _ => ?_
  cases strategy with
  | error e => exact trivial
  | ok strategy =>
    refine (Market.get_oblivious ..).bind fun candles _ => ?_
    cases candles <;> exact trivial

end

theorem commitOn_onStore (config : Config) (a : Activation) (gate : Gate)
    (signal : Signal Real64) : Desk.OnStore (commitOn config a gate signal) := by
  rintro ⟨store, clock⟩ ⟨_, _⟩ rfl rfl
  simp only [commitOn, Desk.now]
  split <;> rfl

theorem commitOn_keeps (config : Config) (a : Activation) (gate : Gate) (signal : Signal Real64)
    (d : Desk) : d.store.KeepsSetup (commitOn config a gate signal d).2.store := by
  simp only [commitOn]
  split
  · exact .refl _
  · rename_i committed
    obtain ⟨_, reserved⟩ := commit_ok committed
    exact .of_reserve reserved

theorem placeMarket_oblivious (config : Config) (r : Reserved) :
    (placeMarket config r).Oblivious (Desk.Alike texts looping) fun _ => True := by
  simp only [placeMarket]
  refine Program.Oblivious.giveWay.bind fun _ _ => ?_
  split
  · exact trivial
  · intro d d' alike
    refine ⟨alike, ?_, fun _ => trivial⟩
    simp only [alike.clock]

theorem placeProtective_oblivious (x : Exchange) (o : Order) :
    (x.placeProtective Desk.clock o).Oblivious (Desk.Alike texts looping) fun _ => True := by
  have legs : ∀ legs : List (String × Params),
      (x.placeLegs Desk.clock legs).Oblivious (Desk.Alike texts looping) fun _ => True := by
    intro legs
    induction legs with
    | nil => exact trivial
    | cons leg legs ih =>
      intro d d' alike
      refine ⟨alike, ?_, fun _ => ih.bind fun _ _ => trivial⟩
      simp only [alike.clock]
  exact legs _

theorem markRefused_alike (trade : Int) (e : OrderError) (message : String) {d d' : Desk}
    (alike : Desk.Alike texts looping d d') :
    Desk.Alike texts looping (markRefused trade e message d) (markRefused trade e message d') := by
  simp only [markRefused, alike.store]
  split <;> exact alike.keeps ⟨rfl, rfl⟩

theorem markFilled_alike (r : Reserved) (order : String) (price : Real64) {d d' : Desk}
    (alike : Desk.Alike texts looping d d') :
    Desk.Alike texts looping (markFilled r order price d) (markFilled r order price d') := by
  simp only [markFilled, alike.store, alike.now]
  exact alike.keeps ⟨rfl, rfl⟩

theorem conclude_oblivious (config : Config) (a : Activation) (signal : Signal Real64)
    (r : Reserved) (mark : Except StoreError Mark) :
    (conclude config a signal r mark).Oblivious (Desk.Alike texts looping) fun _ => True := by
  rcases mark with e | ⟨e, message⟩ | ⟨order, price⟩
  · exact trivial
  · have marks : (Program.modify (markRefused r.trade e message)).Oblivious
        (Desk.Alike texts looping) fun _ => True :=
      .modify fun _ _ => markRefused_alike r.trade e message
    exact marks.bind fun _ _ => trivial
  · have marks : (Program.modify (markFilled r order price)).Oblivious
        (Desk.Alike texts looping) fun _ => True :=
      .modify fun _ _ => markFilled_alike r order price
    refine marks.bind fun _ _ => (placeProtective_oblivious ..).bind fun _ _ => trivial

theorem place_oblivious (config : Config) (a : Activation) (signal : Signal Real64)
    (r : Reserved) :
    (place config a signal r).Oblivious (Desk.Alike texts looping) fun _ => True :=
  (placeMarket_oblivious config r).bind fun _ _ => conclude_oblivious config a signal r _

/-- A run goes the same way whatever is kept in memory. -/
theorem run_oblivious (apart : StrategyCache.DigestsApart texts) (config : Config)
    {a : Activation} (known : a.content ∈ texts) (flags : Option Flags)
    (signal : Option (Signal Real64)) :
    (run config a flags signal).Oblivious (Desk.Alike texts looping) fun _ => True := by
  rw [run_eq]
  refine Program.Oblivious.bind (Q := fun _ => True)
    (.read fun d d' alike => ⟨by rw [alike.store], trivial⟩) fun gates _ => ?_
  cases gates with
  | error r => exact trivial
  | ok gate =>
    have searches : (signalFor config a signal).Oblivious (Desk.Alike texts looping)
        fun _ => True := by
      cases signal with
      | none => exact evaluate_oblivious apart config known
      | some signal => exact trivial
    refine searches.bind fun found _ => ?_
    cases found with
    | error ending => exact trivial
    | ok signal =>
      have commits : (Program.atomically (commitOn config a gate signal)).Oblivious
          (Desk.Alike texts looping) fun _ => True :=
        (commitOn_onStore config a gate signal).oblivious (commitOn_keeps config a gate signal)
      refine commits.bind fun made _ => ?_
      cases made with
      | error ending => exact trivial
      | ok reserved => exact place_oblivious config a signal reserved

end Run

namespace Sweep

theorem together_oblivious {slots : Option Int} {runs : List (Activation × Program Desk α)}
    (h : ∀ r ∈ runs, r.2.Oblivious (Desk.Alike texts looping) fun _ => True) :
    (together slots runs).Oblivious (Desk.Alike texts looping) fun _ => True := by
  refine Program.Oblivious.mono (Program.Oblivious.together (Q := fun _ => True) ?_)
    fun _ _ => trivial
  exact List.forall_mem_map.mpr h

/-- The loop waits for as long as it is not stopped. -/
theorem wait_oblivious (seconds : Nat) :
    (wait seconds).Oblivious (Desk.Alike texts True) fun _ => True := by
  induction seconds with
  | zero => exact trivial
  | succ seconds ih =>
    intro d d' alike
    refine ⟨alike, by simp only [alike.running trivial], ?_⟩
    dsimp only
    split
    · exact ih
    · exact trivial

section

variable (apart : StrategyCache.DigestsApart texts)

include apart

theorem runAll_oblivious (config : Config) (slots : Option Int) (signal : Option (Signal Real64))
    {activations : List Activation} (known : ∀ a ∈ activations, a.content ∈ texts) :
    (runAll config slots signal activations).Oblivious (Desk.Alike texts looping)
      fun _ => True := by
  refine together_oblivious (List.forall_mem_map.mpr fun a member => ?_)
  have runs : (Run.run config a none signal).Oblivious (Desk.Alike texts looping) fun _ => True :=
    Run.run_oblivious apart config (known a member) none signal
  exact runs.map

theorem sweep_oblivious (config : Config) :
    (sweep config).Oblivious (Desk.Alike texts looping) fun _ => True := by
  have reads : (Program.read fun d : Desk => (d.now, d.store.activations? "" "")).Oblivious
      (Desk.Alike texts looping) fun found =>
        ∀ as, found.2 = .ok as → ∀ a ∈ as, a.content ∈ texts := by
    refine .read fun d d' alike => ⟨by rw [alike.now, alike.store], fun as listed => ?_⟩
    exact alike.known.activations listed
  refine reads.bind fun found known => ?_
  obtain ⟨startedAt, activations⟩ := found
  cases activations with
  | error fault => exact trivial
  | ok activations =>
    refine (runAll_oblivious apart config _ none (known _ rfl)).bind fun results _ => ?_
    have finishes : (Program.atomically (finish startedAt results)).Oblivious
        (Desk.Alike texts looping) fun _ => True := by
      refine .atomically fun d d' alike => ⟨{ alike with }, ?_, trivial⟩
      simp only [finish, alike.now]
    exact finishes.bind fun _ _ => trivial

theorem cycles_oblivious (config : Config) (interval : Nat) (maxCycles : Int) (fuel : Nat)
    (cycle : Int) :
    (cycles config interval maxCycles fuel cycle).Oblivious (Desk.Alike texts True)
      fun _ => True := by
  induction fuel generalizing cycle with
  | zero => exact trivial
  | succ fuel ih =>
    refine (sweep_oblivious apart config).bind fun report _ => ?_
    split
    · exact trivial
    · refine (wait_oblivious interval).bind fun _ _ => ?_
      have reads : (Program.read Desk.running).Oblivious (Desk.Alike texts True) fun _ => True :=
        .read fun d d' alike => ⟨alike.running trivial, trivial⟩
      refine reads.bind fun running _ => ?_
      split
      · exact (ih (cycle + 1)).bind fun _ _ => trivial
      · exact trivial

theorem dispatch_oblivious (config : Config) (id : Json) :
    (dispatch config id).Oblivious (Desk.Alike texts looping) fun _ => True := by
  have reads : (Program.read fun d : Desk => targets id d.store).Oblivious
      (Desk.Alike texts looping) fun found =>
        ∀ t, found = .ok (some t) → ∀ a ∈ t.activations, a.content ∈ texts := by
    refine .read fun d d' alike => ⟨by rw [alike.store], fun t found => ?_⟩
    obtain ⟨_, -, found⟩ := bind_ok.mp found
    split at found
    · cases pure_ok.mp found
    split at found
    · cases pure_ok.mp found
    · obtain ⟨as, listed, found⟩ := bind_ok.mp found
      cases pure_ok.mp found
      exact alike.known.activations (mapError_ok.mp listed)
  refine reads.bind fun found known => ?_
  split
  · exact trivial
  · exact trivial
  · rename_i t
    refine (runAll_oblivious apart config none _ (known t rfl)).bind fun results _ => ?_
    have marks : (Program.modify fun d : Desk =>
        { d with store := (d.store.markProcessed t.id d.now).2 }).Oblivious
          (Desk.Alike texts looping) fun _ => True := by
      refine .modify fun d d' alike => ?_
      simp only [alike.store, alike.now]
      exact alike.keeps ⟨rfl, rfl⟩
    exact marks.bind fun _ _ => trivial

end

end Sweep

namespace DryRun

theorem currentPrice_oblivious (config : Config) (symbol : String)
    (candles : List (Candle Real64)) :
    (currentPrice config symbol candles).Oblivious (Desk.Alike texts looping) fun _ => True := by
  refine (Market.get_oblivious ..).bind fun ticker _ => ?_
  split <;> exact trivial

theorem evaluate_oblivious (config : Config) (strategy : Strategy Binary64) (symbol : Text)
    (timeframe : Json) (limit : Int) :
    (evaluate config strategy symbol timeframe limit).Oblivious (Desk.Alike texts looping)
      fun _ => True := by
  simp only [evaluate]
  split
  · exact trivial
  · refine (Market.get_oblivious ..).bind fun candles _ => ?_
    split
    · exact trivial
    · split
      · exact trivial
      · refine (currentPrice_oblivious ..).bind fun price _ => ?_
        split <;> exact trivial

/-- A saved script is evaluated the same way whatever is kept in memory. -/
theorem script_oblivious (apart : StrategyCache.DigestsApart texts) (config : Config)
    (id timeframe user : Json) :
    (script config id timeframe user).Oblivious (Desk.Alike texts looping) fun r =>
      ∀ x, r = .ok x → x.1.content ∈ texts := by
  have reads : (Program.read fun d : Desk => show Except DeskError _ from do
      return (← savedScript id d.store, ← candleLimit config user id timeframe d.store)).Oblivious
      (Desk.Alike texts looping) fun found =>
        ∀ x, found = .ok x → x.1.2.content ∈ texts := by
    refine .read fun d d' alike => ⟨by rw [alike.store], fun x found => ?_⟩
    obtain ⟨_, saved, found⟩ := bind_ok.mp found
    obtain ⟨_, -, found⟩ := bind_ok.mp found
    cases pure_ok.mp found
    simp only [savedScript] at saved
    split at saved
    · cases saved
    split at saved
    · cases saved
    · rename_i there
      obtain ⟨_, -, rfl⟩ := map_ok.mp saved
      obtain ⟨name, -, there⟩ := Option.bind_eq_some_iff.mp there
      exact alike.known.script there
  refine reads.bind fun found known => ?_
  split
  · exact fun x wrong => by cases wrong
  · rename_i label script limit
    refine (Run.compile_oblivious apart label (known _ rfl)).bind fun strategy _ => ?_
    split
    · exact fun x wrong => by cases wrong
    · refine (evaluate_oblivious ..).bind fun evaluation _ => ?_
      intro x same
      obtain ⟨e, -, rfl⟩ := map_ok.mp same
      exact known _ rfl

theorem content_oblivious (config : Config) (text symbol timeframe : Json) :
    (content config text symbol timeframe).Oblivious (Desk.Alike texts looping)
      fun _ => True := by
  simp only [content]
  split
  · exact trivial
  · exact trivial
  · exact evaluate_oblivious ..

theorem snapshot_oblivious (config : Config) (symbol timeframe : Json) :
    (snapshot config symbol timeframe).Oblivious (Desk.Alike texts looping) fun _ => True := by
  simp only [snapshot]
  split
  · exact trivial
  · refine (Market.get_oblivious ..).bind fun candles _ => ?_
    split
    · exact trivial
    · refine (currentPrice_oblivious ..).bind fun price _ => ?_
      split <;> exact trivial

end DryRun
end Programs
end SignalDesk
