import SignalDesk.Proofs.Desk.Session
import SignalDesk.Proofs.Service.Memory
import SignalDesk.Proofs.Sweep.Repetition

/-!
# Restarts

Sessions in which the services are started anew between deeds, or the store is initialised again,
show the same as without, but for what asks for the memory itself (`Session.restarts_unseen`):
nothing that is decided depends on what is kept in memory, and to initialise a store again resets
nothing.
-/

namespace SignalDesk

open Program.Oblivious (Same)

variable {ν : Type} {texts : List String} {looping : Prop} {d d' : Desk}

theorem Passing.on_alike (x : Passing) (alike : Desk.Alike texts looping d d') :
    Desk.Alike texts looping (x.on d) (x.on d') :=
  { alike with
    clock := congrArg (· + x.millis) alike.clock
    running := fun on => congrArg (· && !x.stops) (alike.running on) }

/-- The network does not know what desks keep in memory. -/
theorem Network.around_oblivious (w : Network ν) :
    w.around.Oblivious (Desk.Alike texts looping) where
  reply r _ _ n alike := ⟨_, rfl, (w.reply r n).2.1.on_alike alike⟩
  second _ _ n alike := ⟨_, rfl, (w.second n).1.on_alike alike⟩

theorem Desk.OnStore.same {α : Type} {step : Desk → α × Desk} (onStore : Desk.OnStore step)
    {around : Surroundings Desk ν} (alike : Desk.Alike texts looping d d')
    (known : (step d).2.store.Knows texts) (settled : (step d).2.store.Settled) (n : ν) :
    Same (Desk.Alike texts looping) (fun _ => True) around (Program.atomically step) (d, n)
      (d', n) := by
  have there := onStore d d' alike.store alike.clock
  have related : Desk.Alike texts looping (step d).2 (step d').2 := by
    rw [there, onStore.alone d]
    exact alike.change known settled
  have result : (step d').1 = (step d).1 := by rw [there]
  exact ⟨result, trivial, related, rfl, rfl⟩

/-- The loop goes the same way on desks that are alike, whatever became of it before. -/
theorem Sweep.loop_same (apart : StrategyCache.DigestsApart texts) (w : Network ν)
    (config : Config) (interval : Option Int) (maxCycles : Int) (fuel : Nat)
    (alike : Desk.Alike texts False d d') (n : ν) :
    Same (Desk.Alike texts False) (fun _ => True) w.around (loop config interval maxCycles fuel)
      (d, n) (d', n) := by
  have stops : (Program.modify Desk.stop).Oblivious (Desk.Alike texts True) fun _ => True :=
    .modify fun d d' alike => { alike with running := fun _ => rfl }
  have goesOn : ((cycles config (interval.getD config.sweepInterval).toNat maxCycles fuel 1).bind
      fun reports => (Program.modify Desk.stop).bind fun _ => .done reports).Oblivious
        (Desk.Alike texts True) fun _ => True :=
    (cycles_oblivious apart ..).bind fun _ _ => stops.bind fun _ _ => trivial
  have begun : Desk.Alike texts True { d with running := true } { d' with running := true } :=
    { alike with running := fun _ => rfl }
  obtain ⟨result, ends, state, network, requests⟩ := goesOn.run w.around_oblivious begun n
  exact ⟨result, ends, state.weaken, network, requests⟩

namespace Errand

theorem statementOn_onStore (config : Config) (part name : String) (arguments : Arguments) :
    Desk.OnStore (statementOn config part name arguments) := by
  rintro ⟨store, clock⟩ ⟨_, _⟩ rfl rfl
  simp only [statementOn, Desk.now]
  split <;> rfl

theorem statementOn_settled (config : Config) (part name : String) (arguments : Arguments)
    (settled : d.store.Settled) : (statementOn config part name arguments d).2.store.Settled := by
  simp only [statementOn]
  split
  · rename_i performed
    exact Statement.perform_settled performed settled
  · exact settled

theorem restampOn_onStore (user script : String) (stamp : Option String) :
    Desk.OnStore (restampOn user script stamp) := by
  rintro ⟨store, clock⟩ ⟨_, _⟩ rfl rfl
  rfl

theorem rewriteOn_onStore (user script timeframe : String) (document : Option String) :
    Desk.OnStore (rewriteOn user script timeframe document) := by
  rintro ⟨store, clock⟩ ⟨_, _⟩ rfl rfl
  simp only [rewriteOn]
  split <;> rfl

theorem rewriteOn_keeps (user script timeframe : String) (document : Option String) (d : Desk) :
    d.store.KeepsSetup (rewriteOn user script timeframe document d).2.store := by
  simp only [rewriteOn, Store.replaceOverrides]
  split
  · rename_i replaced
    split at replaced
    · cases replaced
      exact ⟨rfl, rfl⟩
    · split at replaced <;> cases replaced
      exact .refl _
  · exact .refl _

theorem find_known {s : Store} (known : s.Knows texts) {x : RunOrder} (given : x.texts ⊆ texts)
    {a : Activation} (found : x.choice.find s = .ok a) : a.content ∈ texts := by
  obtain ⟨choice, flags, signal⟩ := x
  cases choice with
  | active user script timeframe =>
    simp only [Choice.find] at found
    split at found
    · cases found
    · cases found
    · rename_i active
      cases found
      obtain ⟨as, listed, first⟩ := map_ok.mp active
      exact known.activations listed a (List.mem_of_find?_eq_some first)
  | given b =>
    cases found
    exact given List.mem_cons_self

section Runs

variable (apart : StrategyCache.DigestsApart texts)

include apart

theorem runOne_oblivious (config : Config) {x : RunOrder} (given : x.texts ⊆ texts) :
    (runOne config x).Oblivious (Desk.Alike texts looping) fun _ => True := by
  have reads : (Program.read fun d : Desk => x.choice.find d.store).Oblivious
      (Desk.Alike texts looping) fun found => ∀ a, found = .ok a → a.content ∈ texts :=
    .read fun d d' alike => ⟨by rw [alike.store], fun a => find_known alike.known given⟩
  refine reads.bind fun found known => ?_
  split
  · exact trivial
  · exact (Run.run_oblivious apart config (known _ rfl) _ _).bind fun _ _ => trivial

theorem runMany_oblivious (config : Config) {xs : List RunOrder}
    (given : xs.flatMap RunOrder.texts ⊆ texts) :
    (runMany config xs).Oblivious (Desk.Alike texts looping) fun _ => True := by
  have reads : (Program.read fun d : Desk =>
      xs.mapM fun x => (x.choice.find d.store).map (·, x)).Oblivious (Desk.Alike texts looping)
        fun found => ∀ runs, found = .ok runs → ∀ r ∈ runs, r.1.content ∈ texts := by
    refine .read fun d d' alike => ⟨by rw [alike.store], fun runs found r member => ?_⟩
    obtain ⟨x, ordered, found⟩ := exists_of_forall₂ (mapM_ok found) r member
    obtain ⟨a, chosen, rfl⟩ := map_ok.mp found
    have brought : x.texts ⊆ texts := fun t member =>
      given (List.mem_flatMap.mpr ⟨x, ordered, member⟩)
    exact find_known alike.known brought chosen
  refine reads.bind fun found known => ?_
  split
  · exact trivial
  · refine (Sweep.together_oblivious (List.forall_mem_map.mpr fun r member => ?_)).bind
      fun _ _ => trivial
    exact Run.run_oblivious apart config (known _ rfl r member) _ _

end Runs

/-- Whether an errand asks for what is kept in memory. -/
def AsksMemory : Errand → Prop
  | loopState | cacheState | request _ .status => True
  | _ => False

/-- An errand goes the same way on desks that are alike, unless it asks for their memory. -/
theorem same (apart : StrategyCache.DigestsApart texts) (w : Network ν) (service : Service)
    {e : Errand} (other : ¬e.AsksMemory) (given : (Deed.errand (ν := ν) e).texts ⊆ texts)
    (alike : Desk.Alike texts False d d') (n : ν)
    (known : ((e.program service).run w.around (d, n)).2.1.store.Knows texts) :
    Same (Desk.Alike texts False) (fun _ => True) w.around (e.program service) (d, n)
      (d', n) := by
  have goes : ∀ {p : Program Desk Told}, p.Oblivious (Desk.Alike texts False) (fun _ => True) →
      Same (Desk.Alike texts False) (fun _ => True) w.around p (d, n) (d', n) :=
    fun h => h.run w.around_oblivious alike n
  cases e with
  | statement part name arguments =>
    exact (statementOn_onStore _ _ _ _).same alike known (statementOn_settled _ _ _ _ alike.settled) n
  | restamp user script stamp =>
    exact goes ((restampOn_onStore _ _ _).oblivious fun _ => ⟨rfl, rfl⟩)
  | rewrite user script timeframe document =>
    exact goes ((rewriteOn_onStore _ _ _ _).oblivious (rewriteOn_keeps user script timeframe document))
  | rows table => exact goes (.read fun d d' alike => ⟨by rw [alike.store], trivial⟩)
  | initialise =>
    refine goes (Program.Oblivious.map (Program.Oblivious.modify fun d d' alike => ?_))
    rw [alike.store]
    exact alike.keeps (by rw [alike.settled.initialised]; exact .refl _)
  | run x => exact goes (runOne_oblivious apart service.config given)
  | runs xs => exact goes (runMany_oblivious apart service.config given)
  | evaluateScript id timeframe user =>
    exact goes ((DryRun.script_oblivious apart _ _ _ _).bind fun _ _ => trivial)
  | evaluateContent text symbol timeframe => exact goes (DryRun.content_oblivious ..).map
  | snapshot symbol timeframe => exact goes (DryRun.snapshot_oblivious ..).map
  | sweep => exact goes (Sweep.sweep_oblivious apart _).map
  | loop interval maxCycles fuel => exact (Sweep.loop_same apart w _ _ _ _ alike n).map
  | stop =>
    refine goes (Program.Oblivious.map (Program.Oblivious.modify fun d d' alike => ?_))
    exact { alike with running := False.elim }
  | dispatch id => exact goes (Sweep.dispatch_oblivious apart _ _).map
  | loopState => exact absurd trivial other
  | cacheState => exact absurd trivial other
  | request authorization route =>
    refine goes (service.respond_oblivious apart authorization fun asks => ?_).map
    subst asks
    exact other trivial

/-- An errand that asks for the memory changes nothing and sends nothing, and what it tells beside
the memory is always the same. -/
theorem asking {e : Errand} (asks : e.AsksMemory) (service : Service) :
    ∃ tell : Desk → Told,
      (∀ (around : Surroundings Desk ν) x, (e.program service).run around x = (tell x.1, x) ∧
        (e.program service).requests around x = []) ∧
      ∀ d d' (sent : List Request) (store : Store),
        (⟨.errand e, tell d', sent, store⟩ : Shown ν).besideMemory =
          (⟨.errand e, tell d, sent, store⟩ : Shown ν).besideMemory := by
  cases e with
  | loopState =>
    exact ⟨fun d => .loopState d.running d.sweeps d.lastSweep, fun _ _ => ⟨rfl, rfl⟩,
      fun _ _ _ _ => rfl⟩
  | cacheState =>
    exact ⟨fun d => .cacheState d.cache.entries.length d.cache.hits d.cache.misses,
      fun _ _ => ⟨rfl, rfl⟩, fun _ _ _ _ => rfl⟩
  | request authorization route =>
    cases route with
    | status =>
      refine ⟨fun d => .answer (service.status d), fun _ _ => ⟨rfl, rfl⟩, fun d d' sent store => ?_⟩
      simp [Shown.besideMemory, Shown.besideLoop, Service.status, Service.ok, Except.map,
        Answer.besideLoop, loopFields]
    | _ => cases asks
  | _ => cases asks

end Errand

/-- Whether sessions differ in nothing but what their desks keep in memory. -/
structure Session.Alike (texts : List String) (s s' : Session ν) : Prop where
  desk : Desk.Alike texts False s.desk s'.desk
  net : s'.net = s.net
  service : s'.service = s.service

/-- Whether the same happens in two sessions, but for what is told of the memory, and leaves them
alike. -/
structure Happening.Alike (texts : List String) (x : Deed ν) (h h' : Happening ν) : Prop where
  told : ∀ store, (⟨x, h'.told, h'.sent, store⟩ : Shown ν).besideMemory =
    (⟨x, h.told, h.sent, store⟩ : Shown ν).besideMemory
  after : Session.Alike texts h.after h'.after

namespace Session

variable {s s' : Session ν}

theorem Alike.refl (known : s.desk.store.Knows texts) (settled : s.desk.store.Settled)
    (cache : s.desk.cache.KeepsOnly texts) : Alike texts s s :=
  ⟨⟨rfl, rfl, fun _ => rfl, cache, cache, known, settled⟩, rfl, rfl⟩

theorem perform_alike {w : Network ν} {p : Program Desk Told} (x : Deed ν)
    (alike : Alike texts s s')
    (same : Same (Desk.Alike texts False) (fun _ => True) w.around p (s.desk, s.net)
      (s'.desk, s.net)) :
    Happening.Alike texts x (s.perform w p) (s'.perform w p) := by
  obtain ⟨result, -, state, network, requests⟩ := same
  constructor
  · intro store
    simp only [perform, alike.net, result, requests]
  · simp only [perform, alike.net]
    exact ⟨state, network, alike.service⟩

/-- Services started on a store that is settled leave it as it is. -/
theorem restarted_alike (alike : Alike texts s s') (config : Config) :
    Alike texts (s.restarted config) (s'.restarted config) := by
  have same : s'.restarted config = s.restarted config := by
    simp only [restarted, alike.desk.store, alike.desk.clock, alike.net]
  rw [same]
  have store : (s.restarted config).desk.store = s.desk.store := alike.desk.settled.initialised
  refine .refl ?_ ?_ (StrategyCache.keepsOnly_ofSize _ _)
  · rw [store]
    exact alike.desk.known
  · rw [store]
    exact alike.desk.settled

/-- Each deed comes to the same in sessions that are alike. -/
theorem does_alike (apart : StrategyCache.DigestsApart texts) (w : Network ν)
    (alike : Alike texts s s') (x : Deed ν) (given : x.texts ⊆ texts)
    (known : (s.does w x).after.desk.store.Knows texts) :
    Happening.Alike texts x (s.does w x) (s'.does w x) := by
  cases x with
  | errand e =>
    simp only [does, alike.service] at known ⊢
    by_cases asks : e.AsksMemory
    · obtain ⟨tell, runs, shows⟩ := Errand.asking (ν := ν) asks s.service
      constructor
      · intro store
        simp only [perform, runs, shows s.desk s'.desk]
      · simp only [perform, runs]
        exact alike
    · exact perform_alike _ alike (Errand.same apart w _ asks given alike.desk _ known)
  | clock ms =>
    refine ⟨fun _ => rfl, ?_, alike.net, alike.service⟩
    exact { alike.desk with clock := rfl }
  | network n => exact ⟨fun _ => rfl, alike.desk, rfl, alike.service⟩
  | start config => exact ⟨fun _ => rfl, restarted_alike alike config⟩
  | unplug =>
    refine ⟨fun _ => rfl, alike.desk, alike.net, ?_⟩
    simp only [does, alike.service]
  | command arguments env file fuel =>
    simp only [does]
    split
    · exact ⟨fun _ => rfl, alike⟩
    · rename_i mode config _
      have started := restarted_alike alike config
      refine perform_alike _ started (Same.map (Q := fun _ => True) ?_)
      cases mode with
      | sweep =>
        have sweeps : (Sweep.sweep config).Oblivious (Desk.Alike texts False) fun _ => True :=
          Sweep.sweep_oblivious apart config
        exact (sweeps.run w.around_oblivious started.desk _).map
      | run | serve => exact (Sweep.loop_same apart w _ _ _ _ started.desk _).map

/-- What comes between deeds cannot be told afterwards. -/
theorem interrupted_alike (w : Network ν) (alike : Alike texts s s') (i : Interruption)
    (plugged : i = .restart → s'.service.connected = true) :
    Alike texts s (s'.does w (i.deed s')).after := by
  have store : s'.desk.store.initialised = s.desk.store := by
    rw [alike.desk.store, alike.desk.settled.initialised]
  cases i with
  | restart =>
    have service : (⟨s'.service.config, true⟩ : Service) = s.service := by
      rw [← alike.service, ← plugged rfl]
    refine ⟨?_, alike.net, service⟩
    exact { alike.desk with
      store := store
      running := False.elim
      cache' := StrategyCache.keepsOnly_ofSize _ _ }
  | initialise =>
    refine ⟨?_, alike.net, alike.service⟩
    exact { alike.desk with store := store }

theorem texts_of_store (w : Network ν) (plan : Plan ν) (s : Session ν) :
    s.desk.store.texts ⊆ Session.texts w plan s := by
  cases plan with
  | nil => exact fun t member => member
  | cons step plan =>
    cases step with
    | inl i => exact List.subset_append_left _ _
    | inr x => exact fun t member => List.mem_append_left _ (List.mem_append_left _ member)

theorem knows_iff {s : Store} : s.Knows texts ↔ s.texts ⊆ texts := by
  simp [Store.Knows, Store.texts, List.subset_def]

/-- What is shown of deeds is the same whatever comes between them. -/
theorem play_alike (apart : StrategyCache.DigestsApart texts) (w : Network ν) (plan : Plan ν)
    (alike : Alike texts s s') (known : Session.texts w plan.undisturbed s ⊆ texts)
    (plugged : RestartsPlugged w plan s') :
    (play w plan s').1.map Shown.besideMemory =
        (play w plan.undisturbed s).1.map Shown.besideMemory ∧
      (play w plan s').2.desk.store = (play w plan.undisturbed s).2.desk.store := by
  induction plan generalizing s s' with
  | nil => exact ⟨rfl, alike.desk.store⟩
  | cons step plan ih =>
    cases step with
    | inl i => exact ih (interrupted_alike w alike i plugged.1) known plugged.2
    | inr x =>
      obtain ⟨brought, later⟩ := List.append_subset.mp known
      have given : x.texts ⊆ texts := (List.append_subset.mp brought).2
      have left : (s.does w x).after.desk.store.Knows texts :=
        knows_iff.mpr fun t member => later (texts_of_store w _ _ member)
      obtain ⟨told, after⟩ := does_alike apart w alike x given left
      have first : (⟨x, (s'.does w x).told, (s'.does w x).sent,
            (s'.does w x).after.desk.store⟩ : Shown ν).besideMemory =
          (⟨x, (s.does w x).told, (s.does w x).sent,
            (s.does w x).after.desk.store⟩ : Shown ν).besideMemory := by
        rw [after.desk.store]
        exact told _
      obtain ⟨shown, last⟩ := ih after later plugged
      exact ⟨congrArg₂ List.cons first shown, last⟩

/-- **Restarts are not seen.** Whatever is done in a session, and wherever between it the services
are started anew or the store is initialised again, the same is told of each deed, the same requests
are sent and the same stores are left as without, but for the state of the sweep loop and the counts
of what is kept compiled. Services are to be started anew only where they are plugged in, and no two
script texts may have the same digest. -/
theorem restarts_unseen (w : Network ν) (config : Config) (clock : Int) (n : ν) (plan : Plan ν)
    (apart : StrategyCache.DigestsApart
      (Session.texts w plan.undisturbed (opening config clock n)))
    (plugged : RestartsPlugged w plan (opening config clock n)) :
    let s := opening config clock n
    (play w plan s).1.map Shown.besideMemory =
        (play w plan.undisturbed s).1.map Shown.besideMemory ∧
      (play w plan s).2.desk.store = (play w plan.undisturbed s).2.desk.store := by
  intro s
  have known : s.desk.store.Knows (Session.texts w plan.undisturbed s) :=
    knows_iff.mpr (texts_of_store w _ s)
  have alike : Alike (Session.texts w plan.undisturbed s) s s :=
    .refl known (Store.settled_initialised _) (StrategyCache.keepsOnly_ofSize _ _)
  exact play_alike apart w plan alike (List.Subset.refl _) plugged

namespace Sample

def text : String := "entryType=price_above threshold=2"

theorem apart_of_text {texts : List String} (known : texts ⊆ [text]) :
    StrategyCache.DigestsApart texts := by
  have one : StrategyCache.DigestsApart [text] := by simp [StrategyCache.DigestsApart]
  exact one.mono known

def statement (part name : String) (arguments : Arguments) : Interruption ⊕ Deed Unit :=
  .inr (.errand (.statement part name arguments))

def save : Interruption ⊕ Deed Unit :=
  statement "scripts" "upsert_script"
    [("script_id", .text "cross"), ("owner_id", .text "ada"), ("name", .text "Cross"),
      ("script_content", .text text), ("symbol", .text "BTCUSDT")]

/-- A user gets ready to trade a script. -/
def ready : Plan Unit :=
  [save,
    statement "scripts" "activate"
      [("user_id", .text "ada"), ("script_id", .text "cross"), ("timeframe", .text "1h")],
    statement "scripts" "set_bot_enabled"
      [("user_id", .text "ada"), ("script_id", .text "cross"), ("enabled", .bool true),
        ("now", .int 0)],
    statement "coins" "ensure_profile" [("user_id", .text "ada")],
    statement "settings" "save_exchange_keys"
      [("user_id", .text "ada"), ("api_key", .text "key"), ("api_secret", .text "secret")]]

/-- A sweep before a restart and one after it, and the store initialised in between. -/
def sweeps : Plan Unit :=
  ready ++ [.inr (.errand .sweep), .inl .restart, .inl .initialise, .inr (.errand .sweep)]

/-- A market where the price rises. -/
def network : Network Unit where
  reply r _ := (Sweep.Sample.replies r, ⟨false, 0⟩, ())
  second _ := (⟨false, 1000⟩, ())

def start : Session Unit := opening .sample 1000 ()

end Sample

open Sample in
/-- A trade that was made before a restart is not made again after it. -/
theorem sample_restarts :
    StrategyCache.DigestsApart (Session.texts network sweeps.undisturbed start) ∧
      RestartsPlugged network sweeps start ∧
        (play network sweeps start).1.map Shown.besideMemory =
          (play network sweeps.undisturbed start).1.map Shown.besideMemory ∧
        (play network sweeps start).2.desk.store =
          (play network sweeps.undisturbed start).2.desk.store ∧
        (play network sweeps start).2.desk.store.trades.length = 1 := by
  have apart : StrategyCache.DigestsApart (Session.texts network sweeps.undisturbed start) :=
    apart_of_text (by decide +kernel)
  have plugged : RestartsPlugged network sweeps start := by decide +kernel
  obtain ⟨shown, store⟩ := restarts_unseen network .sample 1000 () sweeps apart plugged
  exact ⟨apart, plugged, shown, store, by decide +kernel⟩

namespace Sample

/-- A script is evaluated, and after a restart the cache is asked for its counts. -/
def counts : Plan Unit :=
  [save, .inr (.errand (.evaluateScript (.text "cross") (.text "1h") .null)), .inl .restart,
    .inr (.errand .cacheState)]

/-- Services are unplugged, and after a restart a user asks for the coins. -/
def unplugged : Plan Unit :=
  [statement "settings" "create_api_token" [("token", .text "t"), ("user_id", .text "ada")],
    .inr .unplug, .inl .restart, .inr (.errand (.request (.text "Bearer t") .coins))]

/-- How many scripts are told to be kept, and with which status a request is answered. -/
def told : Told → Nat × Int
  | .cacheState kept _ _ => (kept, 0)
  | .answer (.ok a) => (0, a.status)
  | .answer (.error (.refused status _)) => (0, status)
  | _ => (0, 0)

end Sample

open Sample in
/-- The counts of what is kept compiled start anew with the services, and services that are started
anew are plugged in. -/
theorem restarts_seen :
    (StrategyCache.DigestsApart (Session.texts network counts.undisturbed start) ∧
        (play network counts start).1.map Shown.besideLoop ≠
          (play network counts.undisturbed start).1.map Shown.besideLoop) ∧
      StrategyCache.DigestsApart (Session.texts network unplugged.undisturbed start) ∧
        (play network unplugged start).1.map Shown.besideLoop ≠
          (play network unplugged.undisturbed start).1.map Shown.besideLoop := by
  have tells : ∀ {shown shown' : List (Shown Unit)},
      shown.map (fun x => told x.told) ≠ shown'.map (fun x => told x.told) → shown ≠ shown' :=
    fun differ same => differ (congrArg _ same)
  have counted : (play network counts start).1.map Shown.besideLoop ≠
      (play network counts.undisturbed start).1.map Shown.besideLoop := tells (by decide +kernel)
  have answered : (play network unplugged start).1.map Shown.besideLoop ≠
      (play network unplugged.undisturbed start).1.map Shown.besideLoop := tells (by decide +kernel)
  exact ⟨⟨apart_of_text (by decide +kernel), counted⟩, apart_of_text (by decide +kernel), answered⟩

end Session
end SignalDesk
