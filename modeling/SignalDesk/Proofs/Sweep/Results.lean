import SignalDesk.Proofs.Network.Schedule
import SignalDesk.Proofs.Run.Parts
import SignalDesk.Proofs.Sweep.Dispatch
import SignalDesk.Proofs.Sweep.Repetition

/-!
# Results of sweeps

The runs of a sweep end in any order, and some of them break off. The results are told in the order
of the activations all the same, one for each of them (`Sweep.Gathered`), and every result is of one
of the sorts that a report counts (`SweepReport.counts_partition`). It is the same when a signal is
handed on, and the signal is marked however the runs end (`results_gathered`).
-/

namespace SignalDesk

/-- Whether counts are those of `n` results, each of one sort. -/
structure Counts.Partition (c : Counts) (n : Nat) : Prop where
  total : c.total = n
  sorts : c.executed + c.failed + c.skipped + c.deferred = n

/-- Every outcome is of one sort. -/
theorem Outcome.sorts (o : Outcome) :
    (o == .executed).toNat + o.isFailure.toNat + o.isSkip.toNat + (o == .deferred).toNat = 1 := by
  cases o <;> rfl

theorem SweepReport.counts_partition {α : Type} (report : SweepReport α) :
    report.counts.Partition report.results.length := by
  refine ⟨rfl, ?_⟩
  obtain ⟨startedAt, finishedAt, results⟩ := report
  simp only [counts]
  induction results with
  | nil => rfl
  | cons r results ih =>
    have sorts := r.outcome.sorts
    simp only [Bool.toNat, Bool.cond_eq_ite] at sorts
    simp only [List.countP_cons, List.length_cons]
    omega

namespace Sweep

/-- Whether results are told of how runs of activations end, in the order of the activations: the own
result of a run that comes to one, and of a run that breaks off a failed one that says why. -/
structure Tells (as : List Activation) (endings : List Run.Ending) (results : List Run) : Prop where
  length : results.length = as.length
  number : endings.length = as.length
  returned : ∀ (i : Nat) r, endings[i]? = some (.ok r) → results[i]? = some r
  brokenOff : ∀ (i : Nat) a e, as[i]? = some a → endings[i]? = some (.error e) →
    results[i]? = some (a.result .failed ("ERROR: " ++ e.message) none)

theorem tells_settle {as : List Activation} {endings : List Run.Ending}
    (same : endings.length = as.length) : Tells as endings (List.zipWith settle as endings) := by
  constructor
  case length => simp [same]
  case number => exact same
  case returned =>
    intro i r ended
    have below : i < as.length := same ▸ (List.getElem?_eq_some_iff.mp ended).1
    rw [List.getElem?_zipWith, List.getElem?_eq_getElem below, ended]
    rfl
  case brokenOff =>
    intro i a e here ended
    rw [List.getElem?_zipWith, here, ended]
    rfl

variable {ν : Type}

/-- Whether results are those of runs that come from one world to another, by some schedule of their
moves, until all of them have ended. -/
def Gathered (around : Surroundings Desk ν) (runs : List (Activation × Program Desk Run.Ending))
    (w v : Desk × ν) (results : List Run) : Prop :=
  ∃ endings, Program.ComesTo around (runs.map (·.2), w) (endings.map .done, v) ∧
    Tells (runs.map (·.1)) endings results

theorem Gathered.length {around : Surroundings Desk ν}
    {runs : List (Activation × Program Desk Run.Ending)} {w v : Desk × ν} {results : List Run}
    (h : Gathered around runs w v results) : results.length = runs.length := by
  obtain ⟨endings, -, tells⟩ := h
  exact tells.length.trans (List.length_map _)

/-- Programs that run side by side, of whatever kind, are gathered in their order. -/
theorem together_gathered (around : Surroundings Desk ν) (slots : Option Int)
    (runs : List (Activation × Program Desk Run.Ending)) (w : Desk × ν) :
    let gathered := (together slots (runs.map fun x => (x.1, x.2.map (settle x.1)))).run around w
    Gathered around runs w gathered.2 gathered.1 := by
  intro gathered
  have inhabited : Nonempty Run := ⟨(Run.Sample.activation).result .failed .nothing none⟩
  have comes := Program.together_scheduled around (admits slots)
    (maxStops * (runs.map fun x => (x.1, x.2.map (settle x.1))).length)
    ((runs.map fun x => (x.1, x.2.map (settle x.1))).map fun x => (x.1.key, x.2)) w
  have labelled : ((runs.map fun x => (x.1, x.2.map (settle x.1))).map fun x =>
      (x.1.key, x.2)).map (·.2) =
        Program.labelled settle (runs.map (·.1)) (runs.map (·.2)) := by
    simp [Program.labelled, List.zipWith_map, List.zipWith_self, Function.comp_def]
  rw [labelled] at comes
  obtain ⟨endings, ended, results⟩ := comes.of_labelled (by simp)
  have number : endings.length = (runs.map (·.1)).length := by
    obtain ⟨schedule, left⟩ := ended
    have length := congrArg (·.1.length) left
    rw [Program.length_scheduled] at length
    simpa using length.symm
  exact ⟨endings, ended, results ▸ tells_settle number⟩

/-- The runs of activations, on a signal from outside or on those of their scripts. -/
def runsOf (config : Config) (given : Option (Signal Real64)) (as : List Activation) :
    List (Activation × Program Desk Run.Ending) :=
  as.map fun a => (a, Run.run config a none given)

/-- Whether results are gathered from the runs of activations, each in the names of its own. -/
structure Accounts (around : Surroundings Desk ν) (config : Config)
    (given : Option (Signal Real64)) (as : List Activation) (w v : Desk × ν) (results : List Run) :
    Prop where
  gathered : Gathered around (runsOf config given as) w v results
  names : ∀ (i : Nat) a r, as[i]? = some a → results[i]? = some r → r.Names a

/-- Results that are gathered from the runs of activations are in their names. -/
theorem Gathered.accounts {around : Surroundings Desk ν} {config : Config}
    {given : Option (Signal Real64)} {as : List Activation} {w v : Desk × ν} {results : List Run}
    (h : Gathered around (runsOf config given as) w v results) :
    Accounts around config given as w v results := by
  refine ⟨h, fun i a r here told => ?_⟩
  obtain ⟨endings, ⟨schedule, ended⟩, tells⟩ := h
  have activations : (runsOf config given as).map (·.1) = as := by
    simp [runsOf, Function.comp_def]
  rw [activations] at tells
  have below : i < endings.length := by
    rw [tells.number]
    exact (List.getElem?_eq_some_iff.mp here).1
  have left : (Program.scheduled around schedule ((runsOf config given as).map (·.2), w)).1[i]? =
      some (.done endings[i]) := by
    rw [ended]
    simp [below]
  have footprint := Program.within_scheduled (P := fun _ => True) (R := Desk.SameLoop)
    (Q := fun j ending => ∀ a, as[j]? = some a → Run.EndsFor a ending) ?start schedule i _ left
  case start =>
    intro j p there
    simp only [runsOf, List.map_map, List.getElem?_map, Option.map_eq_some_iff] at there
    obtain ⟨b, member, rfl⟩ := there
    apply (Run.run_footprint config b none given).mono (fun _ _ => trivial) (fun _ _ same => same)
    intro ending names a same
    rw [member] at same
    exact Option.some.inj same ▸ names
  have own : Run.EndsFor a endings[i] := footprint a here
  have ending : endings[i]? = some endings[i] := List.getElem?_eq_getElem below
  cases came : endings[i] with
  | ok r' =>
    rw [came] at ending
    rw [tells.returned i r' ending] at told
    exact Option.some.inj told ▸ own r' came
  | error e =>
    rw [came] at ending
    rw [tells.brokenOff i a e here ending] at told
    exact Option.some.inj told ▸ Run.result_names ..

theorem runAll_accounts (around : Surroundings Desk ν) (config : Config) (slots : Option Int)
    (given : Option (Signal Real64)) (as : List Activation) (w : Desk × ν) :
    let ran := (runAll config slots given as).run around w
    Accounts around config given as w ran.2 ran.1 := by
  have gathered := together_gathered around slots (runsOf config given as) w
  rw [runsOf, List.map_map] at gathered
  exact gathered.accounts

end Sweep

namespace Store

variable {s s' : Store} {id : Int} {now : String}

/-- Whether there is a signal of a number. -/
def HasSignal (s : Store) (id : Int) : Prop := ∃ r ∈ s.signals, r.id = id

theorem HasSignal.change (h : s.HasSignal id) (change : Change s s') : s'.HasSignal id := by
  obtain ⟨r, mem, number⟩ := h
  rcases change.signals with same | ⟨row, -, added⟩ | ⟨other, now, rfl⟩
  · exact ⟨r, same ▸ mem, number⟩
  · exact ⟨r, added ▸ List.mem_append_left _ mem, number⟩
  · refine ⟨_, List.mem_map_of_mem mem, ?_⟩
    split <;> exact number

/-- No row of the number is left that is not marked. -/
theorem markProcessed_all {r : StoredSignal} (mem : r ∈ (s.markProcessed id now).2.signals)
    (number : r.id = id) : r.processed = true := by
  obtain ⟨q, -, rfl⟩ := List.mem_map.mp mem
  by_cases waiting : (q.id == id && !q.processed) = true
  · simp only [waiting, if_true]
  · simp only [waiting, Bool.false_eq_true, if_false] at number ⊢
    simpa [number] using waiting

theorem HasSignal.mark (h : s.HasSignal id) (now : String) :
    (s.markProcessed id now).2.Marked id := by
  obtain ⟨r, mem, number⟩ := h.change (.markProcessed id now)
  exact ⟨r, mem, number, markProcessed_all mem number⟩

end Store

/-- What works on the store as desks do, where others do no more, loses no signal. -/
theorem Program.Sound.hasSignal {α ν : Type} {p : Program Desk α} (h : p.Sound)
    {around : Surroundings Desk ν} (others : around.Within Desk.Reaches) (w : Desk × ν) {id : Int}
    (kept : w.1.store.HasSignal id) : (p.run around w).2.1.store.HasSignal id := by
  have reaches : p.Within (fun _ => True) Desk.Reaches fun _ => True :=
    h.changes fun _ _ works => .of_changes works.changed
  obtain ⟨-, reached, -⟩ := reaches.run Desk.Reaches.refl
    (fun first second => first.trans second) others w
  exact reached.keeps (Store.HasSignal · id) Store.HasSignal.change kept

namespace Sweep

theorem hasSignal_of_targets {s : Store} {id : Int} {t : Targets}
    (h : targets (.int id) s = .ok (some t)) : s.HasSignal id := by
  rw [targets_eq (fitsWord_of_targets h)] at h
  cases found : s.signal? id with
  | none =>
    rw [found] at h
    cases h
  | some row => exact ⟨row, List.mem_of_find?_eq_some found, by simpa using List.find?_some found⟩

variable {ν : Type}

/-- A sweep that can list its activations reports on all of them. -/
theorem sweep_accounts (config : Config) (around : Surroundings Desk ν) (w : Desk × ν)
    {as : List Activation} (listed : w.1.store.activations? "" "" = .ok as) :
    ∃ report v, (sweep config).run around w =
        (.ok report, { v.1 with sweeps := v.1.sweeps + 1, lastSweep := some report }, v.2) ∧
      Accounts around config none as w v report.results := by
  have accounts := runAll_accounts around config (some config.maxConcurrent) none as w
  generalize ran : (runAll config (some config.maxConcurrent) none as).run around w = x at accounts
  refine ⟨(finish w.1.now x.1 x.2.1).1, x.2, ?_, accounts⟩
  simp only [sweep, Program.monad_bind_eq, Program.run_bind, Program.run_read, listed, ran]
  rfl

/-- The runs that a signal calls for, and its mark. -/
theorem dispatch_eq (config : Config) (around : Surroundings Desk ν) (w : Desk × ν) {id : Json}
    {t : Targets} (called : targets id w.1.store = .ok (some t)) :
    (dispatch config id).run around w =
      let ran := (runAll config none (some t.signal) t.activations).run around w
      (.ok ran.1,
        { ran.2.1 with store := (ran.2.1.store.markProcessed t.id ran.2.1.now).2 }, ran.2.2) := by
  simp only [dispatch, Program.monad_bind_eq, Program.run_bind, Program.run_read, called]
  rfl

end Sweep

/-- **Results in order.** In any surroundings: runs of whatever kind that are gathered have one
result each, in their order, whichever of them ends first and whichever breaks off. So a sweep that
can list its activations reports on each of them, in its names, and counts every result once; and a
signal that calls for runs is told of each of them likewise, and is marked afterwards. -/
theorem results_gathered (config : Config) {ν : Type} (around : Surroundings Desk ν)
    (w : Desk × ν) :
    (∀ slots runs,
      let gathered := (Sweep.together slots
        (runs.map fun x => (x.1, x.2.map (Sweep.settle x.1)))).run around w
      Sweep.Gathered around runs w gathered.2 gathered.1 ∧ ∀ startedAt d,
        (Sweep.finish startedAt gathered.1 d).1.counts.Partition runs.length) ∧
    (∀ as, w.1.store.activations? "" "" = .ok as →
      ∃ report v, (Sweep.sweep config).run around w =
          (.ok report, { v.1 with sweeps := v.1.sweeps + 1, lastSweep := some report }, v.2) ∧
        Sweep.Accounts around config none as w v report.results ∧
          report.counts.Partition as.length) ∧
    ∀ id t, Sweep.targets (.int id) w.1.store = .ok (some t) →
      ∃ results v s, (Sweep.dispatch config (.int id)).run around w =
          (.ok results, { v.1 with store := s }, v.2) ∧
        Sweep.Accounts around config (some t.signal) t.activations w v results ∧
          (∀ r ∈ s.signals, r.id = id → r.processed = true) ∧
            (around.Within Desk.Reaches → s.Marked id) := by
  refine ⟨?gathered, ?swept, ?handed⟩
  case gathered =>
    intro slots runs gathered
    have told : Sweep.Gathered around runs w gathered.2 gathered.1 :=
      Sweep.together_gathered around slots runs w
    refine ⟨told, fun startedAt d => ?_⟩
    rw [← told.length]
    exact SweepReport.counts_partition _
  case swept =>
    intro as listed
    obtain ⟨report, v, told, accounts⟩ := Sweep.sweep_accounts config around w listed
    refine ⟨report, v, told, accounts, ?_⟩
    have length : report.results.length = as.length :=
      accounts.gathered.length.trans (List.length_map _)
    exact length ▸ report.counts_partition
  case handed =>
    intro id t called
    obtain rfl := Sweep.id_of_targets called
    refine ⟨_, _, _, Sweep.dispatch_eq config around w called, Sweep.runAll_accounts .., ?_, ?_⟩
    · exact fun r mem own => Store.markProcessed_all mem own
    · intro others
      have sound : (Sweep.runAll config none (some t.signal) t.activations).Sound :=
        (Desk.allows_within fun _ _ works => works).runAll config none _ fun _ _ => trivial
      exact (sound.hasSignal others w (Sweep.hasSignal_of_targets called)).mark _

namespace Sweep.Sample

/-- A desk with a signal for an hour's candle. The other activation has no gate that it could pass. -/
def handing : Desk :=
  { desk with store :=
    { store with
      activations := [⟨1, "ada", "cross", "1h", true, "{}", ""⟩,
        ⟨2, "bob", "cross", "1h", true, "{}", ""⟩]
      signals := [⟨7, "cross", .buy, "BTCUSDT", "1h", .finite ⟨false, 100, 0⟩,
        .finite ⟨false, 98, 0⟩, .finite ⟨false, 104, 0⟩, .number (.whole 5), false, "", none⟩] } }

end Sweep.Sample

open Sweep.Sample in
theorem sample_results_gathered :
    (∃ as report v, handing.store.activations? "" "" = .ok as ∧ as.length = 2 ∧
      ((Sweep.sweep .sample).run market (handing, ())).1 = .ok report ∧
        Sweep.Accounts market .sample none as (handing, ()) v report.results ∧
          report.counts.Partition 2) ∧
      ∃ t results v, Sweep.targets (.int 7) handing.store = .ok (some t) ∧
        ((Sweep.dispatch .sample (.int 7)).run market (handing, ())).1 = .ok results ∧
          Sweep.Accounts market .sample (some t.signal) t.activations (handing, ()) v results ∧
            ((Sweep.dispatch .sample (.int 7)).run market (handing, ())).2.1.store.Marked 7 := by
  obtain ⟨-, swept, handed⟩ := results_gathered .sample market (handing, ())
  obtain ⟨as, listed, two⟩ : ∃ as, handing.store.activations? "" "" = .ok as ∧ as.length = 2 :=
    ⟨_, rfl, rfl⟩
  obtain ⟨t, called⟩ : ∃ t, Sweep.targets (.int 7) handing.store = .ok (some t) := ⟨_, rfl⟩
  constructor
  · obtain ⟨report, v, told, accounts, counts⟩ := swept as listed
    exact ⟨as, report, v, listed, two, congrArg Prod.fst told, accounts, two ▸ counts⟩
  · obtain ⟨results, v, s, told, accounts, -, marked⟩ := handed 7 t called
    refine ⟨t, results, v, called, congrArg Prod.fst told, accounts, ?_⟩
    rw [told]
    exact marked ⟨fun _ w => .refl w.1, fun w => .refl w.1⟩

end SignalDesk
