import SignalDesk.Proofs.Run.Terms
import SignalDesk.Sweep.Basic

namespace SignalDesk

variable {ν : Type}

namespace Run

variable {config : Config} {replies : Request → Reply} {a : Activation}
  {found : Except Ending (Signal Real64)} {d : Desk}

/-- Whether an activation whose evaluation comes to `found` has nothing to commit. -/
def Quiet (config : Config) (found : Except Ending (Signal Real64)) (a : Activation) (s : Store) :
    Prop :=
  ∀ gate signal, passGates a none s = .ok gate → found = .ok signal →
    ∀ now r t, commit config a gate signal now s ≠ .ok (r, t)

theorem Quiet.spent {s s' : Store} (h : Quiet config found a s) (spent : s.Spent s') :
    Quiet config found a s' := by
  intro gate signal passed same now r t committed
  rw [passGates_of_spent spent] at passed
  obtain ⟨r, t, before⟩ := commit_of_spent spent committed now
  exact h gate signal passed same now r t before

theorem Commits.quiet {gate : Gate} {signal : Signal Real64} {now : String} {s t : Store}
    {candle : Option Figure} {r : Reserved} (finds : Finds config replies a (.ok signal))
    (commits : Commits config a gate signal now s candle r t) :
    Quiet config (.ok signal) a t := by
  rintro gate' signal' - ⟨⟩ now' r' t' again
  obtain ⟨n, opened⟩ := finds.opened signal rfl
  exact commits.once opened (.refl t) again

end Run

namespace Sweep

variable {t : Terms Desk} {config : Config} {d : Desk}

/-- A sweep runs the active activations, if their documents can be used, and keeps its report. -/
theorem keeps_of_runs {Q : Except DeskError Sweep → Desk → Prop} (looks : t.makes d d)
    (failed : ∀ fault, d.store.activations? "" "" = .error fault → Q (.error (.overrides fault)) d)
    (runs : ∀ as, d.store.activations? "" "" = .ok as →
      (runAll config (some config.maxConcurrent) none as).Keeps t
        (fun results d' => ∀ startedAt, t.makes d' (finish startedAt results d').2 ∧
          Q (.ok (finish startedAt results d').1) (finish startedAt results d').2) d) :
    (sweep config).Keeps t Q d := by
  refine ⟨looks, ?_⟩
  dsimp only
  cases listed : d.store.activations? "" "" with
  | error fault => exact failed fault listed
  | ok as => exact (runs as listed).bind fun results d' reports => reports d.now

/-- The programs of the runs of a sweep, by their places. -/
theorem run_of_place {as : List Activation} {i : Nat}
    {x : (Label × Label × Label) × Program Desk Run}
    (here : ((as.map fun a => (a, (Run.run config a none none).map (settle a))).map
      fun x => (x.1.key, x.2))[i]? = some x) :
    ∃ a, as[i]? = some a ∧ (a.key, (Run.run config a none none).map (settle a)) = x := by
  simpa only [List.getElem?_map, Option.map_map, Option.map_eq_some_iff, Function.comp] using here

end Sweep

namespace Sweep.Sample

def script : SavedScript :=
  ⟨some "cross", "ada", "Cross", "entryType=price_above threshold=2", "BTCUSDT", "[\"1h\"]", "", ""⟩

def store : Store :=
  { Run.Sample.store with
    scripts := [script]
    activations := [⟨1, "ada", "cross", "1h", true, "{}", ""⟩] }

def desk : Desk := { Run.Sample.desk with store }

def replies (_ : Request) : Reply := .answer 200 "[[1,1,1,1,1,1],[2,3,3,3,3,1]]"

def market : Surroundings Desk Unit := ⟨fun r w => (replies r, w), id⟩

theorem market_settled : market.Settled replies :=
  ⟨fun _ _ _ => rfl, fun _ w => ⟨w.1.clock, rfl⟩, fun w => ⟨w.1.clock, rfl⟩⟩

theorem desk_faithful : desk.Faithful := by
  intro id script s _ kept
  cases kept

end Sweep.Sample

end SignalDesk
