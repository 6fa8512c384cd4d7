import SignalDesk.Proofs.Run.Alone
import SignalDesk.Proofs.Sweep.Repetition

namespace SignalDesk

namespace Sweep

/-- The results of runs one after the other, each of them in the store in which the one before it
left off. -/
def course (step : Activation → Store → Run × Store) : List Activation → Store → List Run
  | [], _ => []
  | a :: as, s => (step a s).1 :: course step as (step a s).2

/-- The store in which the runs of a course leave those that come later. -/
def courseStore (step : Activation → Store → Run × Store) (as : List Activation) (s : Store) :
    Store :=
  as.foldl (fun s a => (step a s).2) s

/-- Whether a result is of an activation, and, if that is not of `user`, is what comes of it after
those of other users that stand before. -/
def Tallies (user : String) (step : Activation → Store → Run × Store) (before : List Activation)
    (s : Store) (a : Activation) (r : Run) : Prop :=
  r.user = a.user ∧ (a.user ≠ .text user →
    r.unnumbered =
      (step a (courseStore step (before.filter (·.user != .text user)) s)).1.unnumbered)

section Course

variable {user : String} {step : Activation → Store → Run × Store}

end Course

section Sweeps

variable {config : Config} {replies : Request → Reply}
  {found : Activation → Except Run.Ending (Signal Real64)}
  {placed : Activation → Signal Real64 → Order → Keys → Run} {user : String} {d : Desk} {s : Store}

/-- What the runs of activations come to alone. -/
def steps (config : Config) (found : Activation → Except Run.Ending (Signal Real64))
    (placed : Activation → Signal Real64 → Order → Keys → Run) (a : Activation) :
    Store → Run × Store :=
  Run.alone config (found a) (placed a) a

variable (finds : ∀ a, Run.Finds config (fun r => replies r.unsigned) a (found a))
  (places : ∀ a, Run.Places config replies a (placed a))
  (replied : ∀ r, r.method = .get → replies r ≠ .silence)

include finds places replied

end Sweeps

end Sweep

/-- Whether each request gets a settled reply, whenever it was signed, and the market always gives
one, where nobody else is at the desk. -/
structure Surroundings.Answers {ν : Type} (replies : Request → Reply)
    (around : Surroundings Desk ν) : Prop where
  settled : ∀ r w, (around.reply r w).1 = replies r.unsigned
  market : ∀ r, r.method = .get → replies r ≠ .silence
  alone : around.Within Desk.OnlyTime

theorem Surroundings.Answers.follows {ν : Type} {replies : Request → Reply}
    {around : Surroundings Desk ν} (h : around.Answers replies) :
    around.Follows (.answered replies) :=
  ⟨h.settled, h.alone.reply, h.alone.second⟩

/-- Whether a sweep of a desk comes to a report: what is kept compiled is what the scripts say,
nobody has activated a script twice on one timeframe, and the documents of all active activations
can be used. -/
structure Desk.Reports (d : Desk) : Prop where
  faithful : d.Faithful
  once : d.store.ActivatedOnce
  legible : d.store.Legible

namespace Sweep.Sample

/-- The store with an activation of another user that carries a document. -/
def shared (document : String) : Store :=
  { store with
    profiles := store.profiles ++ [⟨some "bob", .number (.whole 1), 0, ""⟩]
    activations := store.activations ++ [⟨2, "bob", "cross", "1h", true, document, ""⟩]
    gates := store.gates ++ [⟨"bob", "cross", ⟨true, none⟩, ""⟩] }

theorem ofText_braces : Overrides.ofText (some "\x7b\x7d") = .ok .empty := by rfl

theorem desk_reports : desk.Reports := by
  refine ⟨desk_faithful, by decide, fun row member _ => ?_⟩
  obtain rfl := List.mem_singleton.mp member
  exact ⟨.empty, ofText_braces⟩

end Sweep.Sample

end SignalDesk
