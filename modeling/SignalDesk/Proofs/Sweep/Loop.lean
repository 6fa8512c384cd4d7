import Mathlib.Data.Nat.Find
import Mathlib.Order.Bounds.Defs
import SignalDesk.Proofs.Network.Company
import SignalDesk.Proofs.Run.Parts
import SignalDesk.Proofs.Sweep.Repetition

namespace SignalDesk

variable {ν : Type} {calls : ν → Nat} {around : Surroundings Desk ν}

/-- What becomes of the state of the loop from one world to another: it was told to stop as often as
`calls` counts, and reports were added. -/
structure Reported (calls : ν → Nat) (reports : List Sweep) (w w' : Desk × ν) : Prop where
  more : calls w.2 ≤ calls w'.2
  running : w'.1.running = (w.1.running && calls w'.2 == calls w.2)
  sweeps : w'.1.sweeps = w.1.sweeps + reports.length
  lastSweep : w'.1.lastSweep = reports.getLast?.or w.1.lastSweep

namespace Reported

variable {reports reports' : List Sweep} {w w' w'' : Desk × ν}

theorem of_sameLoop {d d' : Desk} (same : d.SameLoop d') (n : ν) :
    Reported calls [] (d, n) (d', n) where
  more := Nat.le_refl _
  running := by simpa using same.running
  sweeps := same.sweeps
  lastSweep := same.lastSweep

theorem refl (w : Desk × ν) : Reported calls [] w w := of_sameLoop (.refl w.1) w.2

theorem trans (first : Reported calls reports w w') (second : Reported calls reports' w' w'') :
    Reported calls (reports ++ reports') w w'' where
  more := Nat.le_trans first.more second.more
  running := by
    have both : (calls w'.2 == calls w.2 && calls w''.2 == calls w'.2) =
        (calls w''.2 == calls w.2) := by
      have before := first.more
      have after := second.more
      rw [Bool.eq_iff_iff]
      simp only [Bool.and_eq_true, beq_iff_eq]
      omega
    rw [second.running, first.running, Bool.and_assoc, both]
  sweeps := by rw [second.sweeps, first.sweeps, List.length_append, Nat.add_assoc]
  lastSweep := by
    rw [second.lastSweep, first.lastSweep, List.getLast?_append, Option.or_assoc]

end Reported

/-- Whether surroundings do no more to the loop than to tell it to stop, which `calls` counts. -/
structure Surroundings.OnlyStop (calls : ν → Nat) (around : Surroundings Desk ν) : Prop where
  reply : ∀ r w, Reported calls [] w (around.reply r w).2
  second : ∀ w, Reported calls [] w (around.second w)

/-- So it is with a program that leaves the loop alone. -/
theorem Program.Within.reported {α : Type} {P : Request → Prop} {Q : α → Prop} {p : Program Desk α}
    (h : p.Within P Desk.SameLoop Q) (stops : around.OnlyStop calls) (w : Desk × ν) :
    Reported calls [] w (p.run around w).2 := by
  induction p generalizing w with
  | done a => exact .refl w
  | ask r k ih => exact (stops.reply r w).trans (ih _ (h.2 _) _)
  | pause p ih => exact (stops.second w).trans (ih h _)
  | turn p ih => exact ih h w
  | act f k ih =>
    obtain ⟨same, rest⟩ := h w.1
    exact (Reported.of_sameLoop same w.2).trans (ih w.1 rest (f w.1, w.2))

namespace Sweep

theorem runAll_footprint (config : Config) (slots : Option Int) (given : Option (Signal Real64))
    (as : List Activation) :
    (runAll config slots given as).Within (fun _ => True) Desk.SameLoop fun _ => True := by
  have composes := Program.Within.composes (σ := Desk) (fun _ => True) Desk.SameLoop
  refine composes.mono (composes.together (Q := fun _ => True) ?_) fun _ _ => trivial
  intro x hx
  simp only [List.map_map, List.mem_map] at hx
  obtain ⟨a, -, rfl⟩ := hx
  exact composes.map (Run.run_footprint config a none given) fun _ _ => trivial

theorem wait_footprint (seconds : Nat) :
    (wait seconds).Within (fun _ => True) Desk.SameLoop fun _ => True := by
  induction seconds with
  | zero => trivial
  | succ seconds ih =>
    intro d
    refine ⟨.refl d, ?_⟩
    dsimp only
    split
    · exact ih
    · trivial

theorem wait_requests (seconds : Nat) (around : Surroundings Desk ν) (w : Desk × ν) :
    (wait seconds).requests around w = [] := by
  induction seconds generalizing w with
  | zero => rfl
  | succ seconds ih =>
    simp only [wait, Program.requests]
    split
    · exact ih _
    · rfl

/-- A sweep adds its report, if it comes to one. -/
theorem sweep_reported (config : Config) (stops : around.OnlyStop calls) (w : Desk × ν) :
    Reported calls ((sweep config).run around w).1.toOption.toList w
      ((sweep config).run around w).2 := by
  simp only [sweep, Program.monad_bind_eq, Program.run_bind, Program.run_read]
  cases listed : w.1.store.activations? "" "" with
  | error fault => exact .refl w
  | ok as =>
    have ran := (runAll_footprint config (some config.maxConcurrent) none as).reported stops w
    simp only [Program.run_bind]
    generalize (runAll config (some config.maxConcurrent) none as).run around w = x at ran ⊢
    have finished : Reported calls [(finish w.1.now x.1 x.2.1).1] x.2
        ((finish w.1.now x.1 x.2.1).2, x.2.2) :=
      ⟨Nat.le_refl _, by simp [finish], rfl, rfl⟩
    exact ran.trans finished

section Course

variable (config : Config) (interval : Nat) (around : Surroundings Desk ν) (w : Desk × ν)

/-- The world in which the loop starts its sweep after the first `n`, if it goes on for so long. -/
def before : Nat → Desk × ν
  | 0 => ({ w.1 with running := true }, w.2)
  | n + 1 => ((wait interval).run around ((sweep config).run around (before n)).2).2

/-- What the sweep after the first `n` comes to. -/
def swept (n : Nat) : Except DeskError Sweep × Desk × ν :=
  (sweep config).run around (before config interval around w n)

/-- The reports of `n` sweeps from one on. -/
def reportsFrom (first n : Nat) : List Sweep :=
  (List.range' first n).filterMap fun k => (swept config interval around w k).1.toOption

/-- What `n` sweeps ask from one on. -/
def requestsFrom (first n : Nat) : List Request :=
  (List.range' first n).flatMap fun k =>
    (sweep config).requests around (before config interval around w k)

/-- Whether the loop ends with its `n`-th sweep or the wait after it: this is the limit, or it was told
to stop by then. -/
def EndsWith (maxCycles : Int) (calls : ν → Nat) (n : Nat) : Prop :=
  0 < n ∧ ((n : Int) = maxCycles ∨ calls (before config interval around w n).2 ≠ calls w.2)

/-- The world in which the loop ends with its `n`-th sweep: at the limit it does not wait. -/
def last (maxCycles : Int) (n : Nat) : Desk × ν :=
  if (n : Int) = maxCycles then (swept config interval around w (n - 1)).2
  else before config interval around w n

end Course

variable {config : Config} {interval : Nat} {w : Desk × ν} {maxCycles : Int}

theorem reportsFrom_succ (first n : Nat) :
    reportsFrom config interval around w first (n + 1) =
      (swept config interval around w first).1.toOption.toList ++
        reportsFrom config interval around w (first + 1) n := by
  rw [reportsFrom, List.range'_succ, List.filterMap_cons]
  cases (swept config interval around w first).1.toOption <;> rfl

theorem requestsFrom_succ (first n : Nat) :
    requestsFrom config interval around w first (n + 1) =
      (sweep config).requests around (before config interval around w first) ++
        requestsFrom config interval around w (first + 1) n := by
  rw [requestsFrom, List.range'_succ, List.flatMap_cons]
  rfl

theorem reportsFrom_add_one (n : Nat) :
    reportsFrom config interval around w 0 (n + 1) =
      reportsFrom config interval around w 0 n ++
        (swept config interval around w n).1.toOption.toList := by
  have place : 0 + 1 * n = n := by omega
  rw [reportsFrom, List.range'_concat, List.filterMap_append, place, List.filterMap_cons,
    List.filterMap_nil]
  cases (swept config interval around w n).1.toOption <;> rfl

/-- What becomes of the state of the loop up to a sweep, and in it. -/
theorem before_reported (stops : around.OnlyStop calls) (n : Nat) :
    Reported calls (reportsFrom config interval around w 0 n)
        (before config interval around w 0) (before config interval around w n) ∧
      Reported calls (reportsFrom config interval around w 0 (n + 1))
        (before config interval around w 0) (swept config interval around w n).2 := by
  have next : ∀ k, Reported calls (reportsFrom config interval around w 0 k)
      (before config interval around w 0) (before config interval around w k) →
        Reported calls (reportsFrom config interval around w 0 (k + 1))
          (before config interval around w 0) (swept config interval around w k).2 := by
    intro k reported
    rw [reportsFrom_add_one]
    exact reported.trans (sweep_reported config stops _)
  have start : Reported calls (reportsFrom config interval around w 0 n)
      (before config interval around w 0) (before config interval around w n) := by
    induction n with
    | zero => exact .refl _
    | succ n ih =>
      have waited := (wait_footprint interval).reported stops (swept config interval around w n).2
      have reported := (next n ih).trans waited
      rwa [List.append_nil] at reported
  exact ⟨start, next n start⟩

/-- The flag of the loop is up until it is told to stop. -/
theorem before_running (stops : around.OnlyStop calls) (n : Nat) :
    (before config interval around w n).1.running =
      (calls (before config interval around w n).2 == calls w.2) := by
  rw [(before_reported stops n).1.running]
  exact Bool.true_and _

variable {v : Desk × ν} {fuel : Nat} {cycle : Int}

/-- At the limit the loop ends with the sweep. -/
theorem cycles_limit (limit : 0 < maxCycles ∧ maxCycles ≤ cycle) :
    (cycles config interval maxCycles (fuel + 1) cycle).run around v =
        (some ((sweep config).run around v).1.toOption.toList, ((sweep config).run around v).2) ∧
      (cycles config interval maxCycles (fuel + 1) cycle).requests around v =
        (sweep config).requests around v := by
  have reached : (decide (0 < maxCycles) && decide (maxCycles ≤ cycle)) = true := by
    simpa using limit
  simp only [cycles, Program.monad_bind_eq, Program.run_bind, Program.requests_bind, reached,
    if_true]
  simp [Program.run, Program.requests]

/-- Below the limit it waits, and ends if its flag is down by then. -/
theorem cycles_stopped (below : ¬(0 < maxCycles ∧ maxCycles ≤ cycle))
    (off : ((wait interval).run around ((sweep config).run around v).2).2.1.running = false) :
    (cycles config interval maxCycles (fuel + 1) cycle).run around v =
        (some ((sweep config).run around v).1.toOption.toList,
          ((wait interval).run around ((sweep config).run around v).2).2) ∧
      (cycles config interval maxCycles (fuel + 1) cycle).requests around v =
        (sweep config).requests around v := by
  have unreached : (decide (0 < maxCycles) && decide (maxCycles ≤ cycle)) = false := by
    simpa using below
  simp only [cycles, Program.monad_bind_eq, Program.run_bind, Program.requests_bind, unreached,
    Bool.false_eq_true, if_false, Program.run_read, off, wait_requests]
  simp [Program.run, Program.requests, Program.read]

/-- Otherwise it goes on. -/
theorem cycles_goesOn (below : ¬(0 < maxCycles ∧ maxCycles ≤ cycle))
    (on : ((wait interval).run around ((sweep config).run around v).2).2.1.running = true) :
    let rest := cycles config interval maxCycles fuel (cycle + 1)
    let next := ((wait interval).run around ((sweep config).run around v).2).2
    (cycles config interval maxCycles (fuel + 1) cycle).run around v =
        ((rest.run around next).1.map (((sweep config).run around v).1.toOption.toList ++ ·),
          (rest.run around next).2) ∧
      (cycles config interval maxCycles (fuel + 1) cycle).requests around v =
        (sweep config).requests around v ++ rest.requests around next := by
  intro rest next
  have unreached : (decide (0 < maxCycles) && decide (maxCycles ≤ cycle)) = false := by
    simpa using below
  simp only [cycles, Program.monad_bind_eq, Program.run_bind, Program.requests_bind, unreached,
    Bool.false_eq_true, if_false, Program.run_read, on, if_true, wait_requests]
  simp [Program.run, Program.requests, Program.read, rest, next]

/-- Below its end the loop is below the limit. -/
theorem below_limit {n k : Nat}
    (least : IsLeast {n | EndsWith config interval around w maxCycles calls n} n) (early : k < n) :
    ¬(0 < maxCycles ∧ maxCycles ≤ k) := by
  rintro ⟨positive, reached⟩
  have ends : EndsWith config interval around w maxCycles calls maxCycles.toNat :=
    ⟨by omega, .inl (by omega)⟩
  have first : n ≤ maxCycles.toNat := least.2 ends
  omega

/-- The loop ends with the sweep that it ends with. -/
theorem cycles_ends (stops : around.OnlyStop calls) {k : Nat} (fuel : Nat)
    (least : IsLeast {n | EndsWith config interval around w maxCycles calls n} (k + 1)) :
    let rest := cycles config interval maxCycles (fuel + 1) ((k : Int) + 1)
    let start := before config interval around w k
    rest.run around start =
        (some (reportsFrom config interval around w k 1),
          last config interval around w maxCycles (k + 1)) ∧
      rest.requests around start = requestsFrom config interval around w k 1 := by
  intro rest start
  have one : reportsFrom config interval around w k 1 =
      ((sweep config).run around start).1.toOption.toList := by
    rw [reportsFrom_succ]
    exact List.append_nil _
  have asks : requestsFrom config interval around w k 1 = (sweep config).requests around start := by
    rw [requestsFrom_succ]
    exact List.append_nil _
  rw [one, asks, last]
  by_cases limit : ((k + 1 : Nat) : Int) = maxCycles
  · rw [if_pos limit]
    exact cycles_limit (by omega)
  · rw [if_neg limit]
    have below : ¬(0 < maxCycles ∧ maxCycles ≤ (k : Int) + 1) := by
      rintro ⟨positive, reached⟩
      exact below_limit least (Nat.lt_succ_self k) ⟨positive, by omega⟩
    have told : calls (before config interval around w (k + 1)).2 ≠ calls w.2 :=
      least.1.2.resolve_left limit
    have off : (before config interval around w (k + 1)).1.running = false := by
      rw [before_running stops]
      exact beq_false_of_ne told
    exact cycles_stopped below off

/-- It goes on after each sweep before that one. -/
theorem cycles_next (stops : around.OnlyStop calls) {n k : Nat} (fuel : Nat)
    (least : IsLeast {n | EndsWith config interval around w maxCycles calls n} n)
    (early : k + 1 < n) :
    let rest := cycles config interval maxCycles fuel ((k : Int) + 1 + 1)
    let start := before config interval around w k
    let next := before config interval around w (k + 1)
    (cycles config interval maxCycles (fuel + 1) ((k : Int) + 1)).run around start =
        ((rest.run around next).1.map
            ((swept config interval around w k).1.toOption.toList ++ ·),
          (rest.run around next).2) ∧
      (cycles config interval maxCycles (fuel + 1) ((k : Int) + 1)).requests around start =
        (sweep config).requests around start ++ rest.requests around next := by
  intro rest start next
  have going : ¬EndsWith config interval around w maxCycles calls (k + 1) := by
    intro ends
    have first : n ≤ k + 1 := least.2 ends
    omega
  have untold : calls next.2 = calls w.2 := by
    by_contra told
    exact going ⟨Nat.succ_pos k, .inr told⟩
  have on : next.1.running = true := by
    rw [before_running stops]
    exact beq_iff_eq.mpr untold
  have below : ¬(0 < maxCycles ∧ maxCycles ≤ (k : Int) + 1) := by
    rintro ⟨positive, reached⟩
    exact below_limit least early ⟨positive, by omega⟩
  exact cycles_goesOn below on

/-- From each sweep before its end, the loop comes to its end by the sweeps that are left, and by no
fewer. -/
theorem cycles_run (stops : around.OnlyStop calls) {n k : Nat} (fuel : Nat)
    (least : IsLeast {n | EndsWith config interval around w maxCycles calls n} n) (early : k < n) :
    let rest := cycles config interval maxCycles fuel ((k : Int) + 1)
    let start := before config interval around w k
    (fuel < n - k → (rest.run around start).1 = none) ∧
      (n - k ≤ fuel →
        rest.run around start =
            (some (reportsFrom config interval around w k (n - k)),
              last config interval around w maxCycles n) ∧
          rest.requests around start = requestsFrom config interval around w k (n - k)) := by
  induction fuel generalizing k with
  | zero => exact ⟨fun _ => rfl, fun enough => by omega⟩
  | succ fuel ih =>
    intro rest start
    by_cases final : k + 1 = n
    · subst final
      have one : k + 1 - k = 1 := by omega
      rw [one]
      exact ⟨fun few => by omega, fun _ => cycles_ends stops fuel least⟩
    · have later : k + 1 < n := by omega
      have left : n - k = n - (k + 1) + 1 := by omega
      obtain ⟨ran, asked⟩ := cycles_next stops fuel least later
      obtain ⟨few, enough⟩ := ih later
      push_cast at few enough
      rw [left, reportsFrom_succ, requestsFrom_succ]
      constructor
      · intro short
        rw [ran, few (by omega)]
        rfl
      · intro long
        obtain ⟨rests, asks⟩ := enough (by omega)
        rw [ran, asked, rests, asks]
        exact ⟨rfl, rfl⟩

/-- The loop does end, if it has a limit or is told to stop. -/
theorem exists_least (ends : 0 < maxCycles ∨
    ∃ n, calls (before config interval around w n).2 ≠ calls w.2) :
    ∃ n, IsLeast {n | EndsWith config interval around w maxCycles calls n} n := by
  classical
  have some : ∃ n, EndsWith config interval around w maxCycles calls n := by
    rcases ends with positive | ⟨n, told⟩
    · exact ⟨maxCycles.toNat, by omega, .inl (by omega)⟩
    · refine ⟨n, Nat.pos_of_ne_zero ?_, .inr told⟩
      rintro rfl
      exact told rfl
  exact ⟨Nat.find some, Nat.find_spec some, fun _ ends => Nat.find_min' some ends⟩

/-- What the loop has made of its state by its end. -/
theorem last_reported (stops : around.OnlyStop calls) {n : Nat} (positive : 0 < n) :
    Reported calls (reportsFrom config interval around w 0 n) (before config interval around w 0)
      (last config interval around w maxCycles n) := by
  unfold last
  split
  · obtain ⟨k, rfl⟩ := Nat.exists_eq_add_of_lt positive
    rw [Nat.zero_add]
    exact (before_reported stops k).2
  · exact (before_reported stops n).1

/-- The loop goes through its cycles with its flag up, and leaves it down. -/
theorem loop_run (config : Config) (interval : Option Int) (maxCycles : Int) (fuel : Nat)
    (around : Surroundings Desk ν) (w : Desk × ν) :
    let seconds := (interval.getD config.sweepInterval).toNat
    let course := cycles config seconds maxCycles fuel 1
    let start := before config seconds around w 0
    (loop config interval maxCycles fuel).run around w =
        ((course.run around start).1, (course.run around start).2.1.stop,
          (course.run around start).2.2) ∧
      (loop config interval maxCycles fuel).requests around w = course.requests around start := by
  intro seconds course start
  simp only [loop, Program.monad_bind_eq, Program.run_bind, Program.requests_bind]
  exact ⟨rfl, List.append_nil _⟩

end Sweep

/-- **The loop ends.** In surroundings that only tell it to stop, at any time, a loop that has a limit
or is told to stop ends with the first sweep that is the limit, or by whose end, or that of the wait
after it, it was told: it takes as many sweeps as that, and all of them are finished. It gives the
reports of those that come to one, in order, and adds them to the state of the desk, with the flag of
the loop down. -/
theorem loop_ends (config : Config) (interval : Option Int) (maxCycles : Int)
    {around : Surroundings Desk ν} {calls : ν → Nat} (stops : around.OnlyStop calls)
    (w : Desk × ν) :
    let seconds := (interval.getD config.sweepInterval).toNat
    (0 < maxCycles ∨ ∃ n, calls (Sweep.before config seconds around w n).2 ≠ calls w.2) →
    ∃ n, IsLeast {n | Sweep.EndsWith config seconds around w maxCycles calls n} n ∧ ∀ fuel,
      let loop := Sweep.loop config interval maxCycles fuel
      let reports := Sweep.reportsFrom config seconds around w 0 n
      let last := Sweep.last config seconds around w maxCycles n
      let ended := (loop.run around w).2
      (fuel < n → (loop.run around w).1 = none) ∧
        (n ≤ fuel →
          loop.run around w = (some reports, last.1.stop, last.2) ∧
            loop.requests around w = Sweep.requestsFrom config seconds around w 0 n ∧
              ended.1.running = false ∧ ended.1.sweeps = w.1.sweeps + reports.length ∧
                ended.1.lastSweep = reports.getLast?.or w.1.lastSweep) := by
  intro seconds ends
  obtain ⟨n, least⟩ := Sweep.exists_least ends
  refine ⟨n, least, fun fuel => ?_⟩
  have positive : 0 < n := least.1.1
  obtain ⟨few, enough⟩ := Sweep.cycles_run stops fuel least positive
  obtain ⟨ran, asked⟩ := Sweep.loop_run config interval maxCycles fuel around w
  intro loop reports last ended
  constructor
  · intro short
    exact (congrArg Prod.fst ran).trans (few short)
  · intro long
    obtain ⟨cycled, asks⟩ := enough long
    have comes : loop.run around w = (some reports, last.1.stop, last.2) := by
      refine ran.trans ?_
      rw [show (1 : Int) = ((0 : Nat) : Int) + 1 from rfl, cycled]
      rfl
    have reported : Reported calls reports (Sweep.before config seconds around w 0) last :=
      Sweep.last_reported stops positive
    have world : ended = (last.1.stop, last.2) := congrArg Prod.snd comes
    rw [world]
    exact ⟨comes, asked.trans asks, rfl, reported.sweeps, reported.lastSweep⟩

namespace Sweep.Sample

def stopping : Surroundings Desk Nat :=
  ⟨fun r w => (replies r, w), fun w => (w.1.stop, w.2 + 1)⟩

theorem stopping_onlyStop : stopping.OnlyStop id where
  reply _ w := .refl w
  second w := ⟨Nat.le_succ _, by simp [stopping, Desk.stop], rfl, rfl⟩

end Sweep.Sample

open Sweep.Sample in
theorem sample_loop_ends :
    let loop := Sweep.loop .sample (some 1) 0 5
    ∃ report, (loop.run stopping (desk, 0)).1 = some [report] ∧
      (loop.run stopping (desk, 0)).2.1.running = false ∧
        (loop.run stopping (desk, 0)).2.1.sweeps = 1 ∧
          (loop.run stopping (desk, 0)).2.1.lastSweep = some report := by
  intro loop
  have told : id (Sweep.before .sample 1 stopping (desk, 0) 1).2 ≠ id 0 := by decide +kernel
  obtain ⟨n, least, ended⟩ := loop_ends .sample (some 1) 0 stopping_onlyStop (desk, 0) (.inr ⟨1, told⟩)
  obtain rfl : n = 1 := by
    have first : n ≤ 1 := least.2 ⟨Nat.one_pos, .inr told⟩
    have positive : 0 < n := least.1.1
    omega
  obtain ⟨run, -, running, sweeps, lastSweep⟩ := (ended 5).2 (by decide)
  have reported : (Sweep.swept .sample 1 stopping (desk, 0) 0).1.toOption.isSome = true := by
    decide +kernel
  obtain ⟨report, came⟩ := Option.isSome_iff_exists.mp reported
  have reports : Sweep.reportsFrom .sample 1 stopping (desk, 0) 0 1 = [report] := by
    rw [Sweep.reportsFrom_succ, came]
    rfl
  have seconds : ((some 1 : Option Int).getD Config.sample.sweepInterval).toNat = 1 := rfl
  rw [seconds, reports] at run sweeps lastSweep
  exact ⟨report, congrArg Prod.fst run, running, sweeps, lastSweep⟩

end SignalDesk
