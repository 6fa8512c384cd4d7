import SignalDesk.Proofs.Network.Interleaving
import SignalDesk.Proofs.Run.Budget
import SignalDesk.Proofs.Sweep.Repetition

namespace SignalDesk

open Contest

namespace Sweep

/-- The runs of a sweep as calls, by their places. -/
def calls (config : Config) (as : List Activation) (i : Fin as.length) : Call :=
  ⟨config, as[i], none, none⟩

/-- Whether results are those of the calls of activations, which have ended. -/
def Reports (as : List Activation) (w : Arena (Fin as.length)) (results : List Run) : Prop :=
  results.length = as.length ∧
    ∀ i : Fin as.length, ∃ ending, w.rest i = .done ending ∧
      results[i.val]? = some (settle as[i] ending)

theorem Reports.over {as : List Activation} {w : Arena (Fin as.length)} {results : List Run}
    (h : Reports as w results) : w.Over :=
  fun i => (h.2 i).imp fun _ told => told.1

variable (config : Config) (as : List Activation) (d : Desk)

/-- Whether an arena of the calls tells of what is left of the runs, and of the desk. -/
def Mirrors (w : Arena (Fin as.length)) (rest : Nat → Program Desk Run) (d' : Desk) : Prop :=
  w.desk = d' ∧ ∀ i : Fin as.length, rest i = (w.rest i).map (settle as[i])

theorem calls_interleave : Interleaves Desk.SameStore as.length fun rest d' =>
    ∃ w, Arena.Undisturbed (calls config as) d w ∧ Mirrors as w rest d' where
  move := by
    rintro rest d' i p d'' ⟨w, undisturbed, rfl, mirrors⟩ below move
    rw [mirrors ⟨i, below⟩] at move
    obtain ⟨p, moved, rfl⟩ := move.of_map
    refine ⟨_, undisturbed.move ⟨i, below⟩ moved, rfl, fun j => ?_⟩
    by_cases same : j = ⟨i, below⟩
    · subst same
      rw [Arena.rest_moved]
      exact Function.update_self ..
    · have other : j.val ≠ i := fun eq => same (Fin.ext eq)
      rw [Arena.rest_moved_of_ne w same]
      exact (Function.update_of_ne other ..).trans (mirrors j)
  idle := by
    rintro rest d' d'' ⟨w, undisturbed, rfl, mirrors⟩ same
    exact ⟨_, undisturbed.idle same, rfl, mirrors⟩

/-- What is left of the runs before any of them moves. -/
def beginnings (i : Nat) : Program Desk Run :=
  match as[i]? with
  | some a => (Run.run config a none none).map (settle a)
  | none => .done ⟨.nothing, .nothing, .nothing, .failed, .nothing, none, none⟩

/-- Runs side by side come to their ends in one of the orders in which they may move. -/
theorem runAll_interleaved (slots : Option Int) :
    (runAll config slots none as).Keeps (.amid Desk.SameStore)
      (fun results d' => ∃ w, Arena.Undisturbed (calls config as) d w ∧ w.desk = d' ∧
        Reports as w results) d := by
  have start : Mirrors as (Arena.start (calls config as) d) (beginnings config as) d := by
    refine ⟨rfl, fun i => ?_⟩
    simp only [beginnings, Fin.is_lt, List.getElem?_eq_getElem]
    rfl
  refine (Program.Keeps.interleaved (by simp) (calls_interleave config as d)
    ⟨_, .start, start⟩ ?begins).mono ?told
  case begins =>
    intro i x here
    obtain ⟨a, found, rfl⟩ := run_of_place here
    simp only [beginnings, found]
  case told =>
    rintro results d' ⟨rest, ⟨w, undisturbed, same, mirrors⟩, length, told⟩
    refine ⟨w, undisturbed, same, length, fun i => ?_⟩
    have below : i.val < results.length := by
      rw [length]
      exact i.isLt
    have ended := told i.val _ (List.getElem?_eq_getElem below)
    rw [mirrors i] at ended
    cases rest : w.rest i with
    | done ending =>
      rw [rest] at ended
      have same : settle as[i] ending = results[i.val] := Program.done.inj ended
      exact ⟨ending, rfl, same ▸ List.getElem?_eq_getElem below⟩
    | _ =>
      rw [rest] at ended
      exact nomatch ended

/-- **A sweep is one of its orders.** -/
theorem sweep_interleaved {as : List Activation} (listed : d.store.activations? "" "" = .ok as)
    {ν : Type} {around : Surroundings Desk ν} (still : around.Within Desk.SameStore) (n : ν) :
    ∃ w report, Arena.Undisturbed (calls config as) d w ∧
      ((sweep config).run around (d, n)).1 = .ok report ∧ Reports as w report.results ∧
        ((sweep config).run around (d, n)).2.1.store = w.desk.store := by
  have swept : (sweep config).Keeps (.amid Desk.SameStore) (fun r d' => ∃ w report,
      Arena.Undisturbed (calls config as) d w ∧ r = .ok report ∧ Reports as w report.results ∧
        d'.store = w.desk.store) d := by
    refine keeps_of_runs trivial (fun fault failed => ?_) fun as' same => ?_
    · cases failed.symm.trans listed
    · obtain rfl : as' = as := Except.ok.inj (same.symm.trans listed)
      refine (runAll_interleaved config as' d _).mono ?_
      rintro results _ ⟨w, undisturbed, rfl, reports⟩ startedAt
      exact ⟨trivial, w, _, undisturbed, rfl, reports, rfl⟩
  exact (swept.run (w := (d, n)) (fun _ => rfl)
    ⟨fun _ _ => trivial, still.reply, still.second⟩).1

end Sweep

/-- **Coins bound the trades of a sweep.** Whatever the market tells, however many runs go on side by
side and in whatever order: of the runs that come to reserve a trade of a user, with values that the
tables admit, as many make one as the user has coins, and all others end for want of a coin. A sweep
that cannot list its activations changes nothing. -/
theorem coins_bound_trades (config : Config) (d : Desk) {user : String} {c : Nat}
    (small : c < 2 ^ 63) (balance : d.store.balance user = .number (.whole c)) {ν : Type}
    {around : Surroundings Desk ν} (still : around.Within Desk.SameStore) (n : ν) :
    let swept := (Sweep.sweep config).run around (d, n)
    (∀ as, d.store.activations? "" "" = .ok as →
      (∀ w, Arena.Undisturbed (Sweep.calls config as) d w → w.Over →
        w.SpendsCoins (Sweep.calls config as) user c) ∧
      ∃ w report, Arena.Undisturbed (Sweep.calls config as) d w ∧ w.Over ∧
        w.SpendsCoins (Sweep.calls config as) user c ∧ swept.1 = .ok report ∧
          Sweep.Reports as w report.results ∧ swept.2.1.store = w.desk.store) ∧
    ∀ fault, d.store.activations? "" "" = .error fault →
      swept.1 = .error (.overrides fault) ∧ swept.2.1.store = d.store := by
  intro swept
  refine ⟨fun as listed => ⟨fun w undisturbed ended => ?_, ?_⟩, fun fault failed => ?_⟩
  · exact undisturbed.spendsCoins ended small balance
  · obtain ⟨w, report, undisturbed, told, reports, store⟩ :=
      Sweep.sweep_interleaved config d listed still n
    exact ⟨w, report, undisturbed, reports.over,
      undisturbed.spendsCoins reports.over small balance, told, reports, store⟩
  · have stopped : swept = (.error (.overrides fault), (d, n)) := by
      simp only [swept, Sweep.sweep, Program.monad_bind_eq, Program.run_bind, Program.run_read,
        failed]
      rfl
    rw [stopped]
    exact ⟨rfl, rfl⟩

namespace Sweep.Sample

def scarce : Desk :=
  { desk with store :=
    { store with
      profiles := [⟨some "ada", .number (.whole 1), 0, ""⟩]
      activations := [⟨1, "ada", "cross", "1h", true, "{}", ""⟩,
        ⟨2, "ada", "cross", "4h", true, "{}", ""⟩] } }

theorem market_still : market.Within Desk.SameStore := ⟨fun _ _ => rfl, fun _ => rfl⟩

end Sweep.Sample

open Sweep.Sample in
theorem sample_coin_spent :
    ((Sweep.sweep .sample).run market (scarce, ())).2.1.store.trades.length = 1 ∧
      ∃ as, ∃ w : Arena (Fin as.length), scarce.store.activations? "" "" = .ok as ∧
        as.length = 2 ∧ w.SpendsCoins (Sweep.calls .sample as) "ada" 1 ∧
          ((Sweep.sweep .sample).run market (scarce, ())).2.1.store = w.desk.store := by
  have balance : scarce.store.balance "ada" = .number (.whole (1 : Nat)) := rfl
  have bound := coins_bound_trades .sample scarce (by decide) balance market_still ()
  refine ⟨by decide +kernel, ?_⟩
  obtain ⟨as, listed, two⟩ : ∃ as, scarce.store.activations? "" "" = .ok as ∧ as.length = 2 :=
    ⟨_, rfl, rfl⟩
  obtain ⟨-, w, report, -, -, spends, -, -, store⟩ := bound.1 as listed
  exact ⟨as, w, listed, two, spends, store⟩

end SignalDesk
