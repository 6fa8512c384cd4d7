import SignalDesk.Proofs.Network.Moves
import SignalDesk.Proofs.Run.Contest
import SignalDesk.Proofs.Run.Freshness
import SignalDesk.Proofs.Store.Gates
import SignalDesk.Proofs.Sweep.Repetition

/-!
# Gates turned while runs wait

A run reads its gate before it waits for candles, and does not look at it again. So its trade is let
in by the gate that it has read, and by that of the moment of the reservation if nobody has turned it
since (`trades_heed_gate_read`). A call that turns the gate while the run waits comes too late: the
trade is made all the same, behind a gate that is off or was turned on after the candle
(`trades_past_turned_gate`).
-/

namespace SignalDesk
namespace Contest

/-- A call under way by its segments, between which gates are turned and other things happen: the
calls that have turned gates since it began on the desk `d`, what is left of it, and the desk. -/
inductive Call.Interrupted (c : Call) (d : Desk) :
    List GateCall → Program Desk Run.Ending × Desk → Prop where
  | begun : Interrupted c d [] (c.program.advance d)
  | segment {turns : List GateCall} {w w' : Program Desk Run.Ending × Desk}
      (h : Interrupted c d turns w) (step : Program.Segment w w') : Interrupted c d turns w'
  | turned {turns : List GateCall} {w : Program Desk Run.Ending × Desk}
      (h : Interrupted c d turns w) (g : GateCall) :
      Interrupted c d (turns ++ [g]) (w.1, { w.2 with store := w.2.store.turned g })
  | idle {turns : List GateCall} {w : Program Desk Run.Ending × Desk} {e : Desk}
      (h : Interrupted c d turns w) (gates : e.store.gates = w.2.store.gates) :
      Interrupted c d turns (w.1, e)

/-- Whether a call that began on the desk `d` takes a desk to another by one of its segments, and the
calls that have turned gates since it began. -/
inductive Call.Takes (c : Call) (d : Desk) : List GateCall → Desk → Desk → Prop where
  | first : Takes c d [] d (c.program.advance d).2
  | later {turns : List GateCall} {w w' : Program Desk Run.Ending × Desk}
      (h : Interrupted c d turns w) (step : Program.Segment w w') : Takes c d turns w.2 w'.2

section Segments

variable {c : Call} {d e e' : Desk} {turns : List GateCall} {w : Program Desk Run.Ending × Desk}

/-- In its first segment a call reads its gate, and from there on it makes only trades that were let
in then. -/
theorem Call.begun_makes (c : Call) (d : Desk) :
    (c.program.advance d).1.Within (fun _ => True) (Desk.Makes d.store.LetsIn) (fun _ => True) ∧
      d.Makes d.store.LetsIn (c.program.advance d).2 := by
  rw [Call.program, Run.run_eq]
  simp only [Program.read, Program.bind, Program.advance, id]
  cases passed : Run.passGates c.activation c.flags d.store with
  | error r => exact ⟨trivial, .refl d⟩
  | ok gate => exact (Run.passed_makes c.config c.given passed).advance .refl .trans d

/-- A call that has its signal from outside does not wait before it reserves its trade. -/
theorem Call.begun_marks (given : c.given.isSome = true) :
    (c.program.advance d).1.Within (fun _ => True) Desk.Marks fun _ => True := by
  obtain ⟨signal, given⟩ := Option.isSome_iff_exists.mp given
  rw [Call.program, Run.run_eq, given]
  simp only [Program.read, Program.bind, Program.advance, id]
  cases passed : Run.passGates c.activation c.flags d.store with
  | error r => exact trivial
  | ok gate =>
    simp only [Run.signalFor, Run.follow, Program.atomically, Program.bind, Program.advance]
    cases (Run.commitOn c.config c.activation gate signal d).1 with
    | error ending => exact trivial
    | ok reserved =>
      have marks := (Run.place_marks c.config c.activation signal reserved).changes fun _ _ h => h
      exact (marks.advance Desk.Marks.refl Desk.Marks.trans _).1

/-- What is left of a call that is under way keeps to the bounds that it has once it has begun. -/
theorem Call.Interrupted.within {R : Desk → Desk → Prop} (h : c.Interrupted d turns w)
    (refl : ∀ d, R d d) (trans : ∀ {d e f}, R d e → R e f → R d f)
    (begun : (c.program.advance d).1.Within (fun _ => True) R fun _ => True) :
    w.1.Within (fun _ => True) R fun _ => True := by
  induction h with
  | begun => exact begun
  | segment _ step ih => exact (ih.segment refl trans step).1
  | turned _ _ ih => exact ih
  | idle _ _ ih => exact ih

/-- A gate that nobody has turned is as the call has read it. -/
theorem Call.Interrupted.gate? {user script : String} (h : c.Interrupted d turns w)
    (unturned : ∀ g ∈ turns, ¬(g.user = user ∧ g.script = script)) :
    w.2.store.gate? user script = d.store.gate? user script := by
  have same : ∀ {e e' : Desk}, e'.store.gates = e.store.gates →
      e'.store.gate? user script = e.store.gate? user script := by
    intro e e' gates
    rw [Store.gate?, Store.gate?, gates]
  induction h with
  | begun => exact same (c.begun_makes d).2.gates
  | segment h step ih =>
    have within := h.within Desk.Makes.refl Desk.Makes.trans (c.begun_makes d).1
    exact (same (within.segment .refl .trans step).2.gates).trans (ih unturned)
  | turned _ g ih =>
    have other := unturned g (List.mem_append_right _ List.mem_cons_self)
    exact (Store.gate?_turned other).trans
      (ih fun g member => unturned g (List.mem_append_left _ member))
  | idle _ gates ih => exact (same gates).trans (ih unturned)

end Segments
end Contest

open Contest

/-- **Trades heed the gate that was read.** However gates are turned between the segments of a run,
each trade that it makes is let in by its gate as the run found it when it began; and by its gate at
the moment of the reservation, if the signal came from outside or if no call since the run began has
turned it. -/
theorem trades_heed_gate_read {c : Call} {d e e' : Desk} {turns : List GateCall}
    (h : c.Takes d turns e e') :
    ∃ new, e'.store.made = e.store.made ++ new ∧ ∀ t ∈ new, d.store.LetsIn t ∧
      (c.given.isSome = true ∨ (∀ g ∈ turns, ¬(g.user = t.user ∧ g.script = t.script)) →
        e.store.LetsIn t) := by
  cases h with
  | first =>
    obtain ⟨new, made, let_in⟩ := (c.begun_makes d).2.made
    exact ⟨new, made, fun t member => ⟨let_in t member, fun _ => let_in t member⟩⟩
  | @later _ w w' h step =>
    by_cases given : c.given.isSome = true
    · -- the trade was made in the first segment, if at all
      have within := h.within Desk.Marks.refl Desk.Marks.trans (Call.begun_marks given)
      obtain ⟨trades, made, rest⟩ := (within.segment Desk.Marks.refl Desk.Marks.trans step).2
      refine ⟨[], ?_, by simp⟩
      rw [List.append_nil, rest]
      exact made
    · have within := h.within Desk.Makes.refl Desk.Makes.trans (c.begun_makes d).1
      obtain ⟨new, made, let_in⟩ := (within.segment .refl .trans step).2.made
      refine ⟨new, made, fun t member => ⟨let_in t member, ?_⟩⟩
      rintro (outside | unturned)
      · exact absurd outside given
      · exact (let_in t member).of_gate? (h.gate? unturned)

namespace Contest.Sample

def call : Call :=
  ⟨.sample, { Run.Sample.activation with content := "entryType=price_above threshold=2" }, none,
    none⟩

/-- The call waits for its candles. -/
def asked : Program Desk Run.Ending × Desk := call.program.advance Sweep.Sample.desk

/-- The desk on which the call waits after another call has turned a gate. -/
def turned (g : GateCall) : Desk := { asked.2 with store := asked.2.store.turned g }

/-- The candles come to the call on a desk, and it goes on. -/
def traded (d : Desk) : Desk :=
  ((asked.1.resume (.answer 200 "[[1,1,1,1,1,1],[2,3,3,3,3,1]]")).advance d).2

def trade : TradeIdentity := ⟨1, "ada", "cross", "1h", .number (.whole 2)⟩

/-- A call that turns the gate of somebody else. -/
def elsewhere : GateCall := ⟨"bob", "cross", false, 1000⟩

/-- Calls that turn the gate off, or on at a time after that of the candles. -/
def off : GateCall := ⟨"ada", "cross", false, 1000⟩

def anew : GateCall := ⟨"ada", "cross", true, 1000⟩

end Contest.Sample

open Contest.Sample in
theorem sample_gate_heeded :
    call.Takes Sweep.Sample.desk [elsewhere] (turned elsewhere) (traded (turned elsewhere)) ∧
      (traded (turned elsewhere)).store.made = [trade] ∧
        (turned elsewhere).store.LetsIn trade := by
  have takes : call.Takes Sweep.Sample.desk [elsewhere] (turned elsewhere)
      (traded (turned elsewhere)) := .later (.turned .begun elsewhere) ⟨_, rfl⟩
  have before : (turned elsewhere).store.made = [] := by decide +kernel
  have after : (traded (turned elsewhere)).store.made = [trade] := by decide +kernel
  obtain ⟨new, made, let_in⟩ := trades_heed_gate_read takes
  rw [before, after, List.nil_append] at made
  obtain ⟨-, heeded⟩ := let_in trade (made ▸ List.mem_cons_self)
  exact ⟨takes, after, heeded (.inr (by decide))⟩

open Contest.Sample in
/-- **A gate that is turned while a run waits is not heeded.** The gate is turned off, or on at a
later time, before the candles come, and the trade is made all the same. -/
theorem trades_past_turned_gate :
    (call.Takes Sweep.Sample.desk [off] (turned off) (traded (turned off)) ∧
        (traded (turned off)).store.made = (turned off).store.made ++ [trade] ∧
          ¬(turned off).store.LetsIn trade) ∧
      call.Takes Sweep.Sample.desk [anew] (turned anew) (traded (turned anew)) ∧
        (traded (turned anew)).store.made = (turned anew).store.made ++ [trade] ∧
          ¬(turned anew).store.LetsIn trade :=
  ⟨⟨.later (.turned .begun off) ⟨_, rfl⟩, by decide +kernel⟩,
    .later (.turned .begun anew) ⟨_, rfl⟩, by decide +kernel⟩

end SignalDesk
