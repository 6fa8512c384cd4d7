import SignalDesk.Proofs.Network.Under
import SignalDesk.Proofs.Number.Whole
import SignalDesk.Proofs.Run.Commitment

namespace SignalDesk

/-- Whether a column holds a time that is not before one in milliseconds. Texts are no times. -/
def Figure.NotBefore (ms : Int) : Figure → Prop
  | .number (.whole n) => ms ≤ n
  | .number (.real x) => x ≠ .nan ∧ x.lt (.ofInt ms) = false
  | .text _ => False

instance Figure.decideNotBefore (ms : Int) : (f : Figure) → Decidable (f.NotBefore ms)
  | .number (.whole n) => inferInstanceAs (Decidable (ms ≤ n))
  | .number (.real x) => inferInstanceAs (Decidable (x ≠ .nan ∧ x.lt (.ofInt ms) = false))
  | .text _ => inferInstanceAs (Decidable False)

/-- Whether the stamp of a gate can be read, and is not after the time of a candle. -/
def Gate.Predates (g : Gate) (candle : Figure) : Prop :=
  ∃ started, g.startedMillis = .ok started ∧ ∀ ms, started = some ms → candle.NotBefore ms

instance Gate.decidePredates (g : Gate) (candle : Figure) : Decidable (g.Predates candle) :=
  match stamp : g.startedMillis with
  | .error _ => isFalse fun ⟨_, read, _⟩ => nomatch stamp.symm.trans read
  | .ok none => isTrue ⟨none, stamp, nofun⟩
  | .ok (some ms) =>
    decidable_of_iff (candle.NotBefore ms) <| by
      constructor
      · intro fresh
        refine ⟨some ms, stamp, ?_⟩
        rintro _ ⟨⟩
        exact fresh
      · rintro ⟨started, read, fresh⟩
        exact fresh ms (Except.ok.inj (read.symm.trans stamp))

namespace Real64

theorem ofScaled_fits (negative : Bool) (n : Nat) (e : Int) : (ofScaled negative n e).Fits := by
  simp only [ofScaled]
  split
  · exact ofQuotient_fits negative Nat.one_pos
  · exact ofQuotient_fits negative (Nat.two_pow_pos _)

theorem mul_fits (x y : Real64) : (x.mul y).Fits := by
  cases x with
  | nan => trivial
  | infinite a =>
    cases y with
    | nan => trivial
    | infinite b => trivial
    | finite y =>
      simp only [mul]
      split <;> trivial
  | finite x =>
    cases y with
    | nan => trivial
    | infinite b =>
      simp only [mul]
      split <;> trivial
    | finite y => exact ofScaled_fits ..

end Real64

/-- A stamp in milliseconds is an integer that is not rounded. -/
theorem Stamp.millis_whole {s : Stamp} {ms : Int} (h : s.millis = .ok ms) :
    ∃ y, Real64.ofInt ms = .finite y ∧ y.Is ms := by
  obtain ⟨x, -, product⟩ := map_ok.mp h
  have fits := Real64.mul_fits x (.ofInt 1000)
  cases found : x.mul (.ofInt 1000) with
  | finite z =>
    rw [found] at product fits
    obtain rfl : z.truncate = ms := product
    exact Real64.ofInt_truncate fits
  | infinite b =>
    rw [found] at product
    obtain rfl : 0 = ms := product
    exact Real64.ofInt_whole (s := 0) (k := 0) (Nat.two_pow_pos 53) (Nat.zero_le _) rfl
  | nan =>
    rw [found] at product
    obtain rfl : 0 = ms := product
    exact Real64.ofInt_whole (s := 0) (k := 0) (Nat.two_pow_pos 53) (Nat.zero_le _) rfl

theorem Gate.startedMillis_whole {g : Gate} {ms : Int} (h : g.startedMillis = .ok (some ms)) :
    ∃ y, Real64.ofInt ms = .finite y ∧ y.Is ms := by
  simp only [startedMillis] at h
  split at h
  · cases h
  split at h
  · cases h
  · obtain ⟨_, read, same⟩ := map_ok.mp h
    cases same
    obtain ⟨s, -, read⟩ := bind_ok.mp read
    exact Stamp.millis_whole read

/-- A number that is not before a time is not before it as a column keeps it. -/
theorem Amount.notBefore_ofReal {x : Real64} {ms : Int} {y : Binary64}
    (exact : Real64.ofInt ms = .finite y) (whole : y.Is ms) (number : x ≠ .nan)
    (fresh : x.lt (.ofInt ms) = false) : Figure.NotBefore ms (.number (.ofReal x)) := by
  cases x with
  | nan => exact absurd rfl number
  | infinite b => exact ⟨number, fresh⟩
  | finite z =>
    simp only [ofReal]
    split
    · rename_i within
      simp only [Bool.and_eq_true, decide_eq_true_eq] at within
      have integer : z.Is z.truncate := by simp [Binary64.Is, within.1.1]
      rw [exact, Real64.lt_whole integer whole, decide_eq_false_iff_not] at fresh
      exact Int.not_lt.mp fresh
    · exact ⟨number, fresh⟩

namespace Run

variable {gate : Gate} {signal : Signal Real64} {candle : Figure} {ms : Int}

theorem isBefore_figure {time : Json} (stamp : gate.startedMillis = .ok (some ms))
    (fresh : isBefore time ms = .ok false) (figure : Store.figure? time = .ok (some candle)) :
    candle.NotBefore ms := by
  obtain ⟨label, bound, figure⟩ := map_ok.mp figure
  cases time with
  | int n =>
    simp only [Store.bound] at bound
    split at bound
    · cases bound
      cases figure
      exact Int.not_lt.mp (of_decide_eq_false (Except.ok.inj fresh))
    · cases bound
  | bool b =>
    cases bound
    cases figure
    exact Int.not_lt.mp (of_decide_eq_false (Except.ok.inj fresh))
  | real x =>
    obtain ⟨y, exact, whole⟩ := gate.startedMillis_whole stamp
    cases x with
    | nan =>
      cases bound
      cases figure
    | finite z =>
      cases bound
      cases figure
      exact Amount.notBefore_ofReal exact whole (by rintro ⟨⟩) (Except.ok.inj fresh)
    | infinite b =>
      cases bound
      cases figure
      exact Amount.notBefore_ofReal exact whole (by rintro ⟨⟩) (Except.ok.inj fresh)
  | _ => cases fresh

/-- **Fresh candles.** The candle that a run commits itself for is not from before the stamp of the
gate, which can be read. -/
theorem timeOf_predates (h : timeOf gate signal = .ok (some (some candle))) :
    gate.Predates candle := by
  have figure := timeOf_figure h
  simp only [timeOf, bind_ok, mapError_ok] at h
  obtain ⟨started, stamp, stale, compared, h⟩ := h
  refine ⟨started, stamp, ?_⟩
  rintro ms rfl
  split at h
  · cases h
  · rename_i fresh
    rw [Bool.not_eq_true] at fresh
    exact isBefore_figure stamp (fresh ▸ compared) figure

end Run

/-- Whether the gate for a trade is on, and its stamp is not after the trade's candle. -/
def Store.LetsIn (s : Store) (t : TradeIdentity) : Prop :=
  ∃ g, s.gate? t.user t.script = some g ∧ g.enabled = true ∧ g.Predates t.candleTime

instance (s : Store) (t : TradeIdentity) : Decidable (s.LetsIn t) :=
  inferInstanceAs (Decidable (∃ g ∈ s.gate? t.user t.script, _))

/-- Whether a trade is in the names of an activation, for a candle that is not from before the stamp
of a gate. -/
structure Activation.Fresh (a : Activation) (gate : Gate) (t : TradeIdentity) : Prop where
  names : a.Names t.user t.script t.timeframe
  predates : gate.Predates t.candleTime

/-- The gate that a run has passed lets its fresh trades in. -/
theorem Activation.Fresh.letsIn {a : Activation} {gate : Gate} {t : TradeIdentity}
    (fresh : a.Fresh gate t) {flags : Option Flags} {s : Store}
    (passed : Run.passGates a flags s = .ok gate) : s.LetsIn t := by
  obtain ⟨-, -, found, enabled⟩ := (Run.passGates_iff fresh.names).mp passed
  exact ⟨gate, found, enabled, fresh.predates⟩

theorem Store.LetsIn.of_gate? {s s' : Store} {t : TradeIdentity} (h : s.LetsIn t)
    (same : s'.gate? t.user t.script = s.gate? t.user t.script) : s'.LetsIn t := by
  rwa [LetsIn, same]

/-- Whether gates stay as they are, and the trades that are made have `P`. -/
structure Desk.Makes (P : TradeIdentity → Prop) (d d' : Desk) : Prop where
  gates : d'.store.gates = d.store.gates
  made : ∃ new, d'.store.made = d.store.made ++ new ∧ ∀ t ∈ new, P t

namespace Desk.Makes

variable {P P' : TradeIdentity → Prop} {d d' d'' : Desk}

theorem of_same_made (gates : d'.store.gates = d.store.gates)
    (made : d'.store.made = d.store.made) : d.Makes P d' :=
  ⟨gates, [], by rw [made, List.append_nil], by simp⟩

theorem refl (d : Desk) : d.Makes P d := .of_same_made rfl rfl

theorem of_same (same : d.SameStore d') : d.Makes P d' :=
  .of_same_made (congrArg Store.gates same) (congrArg Store.made same)

theorem of_marks (marks : d.Marks d') : d.Makes P d' := by
  obtain ⟨trades, made, rfl⟩ := marks
  exact .of_same_made rfl made

theorem trans (h : d.Makes P d') (h' : d'.Makes P d'') : d.Makes P d'' := by
  obtain ⟨new, made, holds⟩ := h.made
  obtain ⟨new', made', holds'⟩ := h'.made
  refine ⟨h'.gates.trans h.gates, new ++ new', by rw [made', made, List.append_assoc], ?_⟩
  intro t member
  rcases List.mem_append.mp member with first | second
  · exact holds t first
  · exact holds' t second

theorem mono (h : d.Makes P d') (weaker : ∀ t, P t → P' t) : d.Makes P' d' := by
  obtain ⟨new, made, holds⟩ := h.made
  exact ⟨h.gates, new, made, fun t member => weaker t (holds t member)⟩

end Desk.Makes

namespace Run

variable {config : Config} {a : Activation} {gate : Gate} {signal : Signal Real64}

theorem commitOn_makes (d : Desk) :
    d.Makes (a.Fresh gate) (commitOn config a gate signal d).2 := by
  simp only [commitOn]
  split
  · exact .refl d
  · rename_i committed
    obtain ⟨candle, commits⟩ := commit_commits committed
    obtain ⟨t, p, -, rfl, names, rfl⟩ := commits.trade
    refine ⟨rfl, [t.identity], List.map_append, fun t' member => ?_⟩
    obtain rfl := List.mem_singleton.mp member
    exact ⟨names, timeOf_predates commits.time⟩

/-- Whatever becomes of the desk, a run that has passed its gate makes only trades that were let in
then. -/
theorem passed_makes (config : Config) (given : Option (Signal Real64)) {flags : Option Flags}
    {s : Store} (passed : passGates a flags s = .ok gate) :
    ((signalFor config a given).bind (follow config a gate)).Within (fun _ => True)
      (Desk.Makes s.LetsIn) fun _ => True := by
  refine passed_within config a gate given (fun _ _ => .of_same) (fun _ _ => .of_marks) ?_
  intro signal d
  exact (commitOn_makes d).mono fun _ fresh => fresh.letsIn passed

end Run
end SignalDesk
