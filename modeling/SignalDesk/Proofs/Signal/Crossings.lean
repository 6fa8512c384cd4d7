import SignalDesk.Proofs.Indicator.Extension
import SignalDesk.Proofs.Number.Comparison
import SignalDesk.Proofs.Signal.Outcome

/-!
# Crossings

A rule that opens a side on a history does not open it again on the next candle
(`Rule.fires_once`). Its indicators keep what they said, so the last values of the shorter history
are the ones before the last in the longer history: they stand on one side of each other and cannot
be where a crossing begins.
-/

namespace SignalDesk

/-- Whether comparisons order the values that are numbers, and hold of no other. -/
structure Arithmetic.Orders (α : Type) [Arithmetic α] : Prop where
  total : ∀ {x y : α}, undefined x = false → undefined y = false → le x y = !lt y x
  blind : ∀ {x y : α}, undefined x = true ∨ undefined y = true → lt x y = false

namespace Arithmetic

theorem orders_rat : Orders Rat where
  total {x y} _ _ := by
    change decide (x ≤ y) = !decide (y < x)
    rw [← decide_not]
    exact decide_eq_decide.mpr Rat.not_lt.symm
  blind h := by
    rcases h with h | h <;> cases h

theorem orders_real64 : Orders Real64 where
  total hx hy := Real64.le_eq_not_lt hx hy
  blind {x y} h := by
    change x.lt y = false
    rcases h with h | h
    · cases x with
      | nan => rfl
      | infinite | finite => cases h
    · cases y with
      | nan => cases x <;> rfl
      | infinite | finite => cases h

/-- What is above is not at or below. -/
theorem Orders.le_eq_false {α : Type} [Arithmetic α] (ordered : Orders α) {x y : α}
    (above : lt y x = true) : le x y = false := by
  have defined : undefined y = false ∧ undefined x = false := by
    constructor
    · refine Bool.eq_false_iff.mpr fun missing => ?_
      rw [ordered.blind (.inl missing)] at above
      cases above
    · refine Bool.eq_false_iff.mpr fun missing => ?_
      rw [ordered.blind (.inr missing)] at above
      cases above
  rw [ordered.total defined.2 defined.1, above]
  rfl

end Arithmetic

namespace Rule

open Arithmetic

variable {α : Type} [Arithmetic α]

/-- Whether one value passes another, upwards to buy and downwards to sell. -/
def passes : Side → (a b a' b' : α) → Bool
  | .buy => crossedAbove
  | .sell => crossedBelow

/-- What has passed stands beyond, so it does not pass in the next step. -/
theorem passes_once (ordered : Orders α) {side : Side} {a b a' b' a'' b'' : α}
    (h : passes side a b a' b' = true) : passes side a' b' a'' b'' = false := by
  cases side with
  | buy =>
    obtain ⟨-, above⟩ := Bool.and_eq_true_iff.mp h
    change (le a' b' && lt b'' a'') = false
    rw [ordered.le_eq_false above, Bool.false_and]
  | sell =>
    obtain ⟨-, below⟩ := Bool.and_eq_true_iff.mp h
    change (le b' a' && lt a'' b'') = false
    rw [ordered.le_eq_false below, Bool.false_and]

/-- The entry that was the last one is the one before the last when a series goes on. -/
theorem lastTwo?_next {β : Type} {xs longer : List β} {a b c d : β}
    (h : lastTwo? xs = some (a, b)) (starts : xs <+: longer)
    (length : longer.length = xs.length + 1) (h' : lastTwo? longer = some (c, d)) : c = b := by
  obtain ⟨more, rfl⟩ := starts
  obtain ⟨e, rfl⟩ : ∃ e, more = [e] :=
    List.length_eq_one_iff.mp (Nat.add_left_cancel (List.length_append ▸ length))
  have two : 2 ≤ xs.length := by
    match xs, h with
    | _ :: _ :: rest, _ => simp
  obtain ⟨rest, a', b', rfl⟩ := exists_last_two xs two
  have next := lastTwo?_append (rest ++ [a']) b' e
  rw [lastTwo?_append] at h
  rw [List.append_assoc] at next h'
  cases h
  cases h'.symm.trans next
  rfl

theorem lastDefined?_some {series : Series α} {a b : α} (h : lastDefined? series = some (a, b)) :
    lastTwo? series = some (some a, some b) := by
  rw [lastDefined?] at h
  split at h
  · rename_i found
    split at h
    · cases h
    · cases h
      exact found
  · cases h

section Rules

variable {s : Strategy α} {closes : List α} {side : Side} {reason : Reason α}

/-- An average rule opens a side where the fast average passes the slow one. -/
theorem averages_opens (h : averages s closes = .ok (some side, reason)) :
    ∃ fast slow a a' b b', Indicator.movingAverage s.average closes s.fastPeriod = .ok fast ∧
      Indicator.movingAverage s.average closes s.slowPeriod = .ok slow ∧
      lastTwo? fast = some (some a, some a') ∧ lastTwo? slow = some (some b, some b') ∧
      passes side a b a' b' = true := by
  rw [averages] at h
  split at h
  · cases h
  rename_i fast fastRun
  split at h
  · cases h
  rename_i slow slowRun
  split at h
  · rename_i a a' b b' fastLast slowLast
    refine ⟨fast, slow, a, a', b, b', fastRun, slowRun, lastDefined?_some fastLast,
      lastDefined?_some slowLast, ?_⟩
    split at h
    · rename_i upward
      cases h
      exact (Bool.and_eq_true_iff.mp upward).2
    split at h
    · rename_i under
      cases h
      exact (Bool.and_eq_true_iff.mp under).2
    · cases h
  · cases h

/-- A price rule opens a side where the close passes the threshold. -/
theorem price_opens (h : price s closes = .ok (some side, reason)) :
    ∃ t a a', s.threshold = some t ∧ lastTwo? closes = some (a, a') ∧
      passes side a t a' t = true := by
  rw [price] at h
  split at h
  · cases h
  rename_i a a' last
  split at h
  · cases h
  rename_i t given
  refine ⟨t, a, a', given, last, ?_⟩
  split at h
  · rename_i upward
    cases h
    exact (Bool.and_eq_true_iff.mp upward).2
  split at h
  · rename_i under
    cases h
    exact (Bool.and_eq_true_iff.mp under).2
  · cases h

/-- The bound that the index passes when a side is opened. -/
def bound (s : Strategy α) : Side → α
  | .buy => s.oversold.getD (ofNat Strategy.defaultOversold)
  | .sell => s.overbought.getD (ofNat Strategy.defaultOverbought)

/-- An index rule opens a side where the index passes a bound. -/
theorem strength_opens (h : strength s closes = .ok (some side, reason)) :
    ∃ series a a', Indicator.rsi closes (rsiPeriod s) = .ok series ∧
      lastTwo? series = some (some a, some a') ∧ passes side a (bound s side) a' (bound s side) := by
  simp only [strength] at h
  split at h
  · cases h
  split at h
  · cases h
  rename_i series run
  split at h
  · rename_i a a' last
    refine ⟨series, a, a', run, last, ?_⟩
    split at h
    · rename_i upward
      cases h
      exact upward
    split at h
    · rename_i under
      cases h
      exact under
    · cases h
  · cases h

theorem averages_once (ordered : Orders α) (h : averages s closes = .ok (some side, reason))
    (c : α) (reason' : Reason α) : averages s (closes ++ [c]) ≠ .ok (some side, reason') := by
  intro again
  obtain ⟨fast, slow, a, a', b, b', fastRun, slowRun, fastLast, slowLast, passed⟩ :=
    averages_opens h
  obtain ⟨fast', slow', x, x', y, y', fastRun', slowRun', fastLast', slowLast', passed'⟩ :=
    averages_opens again
  have sameFast : some x = some a' := by
    obtain ⟨longer, run, starts, length⟩ := Indicator.movingAverage_append fastRun [c]
    cases run.symm.trans fastRun'
    exact lastTwo?_next fastLast starts length fastLast'
  have sameSlow : some y = some b' := by
    obtain ⟨longer, run, starts, length⟩ := Indicator.movingAverage_append slowRun [c]
    cases run.symm.trans slowRun'
    exact lastTwo?_next slowLast starts length slowLast'
  cases sameFast
  cases sameSlow
  rw [passes_once ordered passed] at passed'
  cases passed'

theorem price_once (ordered : Orders α) (h : price s closes = .ok (some side, reason))
    (c : α) (reason' : Reason α) : price s (closes ++ [c]) ≠ .ok (some side, reason') := by
  intro again
  obtain ⟨t, a, a', given, last, passed⟩ := price_opens h
  obtain ⟨t', x, x', given', last', passed'⟩ := price_opens again
  cases given.symm.trans given'
  obtain rfl : x = a' :=
    lastTwo?_next last (List.prefix_append closes [c]) List.length_append last'
  rw [passes_once ordered passed] at passed'
  cases passed'

theorem strength_once (ordered : Orders α) (h : strength s closes = .ok (some side, reason))
    (c : α) (reason' : Reason α) : strength s (closes ++ [c]) ≠ .ok (some side, reason') := by
  intro again
  obtain ⟨series, a, a', run, last, passed⟩ := strength_opens h
  obtain ⟨series', x, x', run', last', passed'⟩ := strength_opens again
  obtain ⟨longer, goesOn, starts, length⟩ := Indicator.rsi_append run [c]
  cases goesOn.symm.trans run'
  cases lastTwo?_next last starts length last'
  rw [passes_once ordered passed] at passed'
  cases passed'

end Rules

/-- Whether a strategy opens a side on a history, where nothing decides custom rules. -/
def Fires (side : Side) (s : Strategy α) (candles : List (Candle α)) : Prop :=
  ∃ signal, evaluate none s candles = .ok signal ∧ signal.side = some side

theorem build_side (decision : Decision) (price : α) (s : Strategy α) (reason : Reason α)
    (candleTime : Json) : (Signal.build decision price s reason candleTime).side = decision := by
  cases decision with
  | none => rfl
  | some side => cases side <;> rfl

theorem Fires.verdict {side : Side} {s : Strategy α} {candles : List (Candle α)}
    (h : Fires side s candles) :
    ∃ reason, Rule.verdict none s candles = .ok (some side, reason) := by
  obtain ⟨signal, run, opened⟩ := h
  rw [evaluate] at run
  split at run
  · cases run
  · obtain ⟨⟨decision, reason⟩, decided, rfl⟩ := map_ok.mp run
    rw [build_side] at opened
    cases opened
    exact ⟨reason, decided⟩

theorem verdict_once (ordered : Orders α) {side : Side} {s : Strategy α}
    {candles : List (Candle α)} {reason : Reason α}
    (h : verdict none s candles = .ok (some side, reason)) (candle : Candle α)
    (reason' : Reason α) : verdict none s (candles ++ [candle]) ≠ .ok (some side, reason') := by
  simp only [verdict, List.map_append, List.map_cons, List.map_nil] at h ⊢
  cases entry : s.entry with
  | rsi =>
    rw [entry] at h
    exact strength_once ordered h _ _
  | priceAbove | priceBelow =>
    rw [entry] at h
    exact price_once ordered h _ _
  | crossover | crossunder =>
    rw [entry] at h
    exact averages_once ordered h _ _
  | custom =>
    rw [entry] at h
    simp only [custom] at h
    split at h <;> cases h

/-- **A crossing fires on one candle only.** On a history and on the same history with its next
candle a strategy does not open the same side, whatever the strategy and the candles are, in any
arithmetic whose comparisons order the numbers. -/
theorem fires_once (ordered : Orders α) (side : Side) (s : Strategy α) {history : List (Candle α)}
    {n : Nat} (known : n < history.length) :
    ¬(Fires side s (history.take n) ∧ Fires side s (history.take (n + 1))) := by
  rintro ⟨first, second⟩
  obtain ⟨reason, decided⟩ := first.verdict
  obtain ⟨reason', again⟩ := second.verdict
  rw [← List.take_append_getElem known] at again
  exact verdict_once ordered decided _ _ again

/-- Three candles of which the second closes above two. -/
def sampleHistory (α : Type) [Arithmetic α] : List (Candle α) :=
  [1, 3, 4].map fun close =>
    ⟨0, ofNat close, ofNat close, ofNat close, ofNat close, ofNat 1, 1⟩

/-- In exact arithmetic and in binary64, a threshold that is passed on the second candle. -/
theorem sample_fires_once :
    ∃ s, Script.parse "entryType = price_above threshold = 2" = .ok s ∧
      Fires .buy (s.map Binary64.value) ((sampleHistory Rat).take 2) ∧
      ¬Fires .buy (s.map Binary64.value) ((sampleHistory Rat).take 3) ∧
      Fires .buy (s.map Real64.finite) ((sampleHistory Real64).take 2) ∧
      ¬Fires .buy (s.map Real64.finite) ((sampleHistory Real64).take 3) := by
  have fires {β : Type} [Arithmetic β] {s : Strategy β} {candles : List (Candle β)}
      (h : (evaluate none s candles).toOption.map (·.side) = some (some .buy)) :
      Fires .buy s candles := by
    cases run : evaluate none s candles with
    | error e =>
      rw [run] at h
      cases h
    | ok signal =>
      rw [run] at h
      exact ⟨signal, run, Option.some.inj h⟩
  obtain ⟨s, compiled⟩ : ∃ s, Script.parse "entryType = price_above threshold = 2" = .ok s :=
    exists_of_isOk (by decide +kernel)
  have opened : (Script.parse "entryType = price_above threshold = 2").toOption.all (fun s =>
      ((evaluate none (s.map Binary64.value) ((sampleHistory Rat).take 2)).toOption.map (·.side) =
        some (some .buy)) ∧
      ((evaluate none (s.map Real64.finite) ((sampleHistory Real64).take 2)).toOption.map
        (·.side) = some (some .buy))) = true := by
    decide +kernel
  rw [compiled] at opened
  obtain ⟨exact, rounded⟩ := of_decide_eq_true opened
  refine ⟨s, compiled, fires exact, fun again => ?_, fires rounded, fun again => ?_⟩
  · exact fires_once orders_rat .buy _ (n := 2) (by decide) ⟨fires exact, again⟩
  · exact fires_once orders_real64 .buy _ (n := 2) (by decide) ⟨fires rounded, again⟩

end Rule
end SignalDesk
