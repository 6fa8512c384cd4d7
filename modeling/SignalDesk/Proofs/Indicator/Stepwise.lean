import SignalDesk.Proofs.Indicator.Lengths
import SignalDesk.Proofs.Strategy.Compiled
import SignalDesk.Signal.Rule

/-!
# Indicators step by step

The indicators place by place: a series starts with a NaN for each close and is written as the loop
goes on. Every access by place is checked, every division, and every integer that becomes a number.
For a period of a compiled script no check fails, and the series is the one of the averages over
lists (`sma_eq`, `ema_eq`, `rsi_eq`).
-/

namespace SignalDesk.Stepwise

/-- Why an evaluation that checks its steps has no result. -/
inductive Fault
  | rule (e : RuleError)
  | outOfRange
  | divisionByZero
  | tooLarge
deriving DecidableEq, Repr

abbrev Checked (β : Type) := Except Fault β

/-- The entry at a place; a place below zero counts from the end. -/
def entryAt {β : Type} (xs : List β) (place : Int) : Checked β :=
  let place := if place < 0 then place + xs.length else place
  match if place < 0 then none else xs[place.toNat]? with
  | some x => .ok x
  | none => .error .outOfRange

/-- Writes the entry at a place. -/
def putAt {β : Type} (xs : List β) (place : Nat) (x : β) : Checked (List β) :=
  if place < xs.length then .ok (xs.set place x) else .error .outOfRange

def divide (x y : Real64) : Checked Real64 :=
  if Arithmetic.isZero y then .error .divisionByZero else .ok (x / y)

/-- An integer as a number. -/
def number (n : Nat) : Checked Real64 :=
  match Real64.ofInt n with
  | .finite x => .ok (.finite x)
  | _ => .error .tooLarge

def requireHistory (closes : List Real64) (period : Int) (name : String) : Checked Nat :=
  (Indicator.requireHistory closes period name).mapError fun e => .rule (.history e)

/-- The series before anything is written. -/
def blank (closes : List Real64) : List Real64 := List.replicate closes.length .nan

section Loops

open Arithmetic Indicator

variable (closes : List Real64) (period : Nat)

/-- The window takes in the close at a place and gives up the one a period before. -/
def smaStep (state : Real64 × List Real64) (place : Nat) : Checked (Real64 × List Real64) := do
  let new ← entryAt closes place
  let old ← entryAt closes ((place : Int) - period)
  let sum := state.1 + (new - old)
  let series ← putAt state.2 place (← divide sum (← number period))
  return (sum, series)

def sma (period : Int) : Checked (List Real64) := do
  let period ← requireHistory closes period "SMA"
  let sum := sum (closes.take period)
  let series ← putAt (blank closes) (period - 1) (← divide sum (← number period))
  let (_, series) ← (List.range' period (closes.length - period)).foldlM (smaStep closes period)
    (sum, series)
  return series

/-- The average moves from the one before toward the close at a place. -/
def emaStep (k : Real64) (series : List Real64) (place : Nat) : Checked (List Real64) := do
  let close ← entryAt closes place
  let last ← entryAt series ((place : Int) - 1)
  putAt series place (close * k + last * (ofNat 1 - k))

def ema (period : Int) : Checked (List Real64) := do
  let period ← requireHistory closes period "EMA"
  let k ← divide (ofNat 2) (← number (period + 1))
  let series ← putAt (blank closes) (period - 1)
    (← divide (sum (closes.take period)) (← number period))
  (List.range' period (closes.length - period)).foldlM (emaStep closes k) series

/-- What the close at a place adds to the one before it. -/
def deltaAt (place : Nat) : Checked Real64 := do
  return (← entryAt closes place) - (← entryAt closes ((place : Int) - 1))

def rsiOf (avgGain avgLoss : Real64) : Checked Real64 :=
  if isZero avgLoss then .ok (ofNat 100)
  else do
    let rs ← divide avgGain avgLoss
    return ofNat 100 - (← divide (ofNat 100) (ofNat 1 + rs))

/-- Where a loop over the deltas stands. -/
structure RsiState where
  avgGain : Real64
  avgLoss : Real64
  series : List Real64

/-- The averages take in the gain and the loss at a place; the index belongs one place further on,
as the first close has no delta. -/
def rsiStep (gains losses : List Real64) (state : RsiState) (place : Nat) : Checked RsiState := do
  let rest ← number (period - 1)
  let avgGain ← divide (state.avgGain * rest + (← entryAt gains place)) (← number period)
  let avgLoss ← divide (state.avgLoss * rest + (← entryAt losses place)) (← number period)
  return ⟨avgGain, avgLoss, ← putAt state.series (place + 1) (← rsiOf avgGain avgLoss)⟩

def rsi (period : Int) : Checked (List Real64) := do
  let period ← requireHistory closes period "RSI"
  let deltas ← (List.range' 1 (closes.length - 1)).mapM (deltaAt closes)
  let gains := deltas.map gain
  let losses := deltas.map loss
  let avgGain ← divide (sum (gains.take period)) (← number period)
  let avgLoss ← divide (sum (losses.take period)) (← number period)
  let series ← putAt (blank closes) period (← rsiOf avgGain avgLoss)
  let state ← (List.range' period (deltas.length - period)).foldlM (rsiStep period gains losses)
    ⟨avgGain, avgLoss, series⟩
  return state.series

def movingAverage (average : Average) (period : Int) : Checked (List Real64) :=
  match average with
  | .sma => sma closes period
  | .ema => ema closes period

end Loops

section Steps

variable {β : Type}

theorem entryAt_eq {xs : List β} {x : β} {place : Nat} (h : xs[place]? = some x) :
    entryAt xs place = .ok x := by
  have positive : ¬(place : Int) < 0 := by omega
  simp only [entryAt, if_neg positive, Int.toNat_natCast, h]

theorem entryAt_of_drop {xs rest : List β} {x : β} {place : Nat}
    (h : xs.drop place = x :: rest) : entryAt xs place = .ok x := by
  refine entryAt_eq ?_
  rw [← List.head?_drop, h, List.head?_cons]

theorem putAt_append (done rest : List β) (old x : β) :
    putAt (done ++ old :: rest) done.length x = .ok (done ++ x :: rest) := by
  have within : done.length < (done ++ old :: rest).length := by simp
  rw [putAt, if_pos within, List.set_append_right _ _ (Nat.le_refl _), Nat.sub_self,
    List.set_cons_zero]

theorem isZero_eq (x : Real64) : Arithmetic.isZero x = x.same .zero := rfl

theorem divide_eq {x y : Real64} (h : Arithmetic.isZero y = false) : divide x y = .ok (x / y) := by
  rw [divide, h]
  rfl

theorem number_eq {n : Nat} (h : n ≤ Real64.maxWhole + 1) :
    number n = .ok (Arithmetic.ofNat n) := by
  obtain ⟨x, finite⟩ := Real64.ofInt_isFinite (n := n) h
  simp only [number, finite]
  rw [← finite]
  rfl

theorem ofNat_apart {n : Nat} (h : 0 < n) :
    Arithmetic.isZero (Arithmetic.ofNat n : Real64) = false := by
  rw [isZero_eq]
  exact Real64.same_zero_of_hasSign (Real64.ofInt_hasSign h)

end Steps

section Runs

open Arithmetic Indicator

variable {closes : List Real64} {period : Nat}

/-- From some place on, the loop of the simple average writes the sums of the window. -/
theorem smaLoop_eq (closes : List Real64) (positive : 0 < period) (small : period ≤ Real64.maxWhole + 1)
    (new : List Real64) : ∀ (old done : List Real64) (sum : Real64), period ≤ done.length →
      closes.drop done.length = new → closes.drop (done.length - period) = old →
      ∃ last, (List.range' done.length new.length).foldlM (smaStep closes period)
          (sum, done ++ List.replicate new.length .nan) =
        .ok (last, done ++ (slide sum new old).map (· / ofNat period)) := by
  induction new with
  | nil =>
    intro old done sum _ _ _
    exact ⟨sum, rfl⟩
  | cons c new ih =>
    intro old done sum far here back
    cases old with
    | nil =>
      have short := congrArg List.length here
      have beyond := congrArg List.length back
      simp only [List.length_drop, List.length_cons, List.length_nil] at short beyond
      omega
    | cons o old =>
      have step : smaStep closes period (sum, done ++ List.replicate (new.length + 1) .nan)
          done.length = .ok (sum + (c - o),
            (done ++ [(sum + (c - o)) / ofNat period]) ++ List.replicate new.length .nan) := by
        have place : ((done.length : Int) - period) = ((done.length - period : Nat) : Int) := by
          omega
        simp only [smaStep, entryAt_of_drop here, place, entryAt_of_drop back, ok_bind,
          number_eq small, divide_eq (ofNat_apart positive), List.replicate_succ, putAt_append,
          List.append_assoc, List.singleton_append]
        rfl
      have next : done.length + 1 - period = done.length - period + 1 := by omega
      obtain ⟨last, run⟩ := ih old (done ++ [(sum + (c - o)) / ofNat period]) (sum + (c - o))
        (by simp; omega) (by simp [drop_succ_of_cons here])
        (by simp [next, drop_succ_of_cons back])
      refine ⟨last, ?_⟩
      rw [List.length_cons, List.range'_succ, List.foldlM_cons, step, ok_bind]
      rw [List.length_append] at run
      simpa [slide] using run

/-- From some place on, the loop of the exponential average writes what the averages move to. -/
theorem emaLoop_eq (closes : List Real64) (k : Real64) (rest : List Real64) : ∀ (done : List Real64) (last : Real64),
    closes.drop (done.length + 1) = rest →
      (List.range' (done.length + 1) rest.length).foldlM (emaStep closes k)
          (done ++ last :: List.replicate rest.length .nan) =
        .ok (done ++ last :: smooth k last rest) := by
  induction rest with
  | nil => exact fun _ _ _ => rfl
  | cons c rest ih =>
    intro done last here
    have before : entryAt (done ++ last :: List.replicate (rest.length + 1) .nan)
        (((done.length + 1 : Nat) : Int) - 1) = .ok last := by
      rw [show (((done.length + 1 : Nat) : Int) - 1) = (done.length : Nat) by omega]
      exact entryAt_eq (by simp)
    have written : putAt (done ++ last :: List.replicate (rest.length + 1) .nan) (done.length + 1)
        (c * k + last * (ofNat 1 - k)) =
          .ok ((done ++ [last]) ++ (c * k + last * (ofNat 1 - k)) :: List.replicate rest.length .nan) := by
      have put := putAt_append (done ++ [last]) (List.replicate rest.length .nan) .nan
        (c * k + last * (ofNat 1 - k))
      rw [List.length_append] at put
      simpa [List.replicate_succ] using put
    have run := ih (done ++ [last]) (c * k + last * (ofNat 1 - k))
      (by simpa using drop_succ_of_cons here)
    rw [List.length_cons, List.range'_succ, List.foldlM_cons, emaStep, entryAt_of_drop here, ok_bind,
      before, ok_bind, written, ok_bind]
    rw [List.length_append] at run
    simpa [smooth] using run

/-- A series over lists as the loops write it. -/
def filled (series : Series Real64) : List Real64 := series.map (·.getD .nan)

/-- A fault of an indicator that the evaluation passes on. -/
def ofHistory (e : HistoryError) : Fault := .rule (.history e)

/-- The first entry that is written. -/
theorem putAt_blank (closes : List Real64) {n : Nat} (within : n < closes.length) (x : Real64) :
    putAt (blank closes) n x =
      .ok (List.replicate n .nan ++ x :: List.replicate (closes.length - (n + 1)) .nan) := by
  have parts : blank closes =
      List.replicate n .nan ++ .nan :: List.replicate (closes.length - (n + 1)) .nan := by
    rw [← List.replicate_succ, List.replicate_append_replicate, blank]
    congr 1
    omega
  have put := putAt_append (List.replicate n Real64.nan)
    (List.replicate (closes.length - (n + 1)) .nan) .nan x
  rw [List.length_replicate] at put
  rw [parts, put]

theorem filled_eq (n : Nat) (f : Real64 → Real64) (values : List Real64) :
    filled (List.replicate n none ++ values.map fun x => some (f x)) =
      List.replicate n .nan ++ values.map f := by
  simp [filled, Function.comp_def]

theorem filled_some (n : Nat) (values : List Real64) :
    filled (List.replicate n none ++ values.map some) = List.replicate n .nan ++ values := by
  simp [filled, Function.comp_def]

theorem sma_eq {p : Int} (small : p.natAbs ≤ Real64.maxWhole) :
    sma closes p = ((Indicator.sma closes p).map filled).mapError ofHistory := by
  simp only [sma, requireHistory, Indicator.sma]
  cases enough : Indicator.requireHistory closes p "SMA" with
  | error e => rfl
  | ok n =>
    obtain ⟨count, positive, within⟩ := requireHistory_ok enough
    have fits : n ≤ Real64.maxWhole + 1 := by omega
    have place : n - 1 + 1 = n := Nat.sub_add_cancel positive
    have start := putAt_blank closes (n := n - 1) (by omega)
      (sum (closes.take n) / ofNat n)
    obtain ⟨last, run⟩ := smaLoop_eq closes positive fits (closes.drop n) closes
      (List.replicate (n - 1) .nan ++ [sum (closes.take n) / ofNat n]) (sum (closes.take n))
      (by simp [place]) (by simp [place]) (by simp [place])
    simp only [List.length_append, List.length_replicate, List.length_singleton, place,
      List.length_drop, List.append_assoc, List.singleton_append] at start run
    simp only [ok_mapError, Except.map, ok_bind, number_eq fits, divide_eq (ofNat_apart positive),
      start, run, smaSeries, pure_ok]
    rw [filled_eq, List.map_cons]

theorem ofNat_two_div {α : Type} [Arithmetic α] (n : Nat) :
    (ofNat 2 / ofNat (n + 1) : α) = emaWeight n := rfl

theorem ema_eq {p : Int} (small : p.natAbs ≤ Real64.maxWhole) :
    ema closes p = ((Indicator.ema closes p).map filled).mapError ofHistory := by
  simp only [ema, requireHistory, Indicator.ema]
  cases enough : Indicator.requireHistory closes p "EMA" with
  | error e => rfl
  | ok n =>
    obtain ⟨count, positive, within⟩ := requireHistory_ok enough
    have fits : n ≤ Real64.maxWhole + 1 := by omega
    have next : 0 < n + 1 ∧ n + 1 ≤ Real64.maxWhole + 1 := by omega
    have place : n - 1 + 1 = n := Nat.sub_add_cancel positive
    have start := putAt_blank closes (n := n - 1) (by omega)
      (sum (closes.take n) / ofNat n)
    have run := emaLoop_eq closes (emaWeight n) (closes.drop n)
      (List.replicate (n - 1) .nan) (sum (closes.take n) / ofNat n) (by simp [place])
    simp only [List.length_replicate, place, List.length_drop] at start run
    simp only [ok_mapError, Except.map, ok_bind, number_eq fits, number_eq next.2,
      divide_eq (ofNat_apart positive), divide_eq (ofNat_apart next.1), start, emaSeries]
    rw [ofNat_two_div, run, filled_some]

theorem mapM_deltaAt (rest : List Real64) : ∀ (a : Real64) (place : Nat),
    closes.drop place = a :: rest →
      (List.range' (place + 1) rest.length).mapM (deltaAt closes) = .ok (deltas (a :: rest)) := by
  induction rest with
  | nil => exact fun _ _ _ => rfl
  | cons b rest ih =>
    intro a place here
    have next := drop_succ_of_cons here
    have before : ((place + 1 : Nat) : Int) - 1 = (place : Nat) := by omega
    rw [List.length_cons, List.range'_succ, List.mapM_cons, ih b (place + 1) next, deltaAt, before,
      entryAt_of_drop here, entryAt_of_drop next]
    rfl

/-- A mean over a period of numbers not below zero is not below zero. -/
theorem mean_notBelow {x : Real64} {n : Nat} (positive : 0 < n) (h : x.NotBelow) :
    (x / ofNat n).NotBelow :=
  Real64.div_notBelow h (Real64.ofInt_hasSign positive)

theorem gain_notBelow (d : Real64) : (gain d).NotBelow := by
  simp only [gain]
  split
  · exact Real64.ofNat_notBelow 0
  · rename_i above
    exact Bool.eq_false_iff.mpr above

theorem loss_notBelow (d : Real64) : (loss d).NotBelow := Real64.abs_notBelow

theorem sum_notBelow {xs : List Real64} (h : ∀ x ∈ xs, x.NotBelow) : (sum xs).NotBelow :=
  List.foldlRecOn xs (· + ·) (Real64.ofNat_notBelow 0) fun _ partly x member =>
    Real64.add_notBelow partly (h x member)

theorem rsiOf_eq {avgGain avgLoss : Real64} (gains : avgGain.NotBelow) (losses : avgLoss.NotBelow) :
    rsiOf avgGain avgLoss = .ok (Indicator.rsiOf avgGain avgLoss) := by
  simp only [rsiOf, Indicator.rsiOf]
  split
  · rfl
  · rename_i apart
    have some : isZero avgLoss = false := Bool.eq_false_iff.mpr apart
    have ratio : (avgGain / avgLoss).NotBelow := by
      rcases losses.nan_or_hasSign some with rfl | sign
      · cases avgGain <;> rfl
      · exact Real64.div_notBelow gains sign
    have below : isZero (ofNat 1 + avgGain / avgLoss) = false :=
      Real64.one_add_same_zero ratio (Real64.div_isStored ..)
    rw [divide_eq some, ok_bind, divide_eq below, ok_bind]
    rfl

/-- From some place on, the loop of the index writes what the averages give. -/
theorem rsiLoop_eq {ds : List Real64} (positive : 0 < period)
    (small : period ≤ Real64.maxWhole + 1) (rest : List Real64) :
    ∀ (place : Nat) (done : List Real64) (avgGain avgLoss : Real64), ds.drop place = rest →
      done.length = place + 1 → avgGain.NotBelow → avgLoss.NotBelow →
      ∃ state, (List.range' place rest.length).foldlM
          (rsiStep period (ds.map gain) (ds.map loss))
          ⟨avgGain, avgLoss, done ++ List.replicate rest.length .nan⟩ = .ok state ∧
        state.series = done ++ rsiFrom period avgGain avgLoss rest := by
  induction rest with
  | nil => exact fun _ _ _ _ _ _ _ _ => ⟨_, rfl, rfl⟩
  | cons d rest ih =>
    intro place done avgGain avgLoss here length gains losses
    let nextGain := (avgGain * ofNat (period - 1) + gain d) / ofNat period
    let nextLoss := (avgLoss * ofNat (period - 1) + loss d) / ofNat period
    have rest_fits : period - 1 ≤ Real64.maxWhole + 1 := by omega
    have gains' : nextGain.NotBelow := mean_notBelow positive
      (Real64.add_notBelow (Real64.mul_notBelow gains (Real64.ofNat_notBelow _)) (gain_notBelow d))
    have losses' : nextLoss.NotBelow := mean_notBelow positive
      (Real64.add_notBelow (Real64.mul_notBelow losses (Real64.ofNat_notBelow _)) (loss_notBelow d))
    have gainAt : entryAt (ds.map gain) place = .ok (gain d) :=
      entryAt_of_drop (by rw [← List.map_drop, here, List.map_cons])
    have lossAt : entryAt (ds.map loss) place = .ok (loss d) :=
      entryAt_of_drop (by rw [← List.map_drop, here, List.map_cons])
    have step : rsiStep period (ds.map gain) (ds.map loss)
        ⟨avgGain, avgLoss, done ++ List.replicate (rest.length + 1) .nan⟩ place =
          .ok ⟨nextGain, nextLoss, (done ++ [Indicator.rsiOf nextGain nextLoss]) ++
            List.replicate rest.length .nan⟩ := by
      simp only [rsiStep, number_eq rest_fits, gainAt, lossAt, number_eq small, ok_bind,
        divide_eq (ofNat_apart positive), ← length, List.replicate_succ]
      rw [rsiOf_eq gains' losses', ok_bind, putAt_append, ok_bind, List.append_assoc]
      rfl
    obtain ⟨state, run, series⟩ := ih (place + 1) (done ++ [Indicator.rsiOf nextGain nextLoss])
      nextGain nextLoss (drop_succ_of_cons here) (by simp [length]) gains' losses'
    refine ⟨state, ?_, ?_⟩
    · rw [List.length_cons, List.range'_succ, List.foldlM_cons, step, ok_bind, run]
    · rw [series, rsiFrom, List.append_assoc]
      rfl

theorem rsi_eq {p : Int} (small : p.natAbs ≤ Real64.maxWhole) :
    rsi closes p = ((Indicator.rsi closes p).map filled).mapError ofHistory := by
  simp only [rsi, requireHistory, Indicator.rsi]
  cases enough : Indicator.requireHistory closes p "RSI" with
  | error e => rfl
  | ok n =>
    obtain ⟨count, positive, within⟩ := requireHistory_ok enough
    have fits : n ≤ Real64.maxWhole + 1 := by omega
    have all : (List.range' 1 (closes.length - 1)).mapM (deltaAt closes) = .ok (deltas closes) := by
      cases closes with
      | nil => exact absurd within (Nat.not_lt_zero _)
      | cons a rest => exact mapM_deltaAt rest a 0 rfl
    let avgGain := sum ((deltas closes).take n |>.map gain) / ofNat n
    let avgLoss := sum ((deltas closes).take n |>.map loss) / ofNat n
    have gains : avgGain.NotBelow := mean_notBelow positive
      (sum_notBelow (List.forall_mem_map.mpr fun d _ => gain_notBelow d))
    have losses : avgLoss.NotBelow := mean_notBelow positive
      (sum_notBelow (List.forall_mem_map.mpr fun d _ => loss_notBelow d))
    have start := putAt_blank closes within (Indicator.rsiOf avgGain avgLoss)
    obtain ⟨state, run, series⟩ := rsiLoop_eq positive fits ((deltas closes).drop n) n
      (List.replicate n .nan ++ [Indicator.rsiOf avgGain avgLoss]) avgGain avgLoss rfl (by simp)
      gains losses
    have left : (deltas closes).length - n = closes.length - (n + 1) := by
      rw [deltas_length]
      omega
    simp only [List.length_drop, left, List.append_assoc, List.singleton_append] at run series
    simp only [ok_mapError, Except.map, ok_bind, all, ← List.map_take, number_eq fits,
      divide_eq (ofNat_apart positive), left]
    rw [rsiOf_eq gains losses, ok_bind, start, ok_bind, run, ok_bind, pure_ok.mpr series, rsiSeries,
      filled_some]

theorem movingAverage_eq {average : Average} {p : Int} (small : p.natAbs ≤ Real64.maxWhole) :
    movingAverage closes average p =
      ((Indicator.movingAverage average closes p).map filled).mapError ofHistory := by
  cases average with
  | sma => exact sma_eq small
  | ema => exact ema_eq small

end Runs

end SignalDesk.Stepwise
