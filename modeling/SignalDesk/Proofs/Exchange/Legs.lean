import SignalDesk.Proofs.Exchange.Quantity
import SignalDesk.Proofs.Number.Nearest
import SignalDesk.Proofs.Results
import SignalDesk.Proofs.Run.Parts

/-!
# The leg of a stop

What the leg that stops a loss says (`Exchange.stop_leg_limited`): it is on the side that closes the
position, and its limit is not above its stop. That is right where the leg sells. Where it buys, the
limit is below the stop all the same, and the leg cannot be filled at the price that triggers it
(`Exchange.sample_stop_missed`).
-/

namespace SignalDesk

/-- Whether a numeral is not above another one. -/
def Numeral.AtMost (s t : String) : Prop :=
  s = t ∨ ∃ m n, Denotes s m ∧ Denotes t n ∧ m ≤ n

namespace Real64

/-- A number is not further than half of the last place from what is written for it. -/
theorem inPlaces_near (places : Nat) (x : Binary64) :
    |(inPlaces places x : Rat) - x.magnitude * 10 ^ places| ≤ 1 / 2 := by
  have near := roundEven_near (x.quotient.1 * 10 ^ places) (Binary64.quotient_pos x)
  push_cast at near
  rwa [mul_div_right_comm, ← Binary64.magnitude_eq_quotient] at near

theorem inPlaces_le {places : Nat} {x y : Binary64} (h : x.magnitude < y.magnitude) :
    inPlaces places x ≤ inPlaces places y := by
  have units : x.magnitude * 10 ^ places < y.magnitude * 10 ^ places :=
    mul_lt_mul_of_pos_right h (by positivity)
  have lower := (abs_le.mp (inPlaces_near places x)).2
  have upper := (abs_le.mp (inPlaces_near places y)).1
  have next : (inPlaces places x : Rat) < inPlaces places y + 1 := by linarith
  exact Nat.le_of_lt_succ (by exact_mod_cast next)

/-- Numbers that are more than one unit apart are written as different ones. -/
theorem inPlaces_lt {places : Nat} {x y : Binary64}
    (h : x.magnitude * 10 ^ places + 1 < y.magnitude * 10 ^ places) :
    inPlaces places x < inPlaces places y := by
  have lower := (abs_le.mp (inPlaces_near places x)).2
  have upper := (abs_le.mp (inPlaces_near places y)).1
  have apart : (inPlaces places x : Rat) < inPlaces places y := by linarith
  exact_mod_cast apart

section Written

variable {places : Nat} {x y : Binary64} (hx : x.negative = false) (hy : y.negative = false)

include hx hy

/-- Numbers that are not below zero are written alike just where they are alike in places. -/
theorem fixedText_eq_iff :
    (finite x).fixedText places = (finite y).fixedText places ↔
      inPlaces places x = inPlaces places y := by
  constructor
  · intro same
    have first := fixedText_denotes places x
    have second := fixedText_denotes places y
    rw [same] at first
    have value := first.unique second
    simp only [Decimal.value, hx, hy, Bool.false_eq_true, if_false] at value
    have unit : (10 : Rat) ^ (-(places : Int)) ≠ 0 := by positivity
    exact_mod_cast mul_right_cancel₀ unit value
  · intro same
    simp only [fixedText, hx, hy, same]

/-- What is written for them is in the order of the places. -/
theorem fixedText_atMost_iff :
    Numeral.AtMost ((finite x).fixedText places) ((finite y).fixedText places) ↔
      inPlaces places x ≤ inPlaces places y := by
  have first := fixedText_denotes places x
  have second := fixedText_denotes places y
  simp only [Decimal.value, hx, hy, Bool.false_eq_true, if_false] at first second
  have unit : (0 : Rat) < 10 ^ (-(places : Int)) := by positivity
  have ordered : (inPlaces places x : Rat) * 10 ^ (-(places : Int)) ≤
      inPlaces places y * 10 ^ (-(places : Int)) ↔ inPlaces places x ≤ inPlaces places y := by
    rw [mul_le_mul_iff_left₀ unit, Nat.cast_le]
  constructor
  · rintro (same | ⟨m, n, lower, upper, le⟩)
    · exact Nat.le_of_eq ((fixedText_eq_iff hx hy).mp same)
    · rw [lower.unique first, upper.unique second] at le
      exact ordered.mp le
  · intro le
    exact .inr ⟨_, _, first, second, ordered.mpr le⟩

end Written

theorem halfSmallest_le : halfSmallest ≤ 1 / 10 ^ 6 := by
  have small : halfSmallest ≤ 2 ^ (-20 : Int) := zpow_le_zpow_right₀ one_le_two (by decide)
  exact small.trans (by norm_num)

end Real64

namespace Order

open Real64 (inPlaces)

theorem stopFactor_finite :
    ∃ f, stopFactor = .finite f ∧ f.negative = false ∧ 0 < f.significand ∧
      f.magnitude ≤ 995 / 1000 := by
  have rounded : stopFactor = .finite ⟨false, 8962163258467287, -53⟩ := by decide +kernel
  refine ⟨_, rounded, rfl, by decide, ?_⟩
  norm_num [Binary64.magnitude]

/-- The limit of a stop above zero is about five thousandths below it. -/
theorem limit_finite {x : Binary64} (format : (Real64.finite x).Fits)
    (positive : x.negative = false) :
    ∃ y, (Real64.finite x).mul stopFactor = .finite y ∧ y.negative = false ∧
      y.magnitude ≤ 995001 / 10 ^ 6 * x.magnitude + 1 / 10 ^ 6 := by
  obtain ⟨f, factor, sign, -, below⟩ := stopFactor_finite
  have nonneg := x.magnitude_nonneg
  have less : x.magnitude * f.magnitude ≤ x.magnitude * (995 / 1000) :=
    mul_le_mul_of_nonneg_left below nonneg
  have range := Real64.magnitude_le format
  obtain ⟨y, limit⟩ := Real64.mul_isFinite (x := x) (y := f) (by linarith)
  obtain ⟨signed, near⟩ := Real64.mul_near limit
  refine ⟨y, by rw [factor, limit], by rw [signed, positive, sign]; rfl, ?_⟩
  have smallest := Real64.halfSmallest_le
  have error := (abs_le.mp near).2
  linarith

/-- A stop and its limit in places: the limit is not above the stop, and from two on it is below. -/
theorem limit_places {x y : Binary64}
    (below : y.magnitude ≤ 995001 / 10 ^ 6 * x.magnitude + 1 / 10 ^ 6) :
    inPlaces 2 y ≤ inPlaces 2 x ∧ (201 / 100 ≤ x.magnitude → inPlaces 2 y < inPlaces 2 x) := by
  constructor
  · by_cases small : y.magnitude ≤ 1 / (2 * 10 ^ 2)
    · have none : inPlaces 2 y = 0 := by
        have nothing := mt (Real64.inPlaces_pos_iff 2 y).mp (not_lt.mpr small)
        omega
      rw [none]
      exact Nat.zero_le _
    · apply Real64.inPlaces_le
      rw [not_le] at small
      linarith
  · intro large
    apply Real64.inPlaces_lt
    linarith

/-- How the texts of a stop above zero and of its limit compare. -/
theorem limit_compares {price : Real64} (format : price.Fits)
    (positive : Real64.zero.lt price = true) :
    let stop := price.fixedText 2
    let limit := (price.mul stopFactor).fixedText 2
    Numeral.AtMost limit stop ∧ (Numeral.AtMost stop limit ↔ limit = stop) ∧
      ∀ x, price = .finite x → 201 / 100 ≤ x.value → limit ≠ stop := by
  intro stop limit
  cases price with
  | nan => cases positive
  | infinite b =>
    obtain rfl : b = false := by simpa [Real64.lt, Real64.zero] using positive
    obtain ⟨f, factor, sign, apart, -⟩ := stopFactor_finite
    have same : limit = stop := by
      simp only [limit, stop, factor, Real64.mul, Nat.ne_of_gt apart, if_false, sign]
      rfl
    rw [same]
    refine ⟨.inl rfl, iff_of_true (.inl rfl) rfl, ?_⟩
    rintro x ⟨⟩
  | finite x =>
    have sign : x.negative = false := by
      simp only [Real64.lt, Real64.zero, Binary64.over_zero, decide_eq_true_eq] at positive
      exact (Binary64.over_pos_iff.mp positive).1
    obtain ⟨y, product, signed, below⟩ := limit_finite format sign
    obtain ⟨places, apart⟩ := limit_places below
    have limited : limit = (Real64.finite y).fixedText 2 := congrArg (·.fixedText 2) product
    rw [limited]
    have alike : (Real64.finite y).fixedText 2 = (Real64.finite x).fixedText 2 ↔
        Real64.inPlaces 2 y = Real64.inPlaces 2 x := Real64.fixedText_eq_iff signed sign
    refine ⟨(Real64.fixedText_atMost_iff signed sign).mpr places, ?_, ?_⟩
    · rw [alike]
      exact (Real64.fixedText_atMost_iff sign signed).trans
        ⟨fun le => Nat.le_antisymm places le, fun same => Nat.le_of_eq same.symm⟩
    · intro z same large
      cases same
      have magnitude : x.value = x.magnitude := by simp [Binary64.value, sign]
      rw [magnitude] at large
      exact mt alike.mp (Nat.ne_of_lt (apart large))

end Order

namespace Exchange

variable {σ ν : Type} (x : Exchange) (clock : σ → Int)

/-- The requests for legs are those of the legs in turn, each with a time of its own. -/
theorem placeLegs_requests (around : Surroundings σ ν) (legs : List (String × Params))
    (w : σ × ν) :
    List.Forall₂ (fun leg q => ∃ time, q = x.request leg.2 time) legs
      ((x.placeLegs clock legs).requests around w) := by
  induction legs generalizing w with
  | nil => exact .nil
  | cons leg legs ih =>
    obtain ⟨name, params⟩ := leg
    simp only [placeLegs, Program.map, Program.requests, Program.requests_bind, List.append_nil]
    exact .cons ⟨_, rfl⟩ (ih _)

end Exchange

/-- Whether a request places the leg of a stop. -/
def Request.IsStop (q : Request) : Prop := q.orderType? = some (.text "STOP_LOSS_LIMIT")

instance (q : Request) : Decidable q.IsStop := inferInstanceAs (Decidable (_ = _))

namespace Exchange

variable {σ ν : Type} (x : Exchange) (clock : σ → Int)

/-- An order with a stop has one leg for it. -/
theorem placeProtective_stop {o : Order} {price : Real64}
    (given : Order.level? o.stopLoss = some price) (around : Surroundings σ ν) (w : σ × ν) :
    ∃ time, ((x.placeProtective clock o).requests around w).filter (·.IsStop) =
      [x.request (o.leg "STOP_LOSS_LIMIT" price (price.mul Order.stopFactor)) time] := by
  have type (kind : String) (trigger limit : Real64) (time : Int) :
      (x.request (o.leg kind trigger limit) time).orderType? = some (.text kind) :=
    x.orderType?_request _ time
  have requests := x.placeLegs_requests clock around o.legs w
  simp only [Order.legs, given, Option.map_some, Option.toList_some, List.singleton_append]
    at requests
  obtain ⟨q, targets, ⟨time, rfl⟩, rest, sent⟩ := List.forall₂_cons_left_iff.mp requests
  have others : ∀ q ∈ targets, ¬q.IsStop := by
    intro q member
    obtain ⟨leg, listed, time, rfl⟩ := exists_of_forall₂ rest q member
    obtain ⟨target, -, rfl⟩ : ∃ target, Order.level? o.takeProfit = some target ∧
        ("take_profit", o.leg "TAKE_PROFIT_LIMIT" target (target.mul Order.targetFactor)) = leg := by
      simpa using listed
    rw [Request.IsStop, type]
    decide
  refine ⟨time, ?_⟩
  simp only [placeProtective, Order.legs, given, Option.map_some, Option.toList_some,
    List.singleton_append, sent]
  have stop : (x.request (o.leg "STOP_LOSS_LIMIT" price (price.mul Order.stopFactor)) time).IsStop :=
    type ..
  rw [List.filter_cons_of_pos (by simpa using stop),
    List.filter_eq_nil_iff.mpr (by simpa using others)]

/-- **The leg of a stop.** Every order with a stop above zero has one such leg. It is on the side
that closes the position, and its limit is not above its stop, as a leg that sells needs it. A leg
that buys would need it not to be below, which it is not just where both are written alike, and never
from about two on. -/
theorem stop_leg_limited {o : Order} {price : Real64} (given : o.stopLoss = some price)
    (positive : Real64.zero.lt price = true) (format : price.Fits) (around : Surroundings σ ν)
    (w : σ × ν) :
    ∃ q side stop limit,
      ((x.placeProtective clock o).requests around w).filter (·.IsStop) = [q] ∧
        q.method = .post ∧ q.params.lookup "side" = some (.text side) ∧
        q.params.lookup "stopPrice" = some (.text stop) ∧
        q.params.lookup "price" = some (.text limit) ∧
      (o.side = "BUY" → side = "SELL") ∧ (o.side = "SELL" → side = "BUY") ∧
      Numeral.AtMost limit stop ∧
      (Numeral.AtMost stop limit ↔ limit = stop) ∧
      ∀ y, price = .finite y → 201 / 100 ≤ y.value → limit ≠ stop := by
  have level : Order.level? o.stopLoss = some price := by
    have apart : price.isZero = false := by
      cases price with
      | finite y =>
        simp only [Real64.lt, Real64.zero, Binary64.over_zero, decide_eq_true_eq] at positive
        simpa [Real64.isZero] using Nat.ne_of_gt (Binary64.over_pos_iff.mp positive).2
      | _ => rfl
    rw [given, Order.level?, Option.filter_some, apart]
    rfl
  obtain ⟨time, sent⟩ := x.placeProtective_stop clock level around w
  have compared := Order.limit_compares format positive
  refine ⟨_, o.exitSide, _, _, sent, rfl, ?_, ?_, ?_, ?_, ?_, compared⟩
  · exact x.lookup_request (by decide) (by decide) ..
  · exact x.lookup_request (by decide) (by decide) ..
  · exact x.lookup_request (by decide) (by decide) ..
  · intro buys
    rw [Order.exitSide, if_pos buys]
  · intro sells
    rw [Order.exitSide, if_neg (by rw [sells]; decide)]

namespace LegSample

def exchange : Exchange := ⟨"https://exchange.test", .zero, ⟨"key", "secret"⟩⟩

/-- An order that sells at about one hundred, with a stop at one hundred and two. -/
def sells : Order := ⟨"BTCUSDT", "SELL", "0.100000", some (.ofInt 102), none⟩

/-- An order that buys, with the same stop. -/
def buys : Order := { sells with side := "BUY" }

/-- An exchange that does not answer. -/
def silent : Surroundings Int Unit where
  reply _ w := (.silence, w)
  second w := w

end LegSample

open LegSample in
theorem sample_stop_limited :
    Real64.zero.lt (.ofInt 102) = true ∧ (Real64.ofInt 102).Fits ∧
      ∃ q side stop limit,
        ((exchange.placeProtective id buys).requests silent (0, ())).filter (·.IsStop) = [q] ∧
          q.params.lookup "side" = some (.text side) ∧ side = "SELL" ∧
          q.params.lookup "stopPrice" = some (.text stop) ∧
          q.params.lookup "price" = some (.text limit) ∧ Numeral.AtMost limit stop := by
  have positive : Real64.zero.lt (.ofInt 102) = true := by decide +kernel
  have format : (Real64.ofInt 102).Fits := Real64.ofQuotient_fits _ Nat.one_pos
  obtain ⟨q, side, stop, limit, sent, -, sided, stopped, limited, closes, -, atMost, -⟩ :=
    exchange.stop_leg_limited id (o := buys) rfl positive format silent (0, ())
  exact ⟨positive, format, q, side, stop, limit, sent, sided, closes rfl, stopped, limited, atMost⟩

open LegSample in
/-- The leg of a position that is sold buys at 102.00 and not above 101.49. -/
theorem sample_stop_missed :
    ∃ q, ((exchange.placeProtective id sells).requests silent (0, ())).filter (·.IsStop) = [q] ∧
      q.params.lookup "side" = some (.text "BUY") ∧
      q.params.lookup "stopPrice" = some (.text "102.00") ∧
      q.params.lookup "price" = some (.text "101.49") ∧ ¬Numeral.AtMost "102.00" "101.49" := by
  have level : Order.level? sells.stopLoss = some (.ofInt 102) := by decide +kernel
  obtain ⟨time, sent⟩ := exchange.placeProtective_stop id level silent (0, ())
  have stop : (Real64.ofInt 102).fixedText 2 = "102.00" := by decide +kernel
  have limit : ((Real64.ofInt 102).mul Order.stopFactor).fixedText 2 = "101.49" := by
    decide +kernel
  have trigger : Numeral.Denotes "102.00" 102 := by
    refine ⟨false, "102.00".toList, ⟨false, 10200, -2⟩, by decide +kernel, by decide +kernel, ?_⟩
    norm_num [Decimal.value]
  have bound : Numeral.Denotes "101.49" (10149 / 100) := by
    refine ⟨false, "101.49".toList, ⟨false, 10149, -2⟩, by decide +kernel, by decide +kernel, ?_⟩
    norm_num [Decimal.value]
  refine ⟨_, sent, exchange.lookup_request (by decide) (by decide) .., ?_, ?_, ?_⟩
  · rw [exchange.lookup_request (by decide) (by decide), ← stop]
    rfl
  · rw [exchange.lookup_request (by decide) (by decide), ← limit]
    rfl
  · rintro (same | ⟨m, n, lower, upper, le⟩)
    · exact absurd same (by decide)
    · rw [lower.unique trigger, upper.unique bound] at le
      norm_num at le

end Exchange
end SignalDesk
