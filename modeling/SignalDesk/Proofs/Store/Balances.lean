import SignalDesk.Proofs.Store.Change
import SignalDesk.Proofs.Store.Spending

namespace SignalDesk

namespace Amount

/-- What is kept as an integer is below `2 ^ 63`. -/
theorem lt_of_ofReal {x : Real64} {n : Int} (h : ofReal x = whole n) : n < 2 ^ 63 := by
  unfold ofReal at h
  split at h
  · split at h
    · rename_i within
      cases h
      simp only [Bool.and_eq_true, decide_eq_true_eq] at within
      exact within.2
    · cases h
  · cases h

/-- A whole number and a change make the exact sum, or zero below it, just where it is below
`2 ^ 63`. -/
theorem floored_plus_iff {b delta : Int} (balance : 0 ≤ b) (low : -2 ^ 63 ≤ delta) :
    ((whole b).plus delta).floored = whole (max (b + delta) 0) ↔ b + delta < 2 ^ 63 := by
  constructor
  · intro exact
    apply Int.not_le.mp
    intro beyond
    have unfit : ¬fitsWord (b + delta) = true := by
      rw [fitsWord_iff]
      omega
    rw [plus, if_neg unfit, floored] at exact
    split at exact
    · have zero := whole.inj exact
      omega
    · have below := lt_of_ofReal exact
      omega
  · intro below
    rw [plus_whole (fitsWord_iff.mpr ⟨by omega, below⟩), floored]
    by_cases negative : b + delta < 0
    · rw [if_pos (by simpa [isNegative] using negative), Int.max_eq_right (by omega)]
    · rw [if_neg (by simpa [isNegative] using negative), Int.max_eq_left (by omega)]

end Amount

namespace Store

variable {s s' : Store} {user : String}

/-- A reservation takes one coin of a whole balance. -/
theorem reserve_takes_one {r : Reservation} {now : String} {id n : Int}
    (h : s.reserve r now = .ok (id, s')) (whose : r.user.stored = some user)
    (balance : s.coins? user = some (.number (.whole n))) (high : n < 2 ^ 63) :
    1 ≤ n ∧ s'.coins? user = some (.number (.whole (n - 1))) := by
  obtain ⟨t, p, reserves, -, rfl⟩ := reserve_ok h
  obtain ⟨-, -, owner, -⟩ := Reservation.trade_ok reserves.made
  obtain rfl := Option.some.inj (owner.symm.trans whose)
  have coins : p.coins = .number (.whole n) := by
    rw [coins?, reserves.profile] at balance
    exact Option.some.inj balance
  have positive : 0 < n := by
    have spendable := reserves.spendable.1
    rw [coins] at spendable
    exact of_decide_eq_true spendable
  have left : p.coins.amount.plus (-1) = .whole (n - 1) := by
    rw [coins]
    exact Amount.plus_whole (fitsWord_iff.mpr ⟨by omega, by omega⟩)
  constructor
  · omega
  · rw [coins?, profile?_charged, reserves.profile, left]
    simp

/-- What an adjustment by a number of 64 bits writes: the balance after it, and an entry of the
ledger that tells it. Without the columns of the entry nothing is written. -/
theorem adjust_eq (note : LedgerNote) (now : String) {before : Figure} {delta : Int}
    (balance : s.coins? user = some before) (fits : fitsWord delta = true) :
    let after : Figure := (before.amount.plus delta).floored
    (∃ e, note.columns = .error e ∧
      s.adjust user (.whole delta) note now = .error (.store e)) ∨
    ∃ e s', s.adjust user (.whole delta) note now = .ok ((before, after), s') ∧
      s.Adjusted user e s' ∧ e.before = before ∧ e.after = after := by
  obtain ⟨p, profile, rfl⟩ := Option.map_eq_some_iff.mp balance
  have told : (Amount.whole delta).isTold = true := fits
  cases columns : note.columns with
  | error e =>
    left
    refine ⟨e, rfl, ?_⟩
    simp only [adjust, profile, told, columns, Amount.add?, Bool.not_true, Bool.false_eq_true,
      if_false]
  | ok texts =>
    right
    obtain ⟨action, reason, performedBy⟩ := texts
    let after : Figure := (p.coins.amount.plus delta).floored
    let entry : LedgerEntry :=
      ⟨nextId (s.ledger.map (·.id)), user, p.coins, after, action, reason, performedBy, none, now⟩
    refine ⟨entry, { s.setCoins user after with ledger := s.ledger ++ [entry] }, ?_, ?_, rfl, rfl⟩
    · simp only [adjust, profile, told, columns, Amount.add?, Bool.not_true, Bool.false_eq_true,
        if_false]
      rfl
    · exact ⟨balance, rfl, rfl, ⟨_, rfl⟩, rfl, rfl⟩

/-- **Adjustments are exact in 64 bits.** A whole balance stays as it is, with the ledger, where the
columns of the entry are refused. Else it becomes what the entry tells, and this is the exact sum, or
zero below it, just where the sum is below `2 ^ 63`. There the next reservation takes one coin of
it. -/
theorem adjust_whole (note : LedgerNote) (now : String) {b delta : Int}
    (balance : s.coins? user = some (.number (.whole b))) (nonneg : 0 ≤ b)
    (fits : -2 ^ 63 ≤ delta ∧ delta < 2 ^ 63) :
    (∃ e, note.columns = .error e ∧
      s.adjust user (.whole delta) note now = .error (.store e)) ∨
    ∃ after e s',
      s.adjust user (.whole delta) note now = .ok ((.number (.whole b), after), s') ∧
      s'.coins? user = some after ∧ (∀ other, other ≠ user → s'.coins? other = s.coins? other) ∧
      s'.ledger = s.ledger ++ [e] ∧ e.user = user ∧ e.before = .number (.whole b) ∧
      e.after = after ∧ (after = .number (.whole (max (b + delta) 0)) ↔ b + delta < 2 ^ 63) ∧
      (b + delta < 2 ^ 63 → ∀ r later id s'', s'.reserve r later = .ok (id, s'') →
        r.user.stored = some user →
        s''.coins? user = some (.number (.whole (max (b + delta) 0 - 1)))) := by
  rcases adjust_eq note now balance (fitsWord_iff.mpr fits) with
    refused | ⟨e, s', adjusts, adjusted, before, after⟩
  · exact .inl refused
  right
  have exact_iff : e.after = .number (.whole (max (b + delta) 0)) ↔ b + delta < 2 ^ 63 := by
    rw [after, Figure.number.injEq]
    exact Amount.floored_plus_iff nonneg fits.1
  have coins : s'.coins? user = some e.after := by rw [adjusted.coins?, if_pos rfl]
  rw [← after] at adjusts
  refine ⟨e.after, e, s', adjusts, coins, ?_, adjusted.ledger, adjusted.holder, before, rfl,
    exact_iff, ?_⟩
  · intro other apart
    rw [adjusted.coins?, if_neg apart]
  · intro below r later id s'' reserved whose
    rw [exact_iff.mpr below] at coins
    exact (reserve_takes_one reserved whose coins (by omega)).2

namespace Sample

def holding (coins : Int) : Store :=
  { Store.empty with profiles := [⟨some "ada", .number (.whole coins), 1, "2024-01-01"⟩] }

def gift : LedgerNote := ⟨.text adminAction, .text "gift", .text "root"⟩

def entry : Reservation :=
  ⟨.text "ada", .text "cross", .text "BTCUSDT", .text "1h", some .buy, .int 5, .zero, .zero, .zero,
    .text "crossing", none⟩

/-- The balance after a gift and a reservation. -/
def left (coins delta : Int) : Option (Option Figure) := do
  let (_, given) ← ((holding coins).adjust "ada" (.whole delta) gift "2024-01-02").toOption
  let (_, charged) ← (given.reserve entry "2024-01-03").toOption
  return charged.coins? "ada"

end Sample

open Sample in
theorem sample_adjusted_whole :
    ∃ s', (holding 3).adjust "ada" (.whole 4) gift "2024-01-02" =
        .ok ((.number (.whole 3), .number (.whole 7)), s') ∧
      ∀ id s'', s'.reserve entry "2024-01-03" = .ok (id, s'') →
        s''.coins? "ada" = some (.number (.whole 6)) := by
  have three : (holding 3).coins? "ada" = some (.number (.whole 3)) := rfl
  have fits : -2 ^ 63 ≤ (4 : Int) ∧ (4 : Int) < 2 ^ 63 := by decide
  rcases adjust_whole gift "2024-01-02" three (by decide) fits with
    ⟨e, refused, -⟩ | ⟨after, e, s', adjusts, -, -, -, -, -, -, exact_iff, spends⟩
  · cases refused
  · obtain rfl := exact_iff.mpr (by decide)
    exact ⟨s', adjusts, fun id s'' reserved => spends (by decide) _ _ id s'' reserved rfl⟩

open Sample in
/-- At the largest balance one coin more makes it a binary64 number, which the next reservation leaves
as it is. -/
theorem sample_overflow_kept :
    let most : Figure := .number (.real (.finite ⟨false, 2 ^ 52, 11⟩))
    ((holding (2 ^ 63 - 1)).adjust "ada" (.whole 1) gift "2024-01-02").toOption.map (·.1) =
        some (.number (.whole (2 ^ 63 - 1)), most) ∧
      left (2 ^ 63 - 1) 1 = some (some most) := by
  decide +kernel

end Store
end SignalDesk
