import SignalDesk.Proofs.Ledger.Debits

namespace SignalDesk

/-- Whether entries lead from one balance to another, each from where the one before it ended. -/
def Chain (last : Int) : Int → List LedgerEntry → Prop
  | first, [] => first = last
  | first, e :: entries =>
    e.before = .number (.whole first) ∧
      ∃ next : Int, e.after = .number (.whole next) ∧ Chain last next entries

/-- What an entry adds to a balance; one that takes coins away adds nothing. -/
def LedgerEntry.gain (e : LedgerEntry) : Int :=
  match e.before.whole?, e.after.whole? with
  | some before, some after => max 0 (after - before)
  | _, _ => 0

/-- The sum of all positive changes of a balance. -/
def gains : List LedgerEntry → Int
  | [] => 0
  | e :: entries => e.gain + gains entries

theorem Chain.append {entries : List LedgerEntry} {first last next : Int} {e : LedgerEntry}
    (h : Chain last first entries) (before : e.before = .number (.whole last))
    (after : e.after = .number (.whole next)) : Chain next first (entries ++ [e]) := by
  induction entries generalizing first with
  | nil =>
    cases h
    exact ⟨before, next, after, rfl⟩
  | cons f entries ih =>
    obtain ⟨start, mid, stop, rest⟩ := h
    exact ⟨start, mid, stop, ih rest⟩

theorem gains_append (entries : List LedgerEntry) (e : LedgerEntry) :
    gains (entries ++ [e]) = gains entries + e.gain := by
  induction entries with
  | nil => simp [gains]
  | cons f entries ih =>
    simp only [List.cons_append, gains, ih]
    omega

theorem LedgerEntry.gain_whole {e : LedgerEntry} {before after : Int}
    (hb : e.before = .number (.whole before)) (ha : e.after = .number (.whole after)) :
    e.gain = max 0 (after - before) := by
  simp only [gain, hb, ha, Figure.whole?]

namespace Store

variable {s s' : Store} {user : String}

def entriesOf (s : Store) (user : String) : List LedgerEntry := s.ledger.filter (·.user == user)

def madeBy (s : Store) (user : String) : List TradeIdentity := s.made.filter (·.user == user)

/-- The books of a user: without a profile they are empty; with one, they start with what the
profile was made with. -/
def Balanced (s : Store) (user : String) : Option Figure → Prop
  | none => s.coins? user = none ∧ s.entriesOf user = [] ∧ s.madeBy user = []
  | some start =>
    ∃ first last : Int, start = .number (.whole first) ∧
      s.coins? user = some (.number (.whole last)) ∧ 0 ≤ last ∧
      Chain last first (s.entriesOf user) ∧
      last + (s.madeBy user).length ≤ first + gains (s.entriesOf user)

theorem Balanced.same {start : Option Figure} (b : s.Balanced user start)
    (coins : s'.coins? user = s.coins? user) (entries : s'.entriesOf user = s.entriesOf user)
    (made : s'.madeBy user = s.madeBy user) : s'.Balanced user start := by
  cases start <;> simpa only [Balanced, coins, entries, made] using b

/-- Books that are open stay open, and without a profile there is nothing to open them. -/
theorem Balanced.or_coins {start : Option Figure} (b : s.Balanced user start) :
    s.Balanced user (start.or (s.coins? user)) := by
  cases start with
  | none => rwa [b.1]
  | some start => exact b

theorem entriesOf_append (user : String) {e : LedgerEntry} (h : s'.ledger = s.ledger ++ [e]) :
    s'.entriesOf user = s.entriesOf user ++ if e.user = user then [e] else [] := by
  simp only [entriesOf, h, List.filter_append]
  by_cases mine : e.user = user <;> simp [mine]

theorem madeBy_append (user : String) {k : TradeIdentity} (h : s'.made = s.made ++ [k]) :
    s'.madeBy user = s.madeBy user ++ if k.user = user then [k] else [] := by
  simp only [madeBy, h, List.filter_append]
  by_cases mine : k.user = user <;> simp [mine]

/-- Books open with the profile that a user gets. -/
theorem Balanced.enrolled {start : Option Figure} {p : Profile} (b : s.Balanced user start)
    (enrolled : s.Enrolled p s') (range : s'.InRange) :
    s'.Balanced user (start.or (s'.coins? user)) := by
  have entries : s'.entriesOf user = s.entriesOf user := by simp only [entriesOf, enrolled.ledger]
  have made : s'.madeBy user = s.madeBy user := by simp only [madeBy, enrolled.made]
  have coins := enrolled.coins? user
  cases start with
  | some start =>
    obtain ⟨first, last, -, found, -⟩ := id b
    exact b.same (by simp [coins, found]) entries made
  | none =>
    obtain ⟨free, noEntries, noTrades⟩ := id b
    rw [free, Option.none_or] at coins
    split at coins
    · obtain ⟨n, whole, -⟩ := range _ _ coins
      have positive : 0 ≤ n := by
        have kept := enrolled.coins
        rw [whole] at kept
        simpa [Figure.isNegative, Amount.isNegative] using kept
      rw [coins, Option.none_or]
      refine ⟨n, n, whole, whole ▸ coins, positive, ?_, ?_⟩
      · rw [entries, noEntries]
        rfl
      · simp [entries, made, noEntries, noTrades, gains]
    · rw [coins]
      exact b.same (coins.trans free.symm) entries made

/-- An entry for the balance that a user has continues the books. -/
theorem Balanced.extend {start : Option Figure} {e : LedgerEntry} {before next : Int}
    {new : List TradeIdentity} (b : s.Balanced user start) (found : s.coins? user = some e.before)
    (whole : e.before = .number (.whole before)) (after : e.after = .number (.whole next))
    (positive : 0 ≤ next) (coins : s'.coins? user = some e.after)
    (entries : s'.entriesOf user = s.entriesOf user ++ [e])
    (made : s'.madeBy user = s.madeBy user ++ new) (paid : next + new.length ≤ before + e.gain) :
    s'.Balanced user start := by
  cases start with
  | none =>
    rw [b.1] at found
    cases found
  | some start =>
    obtain ⟨first, last, opening, same, -, chain, bound⟩ := b
    obtain rfl : before = last := by
      rw [found, whole] at same
      cases same
      rfl
    refine ⟨first, next, opening, after ▸ coins, positive, ?_, ?_⟩
    · exact entries ▸ chain.append whole after
    · rw [entries, made, gains_append, List.length_append]
      omega

theorem Balanced.adjusted {start : Option Figure} {other : String} {e : LedgerEntry}
    (b : s.Balanced user start) (range : s.InRange) (adjusted : s.Adjusted other e s')
    (kept : s'.InRange) : s'.Balanced user start := by
  have coins := adjusted.coins? user
  have entries := entriesOf_append user adjusted.ledger
  have made : s'.madeBy user = s.madeBy user := by simp only [madeBy, adjusted.made]
  rw [adjusted.holder] at entries
  by_cases mine : other = user
  · subst mine
    simp only [if_true] at coins entries
    obtain ⟨before, whole, -⟩ := range _ _ adjusted.balance
    obtain ⟨next, after, -⟩ := kept _ _ coins
    obtain ⟨sum, floored⟩ := adjusted.floored
    have positive : 0 ≤ next := by
      rw [floored] at after
      exact Amount.floored_whole (Figure.number.inj after)
    have none : s'.madeBy other = s.madeBy other ++ [] := by rw [made, List.append_nil]
    refine b.extend adjusted.balance whole after positive coins entries none ?_
    rw [LedgerEntry.gain_whole whole after]
    simp only [List.length_nil]
    omega
  · simp only [mine, Ne.symm mine, if_false, List.append_nil] at coins entries
    exact b.same coins entries made

theorem Balanced.booked {start : Option Figure} {t : Trade} {coins : Int} {e : LedgerEntry}
    (b : s.Balanced user start) (booked : s.Booked t coins e s') : s'.Balanced user start := by
  have balance := booked.coins? user
  have entries := entriesOf_append user booked.ledger
  have made := madeBy_append user booked.made
  rw [booked.holder] at entries
  by_cases mine : t.user = user
  · subst mine
    simp only [Trade.identity, if_true] at balance entries made
    refine b.extend (booked.before ▸ booked.balance) booked.before booked.after booked.paid
      (booked.after ▸ balance) entries made ?_
    rw [LedgerEntry.gain_whole booked.before booked.after]
    simp only [List.length_singleton]
    omega
  · have other := Ne.symm mine
    simp only [Trade.identity, mine, other, if_false, List.append_nil] at balance entries made
    exact b.same balance entries made

/-- The books of a user after a change. They open with the profile. -/
theorem Balanced.change {start : Option Figure} (b : s.Balanced user start) (range : s.InRange)
    (h : Change s s') : s'.Balanced user (start.or (s'.coins? user)) := by
  rcases h.books range with same | ⟨p, enrolled, kept⟩ | ⟨other, e, adjusted, kept⟩ |
    ⟨t, coins, e, booked⟩
  · refine (b.same (same.coins user) ?_ ?_).or_coins
    · simp only [entriesOf, same.ledger]
    · simp only [madeBy, same.made]
  · exact b.enrolled enrolled kept
  · exact (b.adjusted range adjusted kept).or_coins
  · exact (b.booked booked).or_coins

end Store

/-- What the profile of a user was made with: the balance in the first world that has one. -/
def World.opened (user : String) : List World → Option Figure
  | [] => none
  | w :: earlier => (opened user earlier).or (w.desk.store.coins? user)

theorem World.History.balanced {w : World} {earlier : List World} (h : History (w :: earlier))
    (user : String) : w.desk.store.Balanced user (opened user (w :: earlier)) := by
  generalize eq : w :: earlier = worlds at h
  induction h generalizing w earlier with
  | start config clock =>
    cases eq
    exact ⟨rfl, rfl, rfl⟩
  | @step v v' before h step ih =>
    cases eq
    have b : v.desk.store.Balanced user (opened user (v :: before)) := ih rfl
    rcases Relation.reflGen_iff .. |>.mp (step.sound h.sound).2 with same | changed
    · rw [opened, same]
      exact b.or_coins
    · exact b.change h.inRange changed

/-- **The books balance.** In every world that comes about, the entries of a user lead in the order
of their numbers from the balance that the user's profile was made with to the one in it now, which
is not negative, and the trades ever made for the user are no more than the coins there were. -/
theorem books_balance {w : World} {earlier : List World} (h : World.History (w :: earlier))
    (user : String) :
    w.desk.store.Balanced user (World.opened user (w :: earlier)) ∧
      (w.desk.store.entriesOf user).Pairwise (fun e f => e.id < f.id) ∧
      ∀ w' ∈ earlier, w'.desk.store.madeBy user <+: w.desk.store.madeBy user := by
  refine ⟨h.balanced user, h.debited.ledger.filter _, ?_⟩
  refine h.related (R := fun s s' => s.madeBy user <+: s'.madeBy user) ?_ ?_ ?_
  · exact fun s => List.prefix_refl _
  · exact fun first second => first.trans second
  · exact fun range change => (change.grows range).2.filter _

theorem sample_books_balance :
    World.Sample.traded.store.coins? "ada" = some (.number (.whole 4)) ∧
      World.Sample.traded.store.Balanced "ada" (some (.number (.whole 5))) :=
  ⟨rfl, (books_balance World.Sample.history "ada").1⟩

end SignalDesk
