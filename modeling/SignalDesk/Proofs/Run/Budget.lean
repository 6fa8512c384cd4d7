import Mathlib.Data.Set.Card
import SignalDesk.Proofs.Run.Attempts

/-!
# Budgets

Calls beside each other, in whatever order they move, while nobody else changes the store
(`Arena.Undisturbed`). As many of them make a trade of a user as the user has coins, as long as
there are that many that come to reserve one; the others end for want of a coin
(`Arena.Undisturbed.spendsCoins`).
-/

namespace SignalDesk
namespace Contest
namespace Arena

variable {ι : Type} [DecidableEq ι]

/-- The arenas that come about when nobody else changes the store. -/
inductive Undisturbed (calls : ι → Call) (d : Desk) : Arena ι → Prop where
  | start : Undisturbed calls d (start calls d)
  | move {w : Arena ι} (h : Undisturbed calls d w) (i : ι) {p : Program Desk Run.Ending} {d' : Desk}
      (move : Program.Move (w.rest i, w.desk) (p, d')) : Undisturbed calls d (w.moved i p d')
  | idle {w : Arena ι} (h : Undisturbed calls d w) {d' : Desk} (same : w.desk.SameStore d') :
      Undisturbed calls d { w with desk := d' }

/-- Whether all calls have ended. -/
def Over (w : Arena ι) : Prop := ∀ i, ∃ ending, w.rest i = .done ending

variable (calls : ι → Call) (w : Arena ι) (user : String)

/-- The calls that came to reserve a trade of a user, with values that the tables admit. -/
def triers : Set ι := {i | ∃ e ∈ w.log, e.caller = i ∧ (calls i).Tries user e.before}

/-- The calls that made a trade of a user. -/
def makers : Set ι := {i | ∃ k, w.Trades calls i k ∧ k.user = user}

/-- How a call fares: it looks for its signal; it has ended without a trade, for want of a coin if it
came to reserve one; or it has made a trade and sees to its order. -/
inductive Fares (i : ι) : Prop where
  | seeking (seeks : (calls i).Seeks (w.rest i)) (untried : i ∉ w.triers calls user)
      (untraded : i ∉ w.makers calls user)
  | ended (ending : Run.Ending) (rest : w.rest i = .done ending)
      (broke : i ∈ w.triers calls user → ∃ r, ending = .ok r ∧ r.outcome = .skippedNoBudget)
      (untraded : i ∉ w.makers calls user)
  | trading (k : TradeIdentity) (trades : w.Trades calls i k)
      (tried : i ∈ w.triers calls k.user)
      (within : (w.rest i).Within (fun _ => True) Desk.Marks (Run.EndsWith k.id))

/-- How the coins of a user who had `c` of them stand. -/
structure Budget (c : Nat) : Prop where
  fares : ∀ i, w.Fares calls user i
  balance : w.desk.store.balance user =
    .number (.whole ((c - (w.makers calls user).ncard : Nat) : Int))
  covered : (w.makers calls user).ncard ≤ c
  spent : ∀ i ∈ w.triers calls user, i ∉ w.makers calls user → (w.makers calls user).ncard = c

/-- How calls that have all ended have spent the `c` coins of a user. -/
structure SpendsCoins (c : Nat) : Prop where
  /-- As many make a trade as there are coins, if so many come to reserve one. -/
  made : (w.makers calls user).ncard = min c (w.triers calls user).ncard
  tried : w.makers calls user ⊆ w.triers calls user
  traded : ∀ i ∈ w.makers calls user, ∃ k ending, w.Trades calls i k ∧ k.user = user ∧
    w.rest i = .done ending ∧ Run.EndsWith k.id ending
  /-- The others end for want of a coin. -/
  others : (w.triers calls user \ w.makers calls user).ncard =
    (w.triers calls user).ncard - min c (w.triers calls user).ncard
  broke : ∀ i ∈ w.triers calls user \ w.makers calls user, ∃ r,
    w.rest i = .done (.ok r) ∧ r.outcome = .skippedNoBudget
  balance : w.desk.store.balance user =
    .number (.whole ((c - min c (w.triers calls user).ncard : Nat) : Int))

variable {calls w user} {i j : ι} {p : Program Desk Run.Ending} {d : Desk} {c : Nat}

theorem triers_moved : (w.moved i p d).triers calls user =
    {j | j = i ∧ (calls i).Tries user (w.rest i, w.desk)} ∪ w.triers calls user := by
  ext j
  simp only [triers, moved, List.mem_cons, exists_eq_or_imp, Set.mem_ofPred_eq, Set.mem_union]
  refine or_congr_left ⟨?_, ?_⟩
  · rintro ⟨rfl, tries⟩
    exact ⟨rfl, tries⟩
  · rintro ⟨rfl, tries⟩
    exact ⟨rfl, tries⟩

theorem trades_moved {k : TradeIdentity} : (w.moved i p d).Trades calls j k ↔
    (i = j ∧ (calls j).Reserves w.desk d k) ∨ w.Trades calls j k := by
  simp only [Trades, moved, List.mem_cons, exists_eq_or_imp]

theorem makers_moved : (w.moved i p d).makers calls user =
    {j | j = i ∧ ∃ k, (calls i).Reserves w.desk d k ∧ k.user = user} ∪ w.makers calls user := by
  ext j
  simp only [makers, trades_moved, Set.mem_ofPred_eq, Set.mem_union]
  constructor
  · rintro ⟨k, ⟨rfl, reserves⟩ | trades, mine⟩
    · exact .inl ⟨rfl, k, reserves, mine⟩
    · exact .inr ⟨k, trades, mine⟩
  · rintro (⟨rfl, k, reserves, mine⟩ | ⟨k, trades, mine⟩)
    · exact ⟨k, .inl ⟨rfl, reserves⟩, mine⟩
    · exact ⟨k, .inr trades, mine⟩

theorem triers_moved_of_not (untried : ¬(calls i).Tries user (w.rest i, w.desk)) :
    (w.moved i p d).triers calls user = w.triers calls user := by
  simp [triers_moved, untried]

theorem makers_moved_of_not (untraded : ¬∃ k, (calls i).Reserves w.desk d k ∧ k.user = user) :
    (w.moved i p d).makers calls user = w.makers calls user := by
  rw [makers_moved]
  simp only [untraded, and_false, Set.ofPred_false, Set.empty_union]

theorem makers_moved_of_reserves {k : TradeIdentity} (reserves : (calls i).Reserves w.desk d k)
    (mine : k.user = user) :
    (w.moved i p d).makers calls user = insert i (w.makers calls user) := by
  have here : ∃ k, (calls i).Reserves w.desk d k ∧ k.user = user := ⟨k, reserves, mine⟩
  rw [makers_moved]
  simp only [here, and_true, Set.ofPred_eq_eq_singleton, Set.singleton_union]

omit [DecidableEq ι] in
theorem not_reserves_of_made (same : d.store.made = w.desk.store.made) :
    ¬∃ k, (calls i).Reserves w.desk d k ∧ k.user = user :=
  fun ⟨_, reserves, _⟩ => reserves.new same

omit [DecidableEq ι] in
theorem Trades.holder {k : TradeIdentity} (h : w.Trades calls i k) :
    (calls i).activation.user.stored = some k.user := by
  obtain ⟨e, -, -, reserves⟩ := h
  exact reserves.user

/-- How a call fares is not changed by a move of another one. -/
theorem Fares.later (h : w.Fares calls user j) (other : j ≠ i) :
    (w.moved i p d).Fares calls user j := by
  have tried : ∀ user, j ∈ (w.moved i p d).triers calls user ↔ j ∈ w.triers calls user := by
    intro user
    simp [triers_moved, other]
  have made : j ∈ (w.moved i p d).makers calls user ↔ j ∈ w.makers calls user := by
    simp [makers_moved, other]
  have rest := rest_moved_of_ne w other p d
  cases h with
  | seeking seeks untried untraded =>
    exact .seeking (rest ▸ seeks) (mt (tried user).mp untried) (mt made.mp untraded)
  | ended ending ended broke untraded =>
    exact .ended ending (rest.trans ended) (fun h => broke ((tried user).mp h))
      (mt made.mp untraded)
  | trading k trades tries within =>
    exact .trading k (trades_moved.mpr (.inr trades)) ((tried k.user).mpr tries) (rest ▸ within)

theorem fares_moved (h : ∀ j, w.Fares calls user j) (mine : (w.moved i p d).Fares calls user i) :
    ∀ j, (w.moved i p d).Fares calls user j := by
  intro j
  by_cases same : j = i
  · exact same ▸ mine
  · exact (h j).later same

/-- A move that is no attempt for the user, and makes no trade of the user. -/
theorem Budget.unchanged (h : w.Budget calls user c)
    (untried : ¬(calls i).Tries user (w.rest i, w.desk))
    (untraded : ¬∃ k, (calls i).Reserves w.desk d k ∧ k.user = user)
    (balance : d.store.balance user = w.desk.store.balance user)
    (fares : (w.moved i p d).Fares calls user i) : (w.moved i p d).Budget calls user c := by
  have tried := triers_moved_of_not (p := p) (d := d) untried
  have made := makers_moved_of_not (p := p) untraded
  constructor
  case fares => exact fares_moved h.fares fares
  case balance =>
    rw [made]
    exact balance.trans h.balance
  case covered => exact made ▸ h.covered
  case spent => rw [tried, made]; exact h.spent

/-- A move by which a call comes to reserve a trade of the user when all coins are spent. -/
theorem Budget.broke (h : w.Budget calls user c) (all : (w.makers calls user).ncard = c)
    (untraded : i ∉ w.makers calls user) {r : Run} (outcome : r.outcome = .skippedNoBudget) :
    (w.moved i (.done (.ok r)) w.desk).Budget calls user c := by
  have made : (w.moved i (.done (.ok r)) w.desk).makers calls user = w.makers calls user :=
    makers_moved_of_not (not_reserves_of_made rfl)
  constructor
  case fares =>
    refine fares_moved h.fares (.ended (.ok r) (rest_moved ..) ?_ (made ▸ untraded))
    exact fun _ => ⟨r, rfl, outcome⟩
  case balance => rw [made]; exact h.balance
  case covered => exact made ▸ h.covered
  case spent => exact fun _ _ _ => made ▸ all

/-- A move by which a call makes a trade of the user for a coin. -/
theorem Budget.pays [Finite ι] (h : w.Budget calls user c)
    (tries : (calls i).Tries user (w.rest i, w.desk)) (untraded : i ∉ w.makers calls user)
    {k : TradeIdentity} (reserves : (calls i).Reserves w.desk d k) (mine : k.user = user)
    {m : Nat} (left : c - (w.makers calls user).ncard = m + 1)
    (balance : d.store.balance user = .number (.whole m))
    (within : p.Within (fun _ => True) Desk.Marks (Run.EndsWith k.id)) :
    (w.moved i p d).Budget calls user c := by
  have made := makers_moved_of_reserves (p := p) reserves mine
  have count : ((w.moved i p d).makers calls user).ncard = (w.makers calls user).ncard + 1 := by
    rw [made, Set.ncard_insert_of_notMem untraded (Set.toFinite _)]
  constructor
  case fares =>
    refine fares_moved h.fares (.trading k (trades_moved.mpr (.inl ⟨rfl, reserves⟩)) ?_ ?_)
    · simp [triers_moved, mine, tries]
    · rw [rest_moved]
      exact within
  case balance =>
    rw [count]
    exact balance.trans (by congr 3; omega)
  case covered => omega
  case spent =>
    intro j hj other
    rw [made, Set.mem_insert_iff, not_or] at other
    rw [triers_moved] at hj
    rcases hj with ⟨same, -⟩ | hj
    · exact absurd same other.1
    · have := h.spent j hj other.2
      omega

/-- A move by which a call comes to reserve a trade of the user. -/
theorem Budget.attempted [Finite ι] (h : w.Budget calls user c) (small : c < 2 ^ 63)
    (tries : (calls i).Tries user (w.rest i, w.desk))
    (untraded : i ∉ w.makers calls user)
    (move : Program.Move (w.rest i, w.desk) (p, d)) : (w.moved i p d).Budget calls user c := by
  rcases tries.move move (by omega) h.balance with
    ⟨none, rfl, r, rfl, noTrade, outcome⟩ | ⟨m, k, left, reserves, mine, balance, within⟩
  · have := h.covered
    exact h.broke (by omega) untraded outcome
  · exact h.pays tries untraded reserves mine left balance within

/-- A move by which a call that looks for its signal goes on, without an attempt for the user. -/
theorem Budget.sought (h : w.Budget calls user c) (seeks : (calls i).Seeks (w.rest i))
    (untried : i ∉ w.triers calls user) (untraded : i ∉ w.makers calls user)
    (tries : ¬(calls i).Tries user (w.rest i, w.desk))
    (move : Program.Move (w.rest i, w.desk) (p, d)) : (w.moved i p d).Budget calls user c := by
  have untried' : i ∉ (w.moved i p d).triers calls user := by
    rw [triers_moved_of_not tries]
    exact untried
  have still : w.desk.SameStore d → (w.moved i p d).Fares calls user i →
      (w.moved i p d).Budget calls user c := fun same fares =>
    h.unchanged tries (not_reserves_of_made (congrArg Store.made same))
      (congrArg (Store.balance · user) same) fares
  have untraded' : w.desk.SameStore d → i ∉ (w.moved i p d).makers calls user := fun same => by
    rw [makers_moved_of_not (not_reserves_of_made (congrArg Store.made same))]
    exact untraded
  rcases seeks.move move with ⟨same, seeks | ⟨ending, rfl, -⟩⟩ | ⟨gate, signal, comes⟩
  · exact still same (.seeking (by rw [rest_moved]; exact seeks) untried' (untraded' same))
  · exact still same (.ended ending (rest_moved ..) (absurd · untried') (untraded' same))
  rw [comes] at move
  rcases commitment_move move with ⟨ending, -, -, rfl, rfl⟩ | ⟨r, s, committed, rfl, within⟩
  · exact still rfl (.ended ending (rest_moved ..) (absurd · untried') (untraded' rfl))
  · -- the trade is that of another user
    obtain ⟨t, attempts, reserves, number, others⟩ := attempts_of_commit committed
    have another : user ≠ t.user :=
      fun same => tries ⟨gate, signal, t, comes, attempts, same.symm⟩
    have theirs : (calls i).Tries t.user (w.rest i, w.desk) :=
      ⟨gate, signal, t, comes, attempts, rfl⟩
    refine h.unchanged tries ?_ (others user another) ?_
    · rintro ⟨k, again, mine⟩
      exact another (mine.symm.trans (Option.some.inj (again.user.symm.trans reserves.user)))
    · exact .trading t.identity (trades_moved.mpr (.inl ⟨rfl, reserves⟩))
        (by simp [triers_moved, theirs, Trade.identity])
        (by rw [rest_moved]; rwa [number] at within)

/-- A move of a call that has made its trade. -/
theorem Budget.placed (h : w.Budget calls user c) (small : c < 2 ^ 63) {k : TradeIdentity}
    (trades : w.Trades calls i k) (tried : i ∈ w.triers calls k.user)
    (within : (w.rest i).Within (fun _ => True) Desk.Marks (Run.EndsWith k.id))
    (move : Program.Move (w.rest i, w.desk) (p, d)) : (w.moved i p d).Budget calls user c := by
  obtain ⟨within, marks⟩ := within.move Desk.Marks.refl move
  obtain ⟨ts, made, rfl⟩ := marks
  have untraded : ¬∃ k, (calls i).Reserves w.desk { w.desk with
      store := { w.desk.store with trades := ts } } k ∧ k.user = user := not_reserves_of_made made
  have untried : ¬(calls i).Tries user (w.rest i, w.desk) := by
    intro tries
    have bound := h.covered
    rcases tries.move move (by omega) h.balance with
      ⟨-, -, r, ended, noTrade, -⟩ | ⟨_, k', -, reserves, mine, -⟩
    · rw [ended] at within
      rcases within with told | ⟨points, broken⟩
      · cases noTrade.symm.trans told
      · cases broken
    · exact untraded ⟨k', reserves, mine⟩
  refine h.unchanged untried untraded rfl (.trading k (trades_moved.mpr (.inr trades)) ?_ ?_)
  · rw [triers_moved]
    exact .inr tried
  · rw [rest_moved]
    exact within

theorem Budget.moved [Finite ι] (h : w.Budget calls user c) (small : c < 2 ^ 63)
    (move : Program.Move (w.rest i, w.desk) (p, d)) : (w.moved i p d).Budget calls user c := by
  cases h.fares i with
  | seeking seeks untried untraded =>
    by_cases tries : (calls i).Tries user (w.rest i, w.desk)
    · exact h.attempted small tries untraded move
    · exact h.sought seeks untried untraded tries move
  | ended ending ended broke untraded =>
    rw [ended] at move
    exact nomatch move
  | trading k trades tried within => exact h.placed small trades tried within move

/-- **Coins are spent one by one**, whichever call moves. -/
theorem Undisturbed.budget [Finite ι] (h : Undisturbed calls d w) (small : c < 2 ^ 63)
    (balance : d.store.balance user = .number (.whole c)) : w.Budget calls user c := by
  induction h with
  | start =>
    have none : (Arena.start calls d).makers calls user = ∅ := by
      simp [makers, Trades, Arena.start]
    constructor
    case fares =>
      intro i
      exact .seeking .begins (by simp [triers, Arena.start]) (by simp [none])
    case balance =>
      rw [none, Set.ncard_empty]
      exact balance
    case covered => simp [none]
    case spent => simp [triers, Arena.start]
  | move _ i move ih => exact ih.moved small move
  | @idle w _ d' same ih =>
    refine ⟨fun i => ?_, (congrArg (Store.balance · user) same).trans ih.balance, ih.covered,
      ih.spent⟩
    cases ih.fares i with
    | seeking seeks untried untraded => exact .seeking seeks untried untraded
    | ended ending ended broke untraded => exact .ended ending ended broke untraded
    | trading k trades tried within => exact .trading k trades tried within

omit [DecidableEq ι] in
/-- Who made a trade of the user came to reserve one. -/
theorem Budget.tried (h : w.Budget calls user c) :
    w.makers calls user ⊆ w.triers calls user := by
  rintro i ⟨k, trades, mine⟩
  cases h.fares i with
  | seeking _ _ untraded => exact absurd ⟨k, trades, mine⟩ untraded
  | ended _ _ _ untraded => exact absurd ⟨k, trades, mine⟩ untraded
  | trading l trades' tried _ =>
    have same : k.user = l.user := Option.some.inj (trades.holder.symm.trans trades'.holder)
    rwa [← same, mine] at tried

omit [DecidableEq ι] in
/-- As many make a trade as there are coins, if so many come to reserve one. -/
theorem Budget.made [Finite ι] (h : w.Budget calls user c) :
    (w.makers calls user).ncard = min c (w.triers calls user).ncard := by
  have most := Set.ncard_le_ncard h.tried (Set.toFinite _)
  by_cases all : w.triers calls user ⊆ w.makers calls user
  · have := Set.ncard_le_ncard all (Set.toFinite _)
    have := h.covered
    omega
  · obtain ⟨i, hi, other⟩ := Set.not_subset.mp all
    have := h.spent i hi other
    omega

/-- **Coins bound trades.** Of the calls that come to reserve a trade of a user, as many make one as
the user has coins, and the others end for want of one. -/
theorem Undisturbed.spendsCoins [Finite ι] (h : Undisturbed calls d w) (allEnded : w.Over)
    (small : c < 2 ^ 63) (balance : d.store.balance user = .number (.whole c)) :
    w.SpendsCoins calls user c := by
  have b := h.budget small balance
  constructor
  case made => exact b.made
  case tried => exact b.tried
  case traded =>
    rintro i ⟨k, trades, mine⟩
    obtain ⟨ending, ended⟩ := allEnded i
    cases b.fares i with
    | seeking _ _ untraded => exact absurd ⟨k, trades, mine⟩ untraded
    | ended _ _ _ untraded => exact absurd ⟨k, trades, mine⟩ untraded
    | trading l trades' _ within =>
      have same : k.user = l.user := Option.some.inj (trades.holder.symm.trans trades'.holder)
      rw [ended] at within
      exact ⟨l, ending, trades', same ▸ mine, ended, within⟩
  case others => rw [Set.ncard_sdiff b.tried (Set.toFinite _), b.made]
  case broke =>
    rintro i ⟨tries, untraded⟩
    cases b.fares i with
    | seeking _ untried _ => exact absurd tries untried
    | ended ending ended broke _ =>
      obtain ⟨r, rfl, outcome⟩ := broke tries
      exact ⟨r, ended, outcome⟩
    | trading k trades _ _ =>
      obtain ⟨e, -, -, gate, signal, t, -, attempts, mine⟩ := tries
      refine absurd ⟨k, trades, ?_⟩ untraded
      exact (Option.some.inj (trades.holder.symm.trans attempts.user)).trans mine
  case balance => rw [← b.made]; exact b.balance

end Arena
end Contest
end SignalDesk
