import Mathlib.Data.List.Range
import Mathlib.Data.List.Sort
import SignalDesk.Proofs.Network.Stops

/-!
# Companies in order

Where admission makes no difference between members that are not running, they open in the order in
which they come, however their turns go on: the next one never before the one ahead has come to its
first stop. So what each of them is to find there holds of the openings before it alone
(`Program.Keeps.inOrder`).
-/

namespace SignalDesk

variable {κ σ α : Type}

/-- Whether admission makes no difference between members that are not running. -/
def Impartial (admits : List κ → κ → Bool) : Prop :=
  ∀ running key key', key ∉ running → key' ∉ running → admits running key = admits running key'

namespace Company

variable {admits : List κ → κ → Bool} {c : Company κ σ α}

/-- An impartial admission lets in the first one outside, or nobody. -/
theorem letIn_eq (impartial : Impartial admits) (fresh : ∀ m ∈ c.outside, m.key ∉ c.running) :
    c.letIn admits = c ∨ ∃ m rest, c.outside = m :: rest ∧
      c.letIn admits = { c with ready := c.ready ++ [m], outside := rest } := by
  unfold letIn
  cases outside : c.outside with
  | nil => exact .inl rfl
  | cons m rest =>
    rw [outside] at fresh
    obtain ⟨mine, others⟩ := List.forall_mem_cons.mp fresh
    cases admitted : admits c.running m.key with
    | true =>
      right
      refine ⟨m, rest, rfl, ?_⟩
      simp only [takeFirst, admitted, if_true]
    | false =>
      left
      have nobody : ∀ ms : List (Member κ σ α), (∀ x ∈ ms, x.key ∉ c.running) →
          takeFirst (fun x => admits c.running x.key) ms = none := by
        intro ms hms
        induction ms with
        | nil => rfl
        | cons x xs ih =>
          obtain ⟨hx, hxs⟩ := List.forall_mem_cons.mp hms
          have refused : admits c.running x.key = false := by
            rw [impartial _ _ _ hx mine, admitted]
          simp only [takeFirst, refused, Bool.false_eq_true, if_false, ih hxs, Option.map_none]
      rw [nobody _ fresh]

end Company

section InOrder

variable {t : Terms σ} {R : σ → σ → Prop} {Inv : Nat → σ → Prop} {Goal : Nat → α → Prop}
  {members : List (Member κ σ α)}

/-- How members stand when `k` of them have opened: the others are to open in order, and those that
have opened are sure of their goals. `ms` are still to come. -/
structure Standing (t : Terms σ) (R : σ → σ → Prop) (Goal : Nat → α → Prop)
    (members : List (Member κ σ α)) (k : Nat) (ms : List (Member κ σ α))
    (c : Company κ σ α) : Prop where
  fresh : (c.ready ++ c.outside ++ ms).filter (k ≤ ·.place) = members.drop k
  silent : ∀ x ∈ c.silent, x.place < k
  opened : ∀ x ∈ c.live ++ ms, x.place < k → x.program.Sure t R (Goal x.place)
  results : ∀ r ∈ c.results, Goal r.1 r.2
  places : ((c.live ++ ms).map (·.place) ++ c.results.map (·.1)).Perm
    (List.range members.length)
  keys : ((c.live ++ ms).map (·.key)).Nodup

/-- How members stand while one of them, `m`, is out of the company and has its turn. -/
structure HasTurn (t : Terms σ) (R : σ → σ → Prop) (Goal : Nat → α → Prop)
    (members : List (Member κ σ α)) (k : Nat) (m : Member κ σ α) (ms : List (Member κ σ α))
    (c : Company κ σ α) : Prop where
  fresh : (m :: (c.ready ++ c.outside ++ ms)).filter (k ≤ ·.place) = members.drop k
  silent : ∀ x ∈ c.silent, x.place < k
  opened : ∀ x ∈ m :: (c.live ++ ms), x.place < k → x.program.Sure t R (Goal x.place)
  results : ∀ r ∈ c.results, Goal r.1 r.2
  places : ((m :: (c.live ++ ms)).map (·.place) ++ c.results.map (·.1)).Perm
    (List.range members.length)
  keys : ((m :: (c.live ++ ms)).map (·.key)).Nodup

/-- Whether members have the places in which they stand. -/
def Numbered (members : List (Member κ σ α)) : Prop :=
  ∀ (i : Nat) (m : Member κ σ α), members[i]? = some m → m.place = i

theorem Numbered.le_of_mem_drop (numbered : Numbered members) {k : Nat} {m : Member κ σ α}
    (h : m ∈ members.drop k) : k ≤ m.place := by
  obtain ⟨i, hi⟩ := List.mem_iff_getElem?.mp h
  rw [List.getElem?_drop] at hi
  rw [numbered _ m hi]
  exact Nat.le_add_right k i

namespace Standing

variable {k : Nat} {ms : List (Member κ σ α)} {c : Company κ σ α} {m : Member κ σ α}
  {admits : List κ → κ → Bool}

theorem fresh_key (h : Standing t R Goal members k ms c) :
    ∀ x ∈ c.outside ++ ms, x.key ∉ c.running := by
  intro x hx running
  have keys := h.keys
  rw [Company.live, List.append_assoc, List.map_append, List.nodup_append] at keys
  exact keys.2.2 x.key running x.key (List.mem_map_of_mem hx) rfl

theorem letIn (h : Standing t R Goal members k ms c) (impartial : Impartial admits) :
    Standing t R Goal members k ms (c.letIn admits) := by
  have same : ((c.letIn admits).live ++ ms).Perm (c.live ++ ms) :=
    Company.live_letIn.append_right ms
  have results : (c.letIn admits).results = c.results := by
    unfold Company.letIn
    split <;> rfl
  constructor
  case fresh =>
    have outside := fun x hx => h.fresh_key x (List.mem_append_left ms hx)
    rcases Company.letIn_eq impartial outside with eq | ⟨x, rest, split, eq⟩
    · rw [eq]
      exact h.fresh
    · rw [eq, ← h.fresh, split]
      simp only [List.append_assoc, List.cons_append, List.nil_append]
  case silent =>
    intro x hx
    refine h.silent x ?_
    unfold Company.letIn at hx
    split at hx <;> exact hx
  case opened => exact fun x hx => h.opened x (same.mem_iff.mp hx)
  case results => rw [results]; exact h.results
  case places => rw [results]; exact ((same.map _).append_right _).trans h.places
  case keys => exact (same.map _).nodup_iff.mpr h.keys

theorem ready (h : Standing t R Goal members k ms c) {rest : List (Member κ σ α)}
    (ready : c.ready = m :: rest) : HasTurn t R Goal members k m ms { c with ready := rest } := by
  obtain ⟨fresh, silent, opened, results, places, keys⟩ := h
  simp only [Company.live, ready, List.cons_append] at fresh opened places keys
  exact ⟨fresh, silent, opened, results, places, keys⟩

theorem silentTurn (h : Standing t R Goal members k ms c) {rest : List (Member κ σ α)}
    (ready : c.ready = []) (silent : c.silent = m :: rest) :
    m.place < k ∧ HasTurn t R Goal members k m ms { c with silent := rest } := by
  have old : m.place < k := h.silent m (silent ▸ List.mem_cons_self)
  obtain ⟨fresh, opened', opened, results, places, keys⟩ := h
  simp only [Company.live, ready, silent, List.cons_append, List.nil_append] at fresh opened
  simp only [Company.live, ready, silent, List.cons_append, List.nil_append] at places keys
  refine ⟨old, ?_, fun x hx => ?_, ?_, results, ?_, ?_⟩
  · rw [ready, List.filter_cons_of_neg (by simpa using old)]
    exact fresh
  · exact opened' x (silent ▸ List.mem_cons_of_mem _ hx)
  · simpa only [Company.live, ready, List.nil_append] using opened
  · simpa only [Company.live, ready, List.nil_append] using places
  · simpa only [Company.live, ready, List.nil_append] using keys

/-- The next one to come has its turn when nobody else is to open before. -/
theorem enter (h : Standing t R Goal members k (m :: ms) c) (ready : ∀ x ∈ c.ready, x.place < k)
    (outside : c.outside = []) : HasTurn t R Goal members k m ms c := by
  have moved : (c.live ++ m :: ms).Perm (m :: (c.live ++ ms)) := List.perm_middle
  have nobody : c.ready.filter (k ≤ ·.place) = [] :=
    List.filter_eq_nil_iff.mpr fun x hx => by simpa using ready x hx
  constructor
  case fresh =>
    rw [← h.fresh, outside, List.append_nil, List.filter_append, nobody, List.nil_append,
      List.filter_cons, List.filter_append, nobody, List.nil_append, List.filter_cons]
  case silent => exact h.silent
  case opened => exact fun x hx => h.opened x (moved.mem_iff.mpr hx)
  case results => exact h.results
  case places => exact ((moved.symm.map _).append_right _).trans h.places
  case keys => exact (moved.map _).nodup_iff.mp h.keys

end Standing

namespace HasTurn

variable {k : Nat} {ms : List (Member κ σ α)} {c : Company κ σ α} {m : Member κ σ α}
  {admits : List κ → κ → Bool} {stop : Stop σ α} {s : σ}

/-- How members stand when `m` comes back to go on later. -/
theorem goesOn (h : HasTurn t R Goal members k m ms c) {k' : Nat} {c' : Company κ σ α}
    {p : Program σ α}
    (moved : (c'.live ++ ms).Perm ({ m with program := p } :: (c.live ++ ms)))
    (results : c'.results = c.results)
    (fresh : (c'.ready ++ c'.outside ++ ms).filter (k' ≤ ·.place) = members.drop k')
    (silent : ∀ x ∈ c'.silent, x.place < k')
    (opened : ∀ x ∈ c.live ++ ms, x.place < k' → x.program.Sure t R (Goal x.place))
    (sure : p.Sure t R (Goal m.place)) : Standing t R Goal members k' ms c' := by
  constructor
  case fresh => exact fresh
  case silent => exact silent
  case opened =>
    intro x hx below
    rcases List.mem_cons.mp (moved.mem_iff.mp hx) with rfl | hx
    · exact sure
    · exact opened x hx below
  case results => exact results ▸ h.results
  case places =>
    rw [results]
    exact ((moved.map _).append_right _).trans h.places
  case keys => exact (moved.map _).nodup_iff.mpr h.keys

/-- How members stand after a turn, once the others are known to. -/
theorem standing (h : HasTurn t R Goal members k m ms c) (impartial : Impartial admits) {k' : Nat}
    (fresh : (c.ready ++ c.outside ++ ms).filter (k' ≤ ·.place) = members.drop k')
    (silent : ∀ x ∈ c.silent, x.place < k')
    (opened : ∀ x ∈ c.live ++ ms, x.place < k' → x.program.Sure t R (Goal x.place))
    (old : m.place < k') (sure : stop.Sure t R (Goal m.place)) :
    Standing t R Goal members k' ms (c.after admits m stop) := by
  cases stop with
  | ended a =>
    refine Standing.letIn ⟨fresh, silent, opened, ?_, ?_, (List.nodup_cons.mp h.keys).2⟩ impartial
    · exact List.forall_mem_cons.mpr ⟨sure, h.results⟩
    · exact List.perm_middle.trans h.places
  | gaveWay p =>
    refine h.goesOn (Company.live_after.append_right ms) rfl ?_ silent opened sure
    change ((c.ready ++ [{ m with program := p }]) ++ c.outside ++ ms).filter _ = _
    rw [← fresh]
    simp only [List.append_assoc, List.filter_append, List.filter_cons, List.filter_nil]
    rw [if_neg (by simpa using old), List.nil_append]
  | silence p =>
    refine h.goesOn (Company.live_after.append_right ms) rfl fresh ?_ opened sure
    intro x hx
    rcases List.mem_append.mp hx with hx | hx
    · exact silent x hx
    · obtain rfl := List.mem_singleton.mp hx
      exact old

theorem close (h : HasTurn t R Goal members k m ms c) (impartial : Impartial admits)
    (old : m.place < k) (sure : stop.Sure t R (Goal m.place)) :
    Standing t R Goal members k ms (c.after admits m stop) := by
  refine h.standing impartial ?_ h.silent (fun x hx => h.opened x (List.mem_cons_of_mem _ hx)) old
    sure
  rw [← h.fresh, List.filter_cons_of_neg (by simpa using old)]

/-- A member that has not opened and has its turn is the next one. -/
theorem next (h : HasTurn t R Goal members k m ms c) (new : k ≤ m.place) :
    members[k]? = some m ∧
      (c.ready ++ c.outside ++ ms).filter (k ≤ ·.place) = members.drop (k + 1) := by
  have fresh := h.fresh
  rw [List.filter_cons_of_pos (by simpa using new)] at fresh
  constructor
  · rw [← List.head?_drop, ← fresh]
    rfl
  · rw [← List.tail_drop, ← fresh]
    rfl

theorem opens (h : HasTurn t R Goal members k m ms c) (impartial : Impartial admits)
    (numbered : Numbered members) (new : k ≤ m.place) (sure : stop.Sure t R (Goal m.place)) :
    Standing t R Goal members (k + 1) ms (c.after admits m stop) := by
  obtain ⟨here, rest⟩ := h.next new
  have place := numbered k m here
  refine h.standing impartial ?_ (fun x hx => Nat.lt_succ_of_lt (h.silent x hx)) ?_ (by omega) sure
  · -- those that are left to open are all behind `m`
    have both : (c.ready ++ c.outside ++ ms).filter (k + 1 ≤ ·.place) =
        ((c.ready ++ c.outside ++ ms).filter (k ≤ ·.place)).filter (k + 1 ≤ ·.place) := by
      rw [List.filter_filter]
      refine List.filter_congr fun x _ => ?_
      rw [← Bool.decide_and, decide_eq_decide]
      omega
    rw [both, rest]
    exact List.filter_eq_self.mpr fun x hx => by simpa using numbered.le_of_mem_drop hx
  · intro x hx below
    by_cases same : x.place = k
    · -- no other member has the place of `m`
      have places := (List.nodup_append.mp (h.places.nodup_iff.mpr List.nodup_range)).1
      have other : m.place ∉ (c.live ++ ms).map (·.place) := (List.nodup_cons.mp places).1
      rw [place, ← same] at other
      exact absurd (List.mem_map_of_mem hx) other
    · exact h.opened x (List.mem_cons_of_mem _ hx) (by omega)

end HasTurn

/-- Results that are told for all places in some order, one each, are those of the places. -/
theorem results_of_places {told : List (Nat × α)} {n : Nat}
    (places : (told.map (·.1)).Perm (List.range n)) (goals : ∀ r ∈ told, Goal r.1 r.2) :
    let results := (told.mergeSort fun a b => decide (a.1 ≤ b.1)).map (·.2)
    results.length = n ∧ ∀ i a, results[i]? = some a → Goal i a := by
  intro results
  have same := List.mergeSort_perm told fun a b => decide (a.1 ≤ b.1)
  have sorted : ((told.mergeSort fun a b => decide (a.1 ≤ b.1)).map (·.1)).Pairwise (· ≤ ·) := by
    refine List.pairwise_map.mpr ((List.pairwise_mergeSort ?_ ?_ told).imp fun h => ?_)
    rotate_left 2
    · simpa using h
    · intro a b c hab hbc
      simp only [decide_eq_true_eq] at hab hbc ⊢
      omega
    · intro a b
      simp only [Bool.or_eq_true, decide_eq_true_eq]
      omega
  have range : (told.mergeSort fun a b => decide (a.1 ≤ b.1)).map (·.1) = List.range n :=
    ((same.map _).trans places).eq_of_pairwise (fun _ _ _ _ => Nat.le_antisymm) sorted
      List.pairwise_le_range
  constructor
  · rw [List.length_map, ← List.length_map (f := (·.1)), range, List.length_range]
  · intro i a found
    obtain ⟨r, here, rfl⟩ := Option.map_eq_some_iff.mp (List.getElem?_map .. ▸ found)
    have place : (List.range n)[i]? = some r.1 := by
      rw [← range, List.getElem?_map, here]
      rfl
    obtain ⟨below, at_⟩ := List.getElem?_eq_some_iff.mp place
    rw [List.getElem_range] at at_
    rw [at_]
    exact goals r (same.mem_iff.mp (List.mem_of_getElem? here))

/-- How the members of a company stand while others come: they have opened or are outside, and those
outside wait for a slot. -/
structure Gathering (admits : List κ → κ → Bool) (k : Nat) (ms : List (Member κ σ α))
    (c : Company κ σ α) : Prop where
  ready : ∀ x ∈ c.ready, x.place < k
  coming : ∀ x ∈ ms, k ≤ x.place
  full : c.outside = [] ∨ ∀ key, key ∉ c.running → admits c.running key = false

section Gathering

variable {admits : List κ → κ → Bool} {k : Nat} {m : Member κ σ α} {ms : List (Member κ σ α)}
  {c : Company κ σ α} {stop : Stop σ α}

theorem Standing.nobody_outside (h : Standing t R Goal members k (m :: ms) c)
    (gathering : Gathering admits k (m :: ms) c) (admitted : admits c.running m.key = true) :
    c.outside = [] := by
  refine gathering.full.resolve_right fun full => ?_
  have fresh := h.fresh_key m (List.mem_append_right _ List.mem_cons_self)
  rw [full m.key fresh] at admitted
  cases admitted

theorem HasTurn.gathering (h : HasTurn t R Goal members k m ms c) (numbered : Numbered members)
    (gathering : Gathering admits k (m :: ms) c) (outside : c.outside = []) :
    Gathering admits (k + 1) ms (c.after admits m stop) := by
  obtain ⟨mine, coming⟩ := List.forall_mem_cons.mp gathering.coming
  obtain ⟨here, rest⟩ := h.next mine
  have place := numbered k m here
  constructor
  case ready =>
    intro x hx
    cases stop with
    | ended a =>
      simp only [Company.after, Company.letIn, outside, Company.takeFirst] at hx
      exact Nat.lt_succ_of_lt (gathering.ready x hx)
    | gaveWay p =>
      rcases List.mem_append.mp hx with hx | hx
      · exact Nat.lt_succ_of_lt (gathering.ready x hx)
      · obtain rfl := List.mem_singleton.mp hx
        exact place ▸ Nat.lt_succ_self _
    | silence p => exact Nat.lt_succ_of_lt (gathering.ready x hx)
  case coming =>
    intro x hx
    refine numbered.le_of_mem_drop (rest ▸ List.mem_filter.mpr ⟨List.mem_append_right _ hx, ?_⟩)
    simpa using coming x hx
  case full =>
    left
    cases stop with
    | ended a => simp only [Company.after, Company.letIn, outside, Company.takeFirst]
    | gaveWay p => exact outside
    | silence p => exact outside

theorem Standing.stay (h : Standing t R Goal members k (m :: ms) c) :
    Standing t R Goal members k ms { c with outside := c.outside ++ [m] } := by
  have order : c.ready ++ (c.outside ++ [m]) ++ ms = c.ready ++ c.outside ++ m :: ms := by
    simp only [List.append_assoc, List.cons_append, List.nil_append]
  have same : ({ c with outside := c.outside ++ [m] } : Company κ σ α).live ++ ms =
      c.live ++ m :: ms := by
    simp only [Company.live, List.append_assoc, List.cons_append, List.nil_append]
  constructor
  case fresh => exact order ▸ h.fresh
  case silent => exact h.silent
  case opened => exact same ▸ h.opened
  case results => exact h.results
  case places => exact same ▸ h.places
  case keys => exact same ▸ h.keys

theorem Gathering.stay (h : Gathering admits k (m :: ms) c) (impartial : Impartial admits)
    (fresh : m.key ∉ c.running) (refused : admits c.running m.key = false) :
    Gathering admits k ms { c with outside := c.outside ++ [m] } where
  ready := h.ready
  coming := (List.forall_mem_cons.mp h.coming).2
  full := .inr fun _ others => (impartial _ _ _ others fresh).trans refused

end Gathering

/-- How members stand when turns are over and they go on one after the other. -/
theorem Standing.over {k : Nat} {c : Company κ σ α} (h : Standing t R Goal members k [] c) :
    Standing t R Goal members k c.live ⟨[], [], [], c.results⟩ := by
  obtain ⟨fresh, silent, opened, results, places, keys⟩ := h
  simp only [List.append_nil] at fresh opened places keys
  have nobody : c.silent.filter (k ≤ ·.place) = [] :=
    List.filter_eq_nil_iff.mpr fun x hx => by simpa using silent x hx
  refine ⟨?_, by simp, opened, results, places, keys⟩
  rw [← fresh, Company.live]
  simp only [List.nil_append, List.filter_append, nobody, List.append_nil]

/-- Whether the opening of each member, where `Inv` holds of the number of those before it, leads on
and makes the member sure of its goal. -/
def Opening (t : Terms σ) (R : σ → σ → Prop) (Inv : Nat → σ → Prop) (Goal : Nat → α → Prop)
    (members : List (Member κ σ α)) : Prop :=
  ∀ k m, members[k]? = some m → ∀ s, Inv k s →
    m.program.toStop.Keeps t (fun stop s' => stop.Sure t R (Goal m.place) ∧ Inv (k + 1) s') s

section Turns

variable {admits : List κ → κ → Bool} {k : Nat} {m : Member κ σ α} {ms : List (Member κ σ α)}
  {c : Company κ σ α} {s : σ}

theorem HasTurn.turn (h : HasTurn t R Goal members k m ms c) (impartial : Impartial admits)
    (numbered : Numbered members) (leaves : ∀ k, t.Leaves R (Inv k))
    (opening : Opening t R Inv Goal members) (inv : Inv k s) :
    m.program.toStop.Keeps t (fun stop s' => ∃ k', Inv k' s' ∧
      Standing t R Goal members k' ms (c.after admits m stop)) s := by
  by_cases old : m.place < k
  · have sure := h.opened m List.mem_cons_self old
    exact (sure.toStop (leaves k) inv).mono fun stop s' ⟨sure, inv⟩ =>
      ⟨k, inv, h.close impartial old sure⟩
  · have new : k ≤ m.place := Nat.le_of_not_lt old
    exact (opening k m (h.next new).1 s inv).mono fun stop s' ⟨sure, inv⟩ =>
      ⟨k + 1, inv, h.opens impartial numbered new sure⟩

/-- A member that goes on to its end after turns are over. -/
theorem HasTurn.toEnd {results : List (Nat × α)}
    (h : HasTurn t R Goal members k m ms ⟨[], [], [], results⟩) (impartial : Impartial admits)
    (numbered : Numbered members) (refl : ∀ s, t.rely s s) (leaves : ∀ k, t.Leaves R (Inv k))
    (opening : Opening t R Inv Goal members) (inv : Inv k s) :
    m.program.Keeps t (fun a s' => ∃ k', Inv k' s' ∧
      Standing t R Goal members k' ms ⟨[], [], [], (m.place, a) :: results⟩) s := by
  by_cases old : m.place < k
  · have sure := h.opened m List.mem_cons_self old
    refine (sure.keeps (leaves k) inv).mono fun a s' ⟨goal, inv⟩ => ?_
    have ended : (Stop.ended a : Stop σ α).Sure t R (Goal m.place) := goal
    exact ⟨k, inv, h.close impartial old ended⟩
  · have new : k ≤ m.place := Nat.le_of_not_lt old
    have opened : m.program.Keeps t (fun a s' => Goal m.place a ∧ Inv (k + 1) s') s :=
      .of_toStop refl ((opening k m (h.next new).1 s inv).mono fun stop s' ⟨sure, inv⟩ =>
        sure.keeps (leaves (k + 1)) inv)
    refine opened.mono fun a s' ⟨goal, inv⟩ => ?_
    have ended : (Stop.ended a : Stop σ α).Sure t R (Goal m.place) := goal
    exact ⟨k + 1, inv, h.opens impartial numbered new ended⟩

end Turns

/-- What holds from turn to turn of a company whose members open in order. -/
theorem Company.rule_inOrder {admits : List κ → κ → Bool} (impartial : Impartial admits)
    (numbered : Numbered members) (refl : ∀ s, t.rely s s) (leaves : ∀ k, t.Leaves R (Inv k))
    (opening : Opening t R Inv Goal members) :
    Company.Rule t admits
      (fun ms c s => ∃ k, Inv k s ∧ Standing t R Goal members k ms c ∧
        (ms = [] ∨ Gathering admits k ms c))
      (fun ms results s => ∃ k, Inv k s ∧
        Standing t R Goal members k ms ⟨[], [], [], results⟩) := by
  constructor
  case enter =>
    rintro m ms c s ⟨k, inv, standing, gathering⟩ admitted
    replace gathering := gathering.resolve_left (by simp)
    have outside := standing.nobody_outside gathering admitted
    have turn := standing.enter gathering.ready outside
    have new := gathering.coming m List.mem_cons_self
    refine (opening k m (turn.next new).1 s inv).mono fun stop s' ⟨sure, inv⟩ => ?_
    exact ⟨k + 1, inv, turn.opens impartial numbered new sure,
      .inr (turn.gathering numbered gathering outside)⟩
  case stay =>
    rintro m ms c s ⟨k, inv, standing, gathering⟩ refused
    have fresh := standing.fresh_key m (List.mem_append_right _ List.mem_cons_self)
    exact ⟨k, inv, standing.stay,
      .inr ((gathering.resolve_left (by simp)).stay impartial fresh refused)⟩
  case ready =>
    rintro m rest c s ⟨k, inv, standing, -⟩ ready
    refine ((standing.ready ready).turn impartial numbered leaves opening inv).mono ?_
    rintro stop s' ⟨k', inv, standing⟩
    exact ⟨k', inv, standing, .inl rfl⟩
  case silent =>
    rintro m rest c s ⟨k, inv, standing, -⟩ ready silent
    refine ((standing.silentTurn ready silent).2.turn impartial numbered leaves opening inv).mono ?_
    rintro stop s' ⟨k', inv, standing⟩
    exact ⟨k', inv, standing, .inl rfl⟩
  case close =>
    rintro c s ⟨k, inv, standing, -⟩
    exact ⟨k, inv, standing.over⟩
  case last =>
    rintro m ms results s ⟨k, inv, standing⟩
    have turn := standing.enter (by simp) rfl
    refine (turn.toEnd impartial numbered refl leaves opening inv).mono ?_
    rintro a s' ⟨k', inv, h⟩
    have same : (results ++ [(m.place, a)]).Perm ((m.place, a) :: results) :=
      List.perm_append_comm
    exact ⟨k', inv, h.fresh, h.silent, h.opened, fun r hr => h.results r (same.mem_iff.mp hr),
      ((same.map _).append_left _).trans h.places, h.keys⟩

section Members

variable {programs : List (κ × Program σ α)}

theorem getElem?_membersOf {i : Nat} {m : Member κ σ α} (found : (membersOf programs)[i]? = some m) :
    m.place = i ∧ programs[i]? = some (m.key, m.program) := by
  obtain ⟨x, here, rfl⟩ := Option.map_eq_some_iff.mp (List.getElem?_map .. ▸ found)
  obtain ⟨y, there, rfl⟩ := Option.map_eq_some_iff.mp (List.getElem?_zipIdx .. ▸ here)
  exact ⟨Nat.zero_add i, there⟩

theorem numbered_membersOf : Numbered (membersOf programs) :=
  fun _ _ found => (getElem?_membersOf found).1

@[simp] theorem length_membersOf : (membersOf programs).length = programs.length := by
  simp [membersOf]

theorem places_membersOf : (membersOf programs).map (·.place) = List.range programs.length := by
  refine List.ext_getElem (by simp) fun i hi _ => ?_
  rw [List.getElem_map, List.getElem_range]
  exact numbered_membersOf i _ (List.getElem?_eq_getElem _)

theorem keys_membersOf : (membersOf programs).map (·.key) = programs.map (·.1) := by
  simp only [membersOf, List.map_map]
  conv => rhs; rw [← List.zipIdx_map_fst 0 programs, List.map_map]
  rfl

/-- How members stand before any of them has opened. -/
theorem standing_membersOf (keys : (programs.map (·.1)).Nodup) :
    Standing t R Goal (membersOf programs) 0 (membersOf programs) .empty := by
  constructor
  case fresh => simp [Company.empty]
  case silent => simp [Company.empty]
  case opened => exact fun x _ below => absurd below (Nat.not_lt_zero _)
  case results => simp [Company.empty]
  case places => simp [Company.empty, Company.live, places_membersOf]
  case keys => simpa [Company.empty, Company.live, keys_membersOf] using keys

end Members

variable (Inv Goal) in
/-- **Companies open in order.** Each member finds `Inv` of the number of those before it, if the
opening of each leads from there to the next and makes the member sure of its goal. -/
theorem Program.Keeps.inOrder {admits : List κ → κ → Bool} {stops : Nat}
    {programs : List (κ × Program σ α)} (impartial : Impartial admits)
    (keys : (programs.map (·.1)).Nodup) (refl : ∀ s, t.rely s s)
    (leaves : ∀ k, t.Leaves R (Inv k))
    (opens : ∀ i x, programs[i]? = some x → ∀ s, Inv i s →
      x.2.toStop.Keeps t (fun stop s' => stop.Sure t R (Goal i) ∧ Inv (i + 1) s') s)
    {s : σ} (start : Inv 0 s) :
    (Program.together admits stops programs).Keeps t
      (fun results _ => results.length = programs.length ∧
        ∀ i a, results[i]? = some a → Goal i a) s := by
  have opening : Opening t R Inv Goal (membersOf programs) := by
    intro k m found s inv
    obtain ⟨place, program⟩ := getElem?_membersOf found
    rw [place]
    exact opens k _ program s inv
  have gathering : Gathering admits 0 (membersOf programs) .empty :=
    ⟨by simp [Company.empty], fun _ _ => Nat.zero_le _, .inl rfl⟩
  have rule := Company.rule_inOrder impartial numbered_membersOf refl leaves opening
  refine (rule.together ⟨0, start, standing_membersOf keys, .inr gathering⟩).mono ?_
  rintro results s' ⟨told, ⟨k, -, h⟩, rfl⟩
  rw [← length_membersOf]
  exact results_of_places (by simpa [Company.live] using h.places) h.results

end InOrder
end SignalDesk
