import Mathlib.Logic.Function.Basic
import SignalDesk.Proofs.Network.Moves
import SignalDesk.Proofs.Network.Order

namespace SignalDesk

variable {κ σ α : Type} {rely : σ → σ → Prop}

/-- Terms of programs whose others do no more than `rely` says. -/
def Terms.amid (rely : σ → σ → Prop) : Terms σ :=
  ⟨fun _ _ => True, rely, fun _ => True, fun _ _ => True⟩

/-- What is left of a program that came to a stop. -/
def Stop.rest : Stop σ α → Program σ α
  | .ended a => .done a
  | .gaveWay p => p
  | .silence p => p

/-- What is left of programs, by their places, and whether `I` holds of it and the state before and
after each of their moves. -/
structure Interleaves (rely : σ → σ → Prop) (n : Nat) (I : (Nat → Program σ α) → σ → Prop) :
    Prop where
  move : ∀ {rest s i p s'}, I rest s → i < n → Program.Move (rest i, s) (p, s') →
    I (Function.update rest i p) s'
  idle : ∀ {rest s s'}, I rest s → rely s s' → I rest s'

namespace Interleaves

variable {n i : Nat} {I : (Nat → Program σ α) → σ → Prop} {rest : Nat → Program σ α}
  {p : Program σ α} {s : σ}

/-- A turn of a program is a sequence of its moves. -/
theorem toStop (keeps : Interleaves rely n I) (below : i < n) (h : I rest s) (mine : rest i = p) :
    p.toStop.Keeps (.amid rely) (fun stop s' => I (Function.update rest i stop.rest) s') s := by
  induction p generalizing rest s with
  | done a =>
    change I (Function.update rest i (.done a)) s
    rwa [← mine, Function.update_eq_self]
  | turn p ih => exact keeps.move h below (by rw [mine]; exact .turn p s)
  | pause p ih =>
    intro s' later
    have moved := keeps.move (keeps.idle h later) below (by rw [mine]; exact .wake p s')
    simpa only [Function.update_idem] using ih moved (Function.update_self ..)
  | act f k ih =>
    refine ⟨trivial, ?_⟩
    have moved := keeps.move h below (by rw [mine]; exact .act f k s)
    simpa only [Function.update_idem] using ih s moved (Function.update_self ..)
  | ask r k ih =>
    simp only [Program.toStop]
    refine ⟨trivial, fun reply _ s' later => ?_⟩
    have moved := keeps.move (keeps.idle h later) below (by rw [mine]; exact .hear r k reply s')
    cases reply with
    | silence => exact moved
    | _ => simpa only [Function.update_idem] using ih _ moved (Function.update_self ..)

/-- So is what is left of it. -/
theorem toEnd (keeps : Interleaves rely n I) (below : i < n) (h : I rest s) (mine : rest i = p) :
    p.Keeps (.amid rely) (fun a s' => I (Function.update rest i (.done a)) s') s := by
  induction p generalizing rest s with
  | done a =>
    change I (Function.update rest i (.done a)) s
    rwa [← mine, Function.update_eq_self]
  | turn p ih =>
    intro s' later
    have moved := keeps.move (keeps.idle h later) below (by rw [mine]; exact .turn p s')
    simpa only [Function.update_idem] using ih moved (Function.update_self ..)
  | pause p ih =>
    intro s' later
    have moved := keeps.move (keeps.idle h later) below (by rw [mine]; exact .wake p s')
    simpa only [Function.update_idem] using ih moved (Function.update_self ..)
  | act f k ih =>
    refine ⟨trivial, ?_⟩
    have moved := keeps.move h below (by rw [mine]; exact .act f k s)
    simpa only [Function.update_idem] using ih s moved (Function.update_self ..)
  | ask r k ih =>
    refine ⟨trivial, fun reply _ s' later => ?_⟩
    have moved := keeps.move (keeps.idle h later) below (by rw [mine]; exact .hear r k reply s')
    simpa only [Function.update_idem] using ih _ moved (Function.update_self ..)

end Interleaves

/-- Whether `rest` is what is left of the members of a company that have not ended, and the results
of the others. -/
structure Tracks (n : Nat) (rest : Nat → Program σ α) (live : List (Member κ σ α))
    (told : List (Nat × α)) : Prop where
  members : ∀ m ∈ live, rest m.place = m.program
  results : ∀ r ∈ told, rest r.1 = .done r.2
  places : (live.map (·.place) ++ told.map (·.1)).Perm (List.range n)

namespace Tracks

variable {n : Nat} {rest : Nat → Program σ α} {live : List (Member κ σ α)} {m : Member κ σ α}
  {told : List (Nat × α)}

theorem below (h : Tracks n rest (m :: live) told) : m.place < n :=
  List.mem_range.mp (h.places.mem_iff.mp (by simp))

/-- Nobody else has the place of a member. -/
theorem others (h : Tracks n rest (m :: live) told) :
    (∀ x ∈ live, x.place ≠ m.place) ∧ ∀ r ∈ told, r.1 ≠ m.place := by
  have nodup := h.places.nodup_iff.mpr List.nodup_range
  rw [List.map_cons, List.cons_append, List.nodup_cons] at nodup
  constructor
  · exact fun x hx same => nodup.1 (List.mem_append_left _ (same ▸ List.mem_map_of_mem hx))
  · exact fun r hr same => nodup.1 (List.mem_append_right _ (same ▸ List.mem_map_of_mem hr))

theorem turned (h : Tracks n rest (m :: live) told) (stop : Stop σ α) :
    Tracks n (Function.update rest m.place stop.rest) (stop.left m ++ live)
      (stop.told m ++ told) := by
  obtain ⟨apart, apart'⟩ := h.others
  have members : ∀ x ∈ live, Function.update rest m.place stop.rest x.place = x.program :=
    fun x hx => (Function.update_of_ne (apart x hx) ..).trans
      (h.members x (List.mem_cons_of_mem _ hx))
  have results : ∀ r ∈ told, Function.update rest m.place stop.rest r.1 = .done r.2 :=
    fun r hr => (Function.update_of_ne (apart' r hr) ..).trans (h.results r hr)
  cases stop with
  | ended a =>
    refine ⟨members, List.forall_mem_cons.mpr ⟨Function.update_self .., results⟩, ?_⟩
    exact List.perm_middle.trans h.places
  | gaveWay p =>
    exact ⟨List.forall_mem_cons.mpr ⟨Function.update_self .., members⟩, results, h.places⟩
  | silence p =>
    exact ⟨List.forall_mem_cons.mpr ⟨Function.update_self .., members⟩, results, h.places⟩

theorem perm {live' : List (Member κ σ α)} (h : Tracks n rest live told)
    (same : live'.Perm live) : Tracks n rest live' told where
  members m hm := h.members m (same.mem_iff.mp hm)
  results := h.results
  places := ((same.map _).append_right _).trans h.places

/-- The result of a member that has come to its end is told after the others. -/
theorem ended (h : Tracks n rest (m :: live) told) (a : α) :
    Tracks n (Function.update rest m.place (.done a)) live (told ++ [(m.place, a)]) := by
  have turned := h.turned (.ended a)
  have same : (told ++ [(m.place, a)]).Perm ((m.place, a) :: told) :=
    List.perm_append_singleton _ _
  constructor
  case members => exact turned.members
  case results => exact fun r hr => turned.results r (same.mem_iff.mp hr)
  case places => exact ((same.map _).append_left _).trans turned.places

theorem kept {I : (Nat → Program σ α) → σ → Prop} (keeps : Interleaves rely n I) :
    Company.Kept (κ := κ) (.amid rely) fun live told s => ∃ rest, I rest s ∧ Tracks n rest live told
    where
  perm := by
    rintro live live' told s ⟨rest, h, tracks⟩ same
    exact ⟨rest, h, tracks.perm same⟩
  turn := by
    rintro m live told s ⟨rest, h, tracks⟩
    have mine := tracks.members m List.mem_cons_self
    exact (keeps.toStop tracks.below h mine).mono fun stop s' h => ⟨_, h, tracks.turned stop⟩
  last := by
    rintro m live told s ⟨rest, h, tracks⟩
    have mine := tracks.members m List.mem_cons_self
    exact (keeps.toEnd tracks.below h mine).mono fun a s' h => ⟨_, h, tracks.ended a⟩

/-- Nobody has ended before the first move. -/
theorem membersOf {programs : List (κ × Program σ α)}
    (begins : ∀ i x, programs[i]? = some x → rest i = x.2) :
    Tracks programs.length rest (membersOf programs) [] := by
  constructor
  case members =>
    intro m hm
    obtain ⟨i, found⟩ := List.mem_iff_getElem?.mp hm
    obtain ⟨rfl, here⟩ := getElem?_membersOf found
    exact begins _ _ here
  case results => simp
  case places => simp [places_membersOf]

end Tracks

/-- **Companies interleave.** When programs side by side have all ended, what each of their moves
keeps holds of their results. -/
theorem Program.Keeps.interleaved {I : (Nat → Program σ α) → σ → Prop} {admits : List κ → κ → Bool}
    {stops n : Nat} {programs : List (κ × Program σ α)} {rest : Nat → Program σ α} {s : σ}
    (number : programs.length = n) (keeps : Interleaves rely n I) (start : I rest s)
    (begins : ∀ i x, programs[i]? = some x → rest i = x.2) :
    (Program.together admits stops programs).Keeps (.amid rely)
      (fun results s' => ∃ rest, I rest s' ∧ results.length = n ∧
        ∀ (i : Nat) a, results[i]? = some a → rest i = .done a) s := by
  subst number
  have tracks : Tracks programs.length rest (membersOf programs) [] := .membersOf begins
  have rule := (Tracks.kept (κ := κ) keeps).rule admits
  refine (rule.together ⟨rest, start, by simpa [Company.empty, Company.live] using tracks⟩).mono ?_
  rintro results s' ⟨told, ⟨rest, h, tracks⟩, rfl⟩
  have places : (told.map (·.1)).Perm (List.range programs.length) := by
    simpa using tracks.places
  have ended : ∀ r ∈ told, (fun i a => rest i = Program.done a) r.1 r.2 := tracks.results
  exact ⟨rest, h, results_of_places places ended⟩

end SignalDesk
