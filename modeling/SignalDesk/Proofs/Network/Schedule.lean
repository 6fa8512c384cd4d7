import SignalDesk.Proofs.Network.Interleaving

/-!
# Schedules

Programs beside each other in surroundings that are told in full: which of them moves next says all
that happens (`Program.scheduled`). Programs that are run side by side come to their ends by such a
schedule, from the world in which they start to the one that they leave, and each result is what the
program in its place has ended with (`Program.together_scheduled`). What is made of the results
afterwards changes nothing in that (`Program.ComesTo.of_labelled`).
-/

namespace SignalDesk

theorem Tracks.here {κ σ α : Type} {n : Nat} {rest : Nat → Program σ α} {m : Member κ σ α}
    {live : List (Member κ σ α)} {told : List (Nat × α)}
    (tracks : Tracks n rest (m :: live) told) :
    ((List.range n).map rest)[m.place]? = some m.program := by
  rw [List.getElem?_map, List.getElem?_range tracks.below, Option.map_some,
    tracks.members m List.mem_cons_self]

namespace Program

variable {κ σ α β ν : Type} {around : Surroundings σ ν} {p : Program σ α} {w : σ × ν} {i n : Nat}

/-- One move of a program in its surroundings; one that has ended stays as it is. -/
def forward (around : Surroundings σ ν) : Program σ α → σ × ν → Program σ α × (σ × ν)
  | done a, w => (done a, w)
  | ask r k, w => (k (around.reply r w).1, (around.reply r w).2)
  | pause p, w => (p, around.second w)
  | turn p, w => (p, w)
  | act f k, w => (k w.1, (f w.1, w.2))

/-- One move of the program in a place, if there is one. -/
def moveAt (around : Surroundings σ ν) (x : List (Program σ α) × (σ × ν)) (i : Nat) :
    List (Program σ α) × (σ × ν) :=
  match x.1[i]? with
  | some p => (x.1.set i (p.forward around x.2).1, (p.forward around x.2).2)
  | none => x

/-- What is left of programs, and the world, after moves of the places of a schedule. -/
def scheduled (around : Surroundings σ ν) (schedule : List Nat)
    (x : List (Program σ α) × (σ × ν)) : List (Program σ α) × (σ × ν) :=
  schedule.foldl (moveAt around) x

/-- Whether programs come from one world to another by some schedule. -/
def ComesTo (around : Surroundings σ ν) (x y : List (Program σ α) × (σ × ν)) : Prop :=
  ∃ schedule, scheduled around schedule x = y

section Moves

variable {ps : List (Program σ α)} {x y z : List (Program σ α) × (σ × ν)}

theorem ComesTo.refl (x : List (Program σ α) × (σ × ν)) : ComesTo around x x := ⟨[], rfl⟩

theorem ComesTo.trans (first : ComesTo around x y) (second : ComesTo around y z) :
    ComesTo around x z := by
  obtain ⟨schedule, rfl⟩ := first
  obtain ⟨more, rfl⟩ := second
  exact ⟨schedule ++ more, List.foldl_append⟩

theorem ComesTo.move (here : ps[i]? = some p) :
    ComesTo around (ps, w) (ps.set i (p.forward around w).1, (p.forward around w).2) := by
  refine ⟨[i], ?_⟩
  simp only [scheduled, List.foldl_cons, List.foldl_nil, moveAt, here]

/-- A move in a place, and whatever moves there after it. -/
theorem ComesTo.first {q : Program σ α} {v : σ × ν} (here : ps[i]? = some p)
    (rest : ∀ ps' : List (Program σ α), ps'[i]? = some (p.forward around w).1 →
      ComesTo around (ps', (p.forward around w).2) (ps'.set i q, v)) :
    ComesTo around (ps, w) (ps.set i q, v) := by
  have below : i < ps.length := (List.getElem?_eq_some_iff.mp here).1
  have later := rest (ps.set i (p.forward around w).1) (by simp [below])
  rw [List.set_set] at later
  exact (ComesTo.move here).trans later

theorem set_getElem? (here : ps[i]? = some p) : ps.set i p = ps := by
  obtain ⟨below, rfl⟩ := List.getElem?_eq_some_iff.mp here
  exact List.set_getElem_self below

/-- A turn of a program is a sequence of its moves. -/
theorem comesTo_toStop (here : ps[i]? = some p) :
    ComesTo around (ps, w)
      (ps.set i (p.toStop.run around w).1.rest, (p.toStop.run around w).2) := by
  induction p generalizing ps w with
  | done a =>
    change ComesTo around (ps, w) (ps.set i (.done a), w)
    rw [set_getElem? here]
    exact .refl _
  | turn p ih => exact .move here
  | pause p ih => exact .first here fun ps' there => ih there
  | act f k ih => exact .first here fun ps' there => ih _ there
  | ask r k ih =>
    simp only [toStop, run]
    cases reply : (around.reply r w).1 with
    | silence =>
      have moved : ComesTo around (ps, w) _ := .move here
      simp only [forward, reply] at moved
      exact moved
    | answer status body =>
      apply ComesTo.first here
      intro ps' there
      simp only [forward, reply] at there ⊢
      exact ih _ there
    | fault f =>
      apply ComesTo.first here
      intro ps' there
      simp only [forward, reply] at there ⊢
      exact ih _ there

/-- So is what is left of it. -/
theorem comesTo_run (here : ps[i]? = some p) :
    ComesTo around (ps, w) (ps.set i (.done (p.run around w).1), (p.run around w).2) := by
  induction p generalizing ps w with
  | done a =>
    change ComesTo around (ps, w) (ps.set i (.done a), w)
    rw [set_getElem? here]
    exact .refl _
  | turn p ih => exact .first here fun ps' there => ih there
  | pause p ih => exact .first here fun ps' there => ih there
  | act f k ih => exact .first here fun ps' there => ih _ there
  | ask r k ih => exact .first here fun ps' there => ih _ there

theorem Within.forward {P : Request → Prop} {R : σ → σ → Prop} {Q : α → Prop}
    (h : p.Within P R Q) : (p.forward around w).1.Within P R Q := by
  cases p with
  | done a => exact h
  | ask r k => exact h.2 _
  | pause p => exact h
  | turn p => exact h
  | act f k => exact (h _).2

theorem length_moveAt : (moveAt around x i).1.length = x.1.length := by
  unfold moveAt
  split
  · exact List.length_set
  · rfl

theorem length_scheduled (schedule : List Nat) :
    (scheduled around schedule x).1.length = x.1.length := by
  induction schedule generalizing x with
  | nil => rfl
  | cons i schedule ih => exact ih.trans length_moveAt

/-- What each program keeps to by itself, it keeps to by every schedule. -/
theorem within_scheduled {P : Request → Prop} {R : σ → σ → Prop} {Q : Nat → α → Prop}
    (within : ∀ (i : Nat) (p : Program σ α), x.1[i]? = some p → p.Within P R (Q i))
    (schedule : List Nat) (i : Nat) (p : Program σ α)
    (left : (scheduled around schedule x).1[i]? = some p) : p.Within P R (Q i) := by
  induction schedule generalizing x with
  | nil => exact within i p left
  | cons k schedule ih =>
    refine ih (fun j q there => ?_) left
    cases here : x.1[k]? with
    | none =>
      simp only [moveAt, here] at there
      exact within j q there
    | some p =>
      simp only [moveAt, here] at there
      by_cases same : k = j
      · subst same
        have below : k < x.1.length := (List.getElem?_eq_some_iff.mp here).1
        rw [List.getElem?_set_self below] at there
        exact Option.some.inj there ▸ (within k p here).forward
      · rw [List.getElem?_set_ne same] at there
        exact within j q there

end Moves

/-- What holds at the end of a run goes over from programs to one after the other. -/
theorem sequential_run (around : Surroundings σ ν) :
    Judgement.Sequential (σ := σ) (τ := σ × ν) fun p Q w =>
      Q (p.run around w).1 (p.run around w).2 := by
  constructor
  case done => exact fun ha => ha
  case bind =>
    intro α β p g Q Q' w h hg
    rw [run_bind]
    exact hg _ _ h

/-- Whether what is left of `n` programs has come about by a schedule, and is that of the members of
a company that have not ended, and the results of the others. -/
def Comes (around : Surroundings σ ν) (n : Nat) (x : List (Program σ α) × (σ × ν))
    (live : List (Member κ σ α)) (told : List (Nat × α)) (w : σ × ν) : Prop :=
  ∃ rest, ComesTo around x ((List.range n).map rest, w) ∧ Tracks n rest live told

/-- What is in each place of a list says what the list is. -/
theorem map_range_eq {γ δ : Type} {l : List γ} {f : Nat → δ} {g : γ → δ}
    (own : ∀ i b, l[i]? = some b → f i = g b) : (List.range l.length).map f = l.map g := by
  apply List.ext_getElem
  · simp
  · intro i here there
    have below : i < l.length := by simpa using there
    simp only [List.getElem_map, List.getElem_range]
    exact own i _ (List.getElem?_eq_getElem below)

theorem set_map_range (rest : Nat → Program σ α) (p : Program σ α) :
    ((List.range n).map rest).set i p = (List.range n).map (Function.update rest i p) := by
  apply List.ext_getElem
  · simp
  · intro j here there
    rw [List.getElem_set]
    by_cases same : i = j
    · subst same
      simp
    · simp [same, Function.update_of_ne (Ne.symm same)]

theorem comes_kept (x : List (Program σ α) × (σ × ν)) :
    Company.KeptBy (κ := κ) (fun p Q w => Q (p.run around w).1 (p.run around w).2)
      (Comes around n x) := by
  constructor
  case perm =>
    rintro live live' told w ⟨rest, comes, tracks⟩ same
    exact ⟨rest, comes, tracks.perm same⟩
  case turn =>
    rintro m live told w ⟨rest, comes, tracks⟩
    have moved : ComesTo around (_, w) _ := comesTo_toStop tracks.here
    rw [set_map_range] at moved
    exact ⟨_, comes.trans moved, tracks.turned _⟩
  case last =>
    rintro m live told w ⟨rest, comes, tracks⟩
    have moved : ComesTo around (_, w) _ := comesTo_run tracks.here
    rw [set_map_range] at moved
    exact ⟨_, comes.trans moved, tracks.ended _⟩

/-- **Schedules.** Programs that are run side by side come by some schedule to their ends, and to the
world that they leave. The result in each place is what the program there has ended with. -/
theorem together_scheduled [Nonempty α] (around : Surroundings σ ν) (admits : List κ → κ → Bool)
    (stops : Nat) (programs : List (κ × Program σ α)) (w : σ × ν) :
    let ended := (together admits stops programs).run around w
    ComesTo around (programs.map (·.2), w) (ended.1.map .done, ended.2) := by
  intro ended
  obtain ⟨a⟩ := ‹Nonempty α›
  let begins (i : Nat) : Program σ α := (programs[i]?.map (·.2)).getD (.done a)
  have begun : ∀ i x, programs[i]? = some x → begins i = x.2 := by
    intro i x here
    simp [begins, here]
  have start : (List.range programs.length).map begins = programs.map (·.2) := map_range_eq begun
  have kept : Company.KeptBy (κ := κ) _
      (Comes around programs.length (programs.map (·.2), w)) := comes_kept _
  have initial : Comes around programs.length (programs.map (·.2), w) (membersOf programs) [] w :=
    ⟨begins, start ▸ .refl _, .membersOf begun⟩
  have gathered : ∃ told, Comes around programs.length (programs.map (·.2), w)
      ([] : List (Member κ σ α)) told ended.2 ∧
        ended.1 = (told.mergeSort fun a b => decide (a.1 ≤ b.1)).map (·.2) :=
    (kept.rule (sequential_run around) admits).together (sequential_run around)
      (by simpa [Company.empty, Company.live] using initial)
  obtain ⟨told, ⟨rest, comes, tracks⟩, results⟩ := gathered
  have places : (told.map (·.1)).Perm (List.range programs.length) := by
    simpa using tracks.places
  obtain ⟨length, own⟩ : ended.1.length = programs.length ∧
      ∀ (i : Nat) a, ended.1[i]? = some a → rest i = .done a := by
    rw [results]
    exact results_of_places places tracks.results
  rw [← length, map_range_eq own] at comes
  exact comes

section Labels

variable {ι : Type} {labels : List ι} {make : ι → α → β} {ps : List (Program σ α)}

/-- Programs whose results something is made of, each by its label. -/
def labelled (make : ι → α → β) (labels : List ι) (ps : List (Program σ α)) :
    List (Program σ β) :=
  List.zipWith (fun l p => p.map (make l)) labels ps

theorem forward_map (f : α → β) (p : Program σ α) (w : σ × ν) :
    (p.map f).forward around w = ((p.forward around w).1.map f, (p.forward around w).2) := by
  cases p <;> rfl

theorem labelled_set {l : ι} (here : labels[i]? = some l) :
    labelled make labels (ps.set i p) = (labelled make labels ps).set i (p.map (make l)) := by
  obtain ⟨known, rfl⟩ := List.getElem?_eq_some_iff.mp here
  apply List.ext_getElem?
  intro j
  by_cases same : i = j
  · subst same
    by_cases below : i < ps.length <;> simp [labelled, known, below]
  · simp [labelled, List.getElem?_zipWith, List.getElem?_set_ne same]

/-- What is made of results hinders no move. -/
theorem moveAt_labelled (number : ps.length = labels.length) :
    moveAt around (labelled make labels ps, w) i =
      (labelled make labels (moveAt around (ps, w) i).1, (moveAt around (ps, w) i).2) := by
  cases here : ps[i]? with
  | none =>
    have none : (labelled make labels ps)[i]? = none := by
      simp [labelled, List.getElem?_zipWith, here]
    simp only [moveAt, none, here]
  | some p =>
    have below : i < labels.length := number ▸ (List.getElem?_eq_some_iff.mp here).1
    have label : labels[i]? = some labels[i] := List.getElem?_eq_getElem below
    have there : (labelled make labels ps)[i]? = some (p.map (make labels[i])) := by
      simp only [labelled, List.getElem?_zipWith, label, here]
    simp only [moveAt, there, here, forward_map, labelled_set label]

theorem scheduled_labelled (number : ps.length = labels.length) (schedule : List Nat) :
    scheduled around schedule (labelled make labels ps, w) =
      (labelled make labels (scheduled around schedule (ps, w)).1,
        (scheduled around schedule (ps, w)).2) := by
  induction schedule generalizing ps w with
  | nil => rfl
  | cons i schedule ih =>
    have next : (moveAt around (ps, w) i).1.length = ps.length := length_moveAt
    simp only [scheduled, List.foldl_cons, moveAt_labelled number]
    exact ih (next.trans number)

theorem ended_of_labelled {results : List β} (number : ps.length = labels.length)
    (ended : labelled make labels ps = results.map .done) :
    ∃ endings : List α, ps = endings.map .done ∧ results = List.zipWith make labels endings := by
  induction ps generalizing labels results with
  | nil =>
    obtain rfl := List.eq_nil_of_length_eq_zero number.symm
    obtain rfl := List.map_eq_nil_iff.mp ended.symm
    exact ⟨[], rfl, rfl⟩
  | cons p ps ih =>
    obtain ⟨l, labels, rfl⟩ := List.exists_cons_of_length_eq_add_one number.symm
    cases results with
    | nil => cases ended
    | cons b results =>
      obtain ⟨mine, others⟩ := List.cons.inj ended
      obtain ⟨endings, rfl, rfl⟩ := ih (Nat.succ.inj number) others
      cases p with
      | done a =>
        obtain rfl : make l a = b := Program.done.inj mine
        exact ⟨a :: endings, rfl, rfl⟩
      | _ => cases mine

/-- Of programs whose results something is made of, each comes by itself to what this is made of. -/
theorem ComesTo.of_labelled {results : List β} {v : σ × ν} (number : ps.length = labels.length)
    (comes : ComesTo around (labelled make labels ps, w) (results.map .done, v)) :
    ∃ endings, ComesTo around (ps, w) (endings.map .done, v) ∧
      results = List.zipWith make labels endings := by
  obtain ⟨schedule, ended⟩ := comes
  rw [scheduled_labelled number] at ended
  obtain ⟨left, rfl⟩ := Prod.mk.inj ended
  have length : (scheduled around schedule (ps, w)).1.length = labels.length := by
    rw [length_scheduled, number]
  obtain ⟨endings, same, rfl⟩ := ended_of_labelled length left
  exact ⟨endings, ⟨schedule, Prod.ext same rfl⟩, rfl⟩

end Labels

end Program
end SignalDesk
