import SignalDesk.Network.Together
import SignalDesk.Proofs.Network.Within

namespace SignalDesk

variable {κ σ α : Type}

/-- A property of programs, and of the results that they end with. -/
abbrev Program.Property (σ : Type) := ∀ {α : Type}, (α → Prop) → Program σ α → Prop

/-- Whether a program that came to a stop has a property from there on. -/
def Stop.Has (C : Program.Property σ) (Q : α → Prop) : Stop σ α → Prop
  | .ended a => Q a
  | .gaveWay p => C Q p
  | .silence p => C Q p

/-- Whether programs have a property when their parts have it. -/
structure Program.Composes (C : Program.Property σ) : Prop where
  done : ∀ {α : Type} {Q : α → Prop} {a : α}, Q a → C Q (.done a)
  bind : ∀ {α β : Type} {Q : α → Prop} {Q' : β → Prop} {p : Program σ α} {g : α → Program σ β},
    C Q p → (∀ a, Q a → C Q' (g a)) → C Q' (p.bind g)
  toStop : ∀ {α : Type} {Q : α → Prop} {p : Program σ α}, C Q p → C (Stop.Has C Q) p.toStop

variable {C : Program.Property σ} {Q : α → Prop}

/-- Whether all members have a property, and the results so far are such as it says. -/
structure Company.Has (C : Program.Property σ) (Q : α → Prop) (c : Company κ σ α) : Prop where
  ready : ∀ m ∈ c.ready, C Q m.program
  silent : ∀ m ∈ c.silent, C Q m.program
  outside : ∀ m ∈ c.outside, C Q m.program
  results : ∀ r ∈ c.results, Q r.2

namespace Company.Has

theorem takeFirst {p : Member κ σ α → Bool} {ms rest : List (Member κ σ α)} {m : Member κ σ α}
    (h : Company.takeFirst p ms = some (m, rest)) : m ∈ ms ∧ ∀ x ∈ rest, x ∈ ms := by
  induction ms generalizing m rest with
  | nil => simp [Company.takeFirst] at h
  | cons n ns ih =>
    simp only [Company.takeFirst] at h
    split at h
    · obtain ⟨rfl, rfl⟩ := by simpa using h
      exact ⟨List.mem_cons_self, fun x hx => List.mem_cons_of_mem _ hx⟩
    · obtain ⟨⟨m', rest'⟩, h', heq⟩ := Option.map_eq_some_iff.mp h
      obtain ⟨rfl, rfl⟩ := by simpa using heq
      obtain ⟨hm, hrest⟩ := ih h'
      exact ⟨List.mem_cons_of_mem _ hm,
        List.forall_mem_cons.mpr
          ⟨List.mem_cons_self, fun x hx => List.mem_cons_of_mem _ (hrest x hx)⟩⟩

theorem letIn {admits : List κ → κ → Bool} {c : Company κ σ α} (h : c.Has C Q) :
    (c.letIn admits).Has C Q := by
  unfold Company.letIn
  split
  · rename_i m outside found
    obtain ⟨hm, hrest⟩ := takeFirst found
    exact ⟨List.forall_mem_append.mpr ⟨h.ready, by simpa using h.outside m hm⟩, h.silent,
      fun x hx => h.outside x (hrest x hx), h.results⟩
  · exact h

theorem after {admits : List κ → κ → Bool} {c : Company κ σ α} {m : Member κ σ α}
    {stop : Stop σ α} (h : c.Has C Q) (hs : stop.Has C Q) : (c.after admits m stop).Has C Q := by
  cases stop with
  | ended a =>
    exact letIn ⟨h.ready, h.silent, h.outside, List.forall_mem_cons.mpr ⟨hs, h.results⟩⟩
  | gaveWay p =>
    exact ⟨List.forall_mem_append.mpr ⟨h.ready, List.forall_mem_singleton.mpr hs⟩, h.silent,
      h.outside, h.results⟩
  | silence p =>
    exact ⟨h.ready, List.forall_mem_append.mpr ⟨h.silent, List.forall_mem_singleton.mpr hs⟩,
      h.outside, h.results⟩

end Company.Has

namespace Program.Composes

section Parts

variable (composes : Composes C)

include composes

theorem mono {Q' : α → Prop} {p : Program σ α} (h : C Q p) (hQ : ∀ a, Q a → Q' a) : C Q' p := by
  have ended := composes.bind h fun a ha => composes.done (hQ a ha)
  rwa [Program.bind_done] at ended

theorem map {β : Type} {Q' : β → Prop} {p : Program σ α} {f : α → β} (h : C Q p)
    (hf : ∀ a, Q a → Q' (f a)) : C Q' (p.map f) :=
  composes.bind h fun a ha => composes.done (hf a ha)

theorem inTurn {ps : List (Program σ α)} (h : ∀ p ∈ ps, C Q p) :
    C (fun results => ∀ a ∈ results, Q a) (Program.inTurn ps) := by
  induction ps with
  | nil => exact composes.done (by simp)
  | cons p ps ih =>
    obtain ⟨hp, hps⟩ := List.forall_mem_cons.mp h
    exact composes.bind hp fun a ha => composes.map (ih hps) fun results hr =>
      List.forall_mem_cons.mpr ⟨ha, hr⟩

theorem gather {admits : List κ → κ → Bool} {c : Company κ σ α} {ms : List (Member κ σ α)}
    (h : c.Has C Q) (hms : ∀ m ∈ ms, C Q m.program) : C (Company.Has C Q) (c.gather admits ms) := by
  induction ms generalizing c with
  | nil => exact composes.done h
  | cons m ms ih =>
    obtain ⟨hm, hms⟩ := List.forall_mem_cons.mp hms
    simp only [Company.gather]
    split
    · exact composes.bind (composes.toStop hm) fun stop hs => ih (h.after hs) hms
    · exact ih ⟨h.ready, h.silent, List.forall_mem_append.mpr ⟨h.outside, by simpa using hm⟩,
        h.results⟩ hms

theorem goOn {admits : List κ → κ → Bool} {stops : Nat} {c : Company κ σ α} (h : c.Has C Q) :
    C (Company.Has C Q) (Company.goOn admits stops c) := by
  induction stops generalizing c with
  | zero => exact composes.done h
  | succ stops ih =>
    simp only [Company.goOn]
    split
    · rename_i m rest _ ready
      obtain ⟨hm, hrest⟩ := List.forall_mem_cons.mp (ready ▸ h.ready)
      exact composes.bind (composes.toStop hm) fun stop hs =>
        ih (Company.Has.after ⟨hrest, h.silent, h.outside, h.results⟩ hs)
    · rename_i m rest _ silent
      obtain ⟨hm, hrest⟩ := List.forall_mem_cons.mp (silent ▸ h.silent)
      exact composes.bind (composes.toStop hm) fun stop hs =>
        ih (Company.Has.after ⟨h.ready, hrest, h.outside, h.results⟩ hs)
    · exact composes.done h

theorem finish {c : Company κ σ α} (h : c.Has C Q) :
    C (fun results => ∀ a ∈ results, Q a) c.finish := by
  have rest : ∀ p ∈ (c.ready ++ c.silent ++ c.outside).map fun m => m.program.map (m.place, ·),
      C (fun r : Nat × α => Q r.2) p := by
    simp only [List.mem_map, List.mem_append]
    rintro p ⟨m, (hm | hm) | hm, rfl⟩
    · exact composes.map (h.ready m hm) fun _ ha => ha
    · exact composes.map (h.silent m hm) fun _ ha => ha
    · exact composes.map (h.outside m hm) fun _ ha => ha
  refine composes.map (composes.inTurn rest) fun results hr a ha => ?_
  obtain ⟨r, hmem, rfl⟩ := List.mem_map.mp ha
  rcases List.mem_append.mp (List.mem_mergeSort.mp hmem) with old | new
  · exact h.results r old
  · exact hr r new

end Parts

/-- Programs side by side have what each of them has, when it goes over to what is composed. -/
theorem together (composes : Composes C) {admits : List κ → κ → Bool} {stops : Nat}
    {programs : List (κ × Program σ α)} (h : ∀ x ∈ programs, C Q x.2) :
    C (fun results => ∀ a ∈ results, Q a) (Program.together admits stops programs) := by
  have members : ∀ m ∈ programs.zipIdx.map fun x => (⟨x.2, x.1.1, x.1.2⟩ : Member κ σ α),
      C Q m.program := by
    intro m hm
    obtain ⟨x, hx, rfl⟩ := List.mem_map.mp hm
    exact h x.1 (List.fst_mem_of_mem_zipIdx hx)
  have start : (Company.empty : Company κ σ α).Has C Q := by
    constructor <;> simp [Company.empty]
  exact composes.bind (composes.bind (composes.gather start members) fun _ hc => composes.goOn hc)
    fun _ hc => composes.finish hc

end Program.Composes

namespace Program.Within

variable {P : Request → Prop} {R : σ → σ → Prop}

theorem toStop {p : Program σ α} (h : p.Within P R Q) :
    p.toStop.Within P R (Stop.Has (Within P R) Q) := by
  induction p with
  | done a => exact h
  | ask r k ih =>
    simp only [Program.toStop]
    refine ⟨h.1, fun reply => ?_⟩
    cases reply with
    | silence => exact h.2 .silence
    | answer status body => exact ih _ (h.2 _)
    | fault f => exact ih _ (h.2 _)
  | pause p ih => exact ih h
  | turn p ih => exact h
  | act f k ih => exact fun s => ⟨(h s).1, ih s (h s).2⟩

theorem composes (P : Request → Prop) (R : σ → σ → Prop) : Composes (Within P R) :=
  ⟨fun ha => ha, Within.bind, Within.toStop⟩

end Program.Within
end SignalDesk
