import SignalDesk.Proofs.Results
import SignalDesk.Proofs.Store.Spending

namespace SignalDesk

/-- Whether an activation is one of a row in a store, with the script of the row. -/
def Activation.Listed (a : Activation) (s : Store) : Prop :=
  ∃ row ∈ s.activations, ∃ script, s.script? row.script = some script ∧
    Store.activationOf row script = .ok a

theorem Activation.Listed.spent {a : Activation} {s s' : Store} (h : a.Listed s)
    (spent : s.Spent s') : a.Listed s' := by
  obtain ⟨row, listed, script, found, made⟩ := h
  refine ⟨row, spent.activations ▸ listed, script, ?_, made⟩
  rw [← found]
  simp only [Store.script?, spent.scripts]

namespace Store

variable {s : Store} {script timeframe : String}

theorem activationOf_ok {row : ActivationRow} {script : SavedScript} {a : Activation}
    (h : activationOf row script = .ok a) :
    a.user = .text row.user ∧ a.script = .text row.script ∧ a.timeframe = .text row.timeframe ∧
      a.content = script.content := by
  obtain ⟨overrides, -, rfl⟩ := map_ok.mp h
  exact ⟨rfl, rfl, rfl, rfl⟩

theorem activations?_rows {as : List Activation}
    (h : s.activations? script timeframe = .ok as) :
    List.Forall₂ (fun row a => activationOf row.1 row.2 = .ok a) (s.activeRows script timeframe)
      as :=
  mapM_ok h

/-- Whether an active row with a script that exists is one of a script and a timeframe; an empty
text is any. -/
structure Live (s : Store) (script timeframe : String) (row : ActivationRow) : Prop where
  listed : row ∈ s.activations
  active : row.active = true
  ofScript : script = "" ∨ row.script = script
  ofTimeframe : timeframe = "" ∨ row.timeframe = timeframe
  known : ∃ saved, s.script? row.script = some saved

/-- Whether the documents of these rows can be used. -/
def Readable (s : Store) (script timeframe : String) : Prop :=
  ∀ row, s.Live script timeframe row → ∃ o, Overrides.ofText (some row.overrides) = .ok o

theorem wants_iff {wanted text : String} :
    wants wanted text = true ↔ wanted = "" ∨ text = wanted := by
  simp [wants]

theorem mem_activeRows_iff {row : ActivationRow × SavedScript} :
    row ∈ s.activeRows script timeframe ↔
      s.Live script timeframe row.1 ∧ s.script? row.1.script = some row.2 := by
  constructor
  · intro member
    obtain ⟨a, wanted, found⟩ := List.mem_filterMap.mp member
    obtain ⟨saved, known, rfl⟩ := Option.map_eq_some_iff.mp found
    obtain ⟨listed, wanted⟩ := List.mem_filter.mp wanted
    obtain ⟨⟨active, ofScript⟩, ofTimeframe⟩ : (a.active = true ∧ wants script a.script = true) ∧
        wants timeframe a.timeframe = true := by simpa only [Bool.and_eq_true] using wanted
    exact ⟨⟨listed, active, wants_iff.mp ofScript, wants_iff.mp ofTimeframe, saved, known⟩, known⟩
  · rintro ⟨live, known⟩
    refine List.mem_filterMap.mpr ⟨row.1, List.mem_filter.mpr ⟨live.listed, ?_⟩, by rw [known]; rfl⟩
    simp only [live.active, wants_iff.mpr live.ofScript, wants_iff.mpr live.ofTimeframe,
      Bool.and_self]

/-- The list can be made exactly where the documents on it can be used. -/
theorem activations?_ok_iff :
    (∃ as, s.activations? script timeframe = .ok as) ↔ s.Readable script timeframe := by
  constructor
  · rintro ⟨as, rows⟩ row live
    obtain ⟨saved, known⟩ := live.known
    obtain ⟨a, -, made⟩ := exists_of_forall₂ (activations?_rows rows).flip (row, saved)
      (mem_activeRows_iff.mpr ⟨live, known⟩)
    obtain ⟨o, read, -⟩ := map_ok.mp made
    exact ⟨o, read⟩
  · intro readable
    refine exists_mapM_ok fun row member => ?_
    obtain ⟨o, read⟩ := readable row.1 (mem_activeRows_iff.mp member).1
    exact ⟨_, map_ok.mpr ⟨o, read, rfl⟩⟩

theorem activations?_listed {as : List Activation}
    (h : s.activations? script timeframe = .ok as) : ∀ a ∈ as, a.Listed s := by
  intro a ha
  obtain ⟨⟨row, saved⟩, active, made⟩ := exists_of_forall₂ (activations?_rows h) a ha
  obtain ⟨live, found⟩ := mem_activeRows_iff.mp active
  exact ⟨row, live.listed, saved, found, made⟩

/-- Whether the documents of the active activations can be used. -/
def Legible (s : Store) : Prop :=
  ∀ row ∈ s.activations, row.active = true → ∃ o, Overrides.ofText (some row.overrides) = .ok o

/-- Whether nobody has activated a script twice on one timeframe. -/
def ActivatedOnce (s : Store) : Prop :=
  (s.activations.map fun a => (a.user, a.script, a.timeframe)).Nodup

instance (s : Store) : Decidable s.ActivatedOnce := inferInstanceAs (Decidable (List.Nodup _))

theorem Legible.activations? (h : s.Legible) (script timeframe : String) :
    ∃ as, s.activations? script timeframe = .ok as :=
  activations?_ok_iff.mpr fun row live => h row live.listed live.active

/-- A document that cannot be used spoils every list that its activation is on. -/
theorem activations?_spoilt {row : ActivationRow × SavedScript} {fault : OverridesFault}
    (wanted : row ∈ s.activeRows script timeframe)
    (illegible : Overrides.ofText (some row.1.overrides) = .error fault) :
    ∃ fault, s.activations? script timeframe = .error fault := by
  cases rows : s.activations? script timeframe with
  | ok as =>
    obtain ⟨o, read⟩ := activations?_ok_iff.mp ⟨as, rows⟩ row.1 (mem_activeRows_iff.mp wanted).1
    cases illegible.symm.trans read
  | error fault => exact ⟨fault, rfl⟩

/-- The active rows come from rows of their own, in the same order. -/
theorem activeRows_sublist (s : Store) (script timeframe : String) :
    ((s.activeRows script timeframe).map (·.1)).Sublist s.activations := by
  have known : ∀ rows : List ActivationRow,
      ((rows.filterMap fun a => (s.script? a.script).map (a, ·)).map (·.1)).Sublist rows := by
    intro rows
    induction rows with
    | nil => exact .slnil
    | cons a rows ih =>
      cases found : s.script? a.script with
      | none =>
        simp only [List.filterMap_cons, found, Option.map_none]
        exact ih.cons a
      | some saved =>
        simp only [List.filterMap_cons, found, Option.map_some, List.map_cons]
        exact ih.cons_cons a
  exact (known _).trans List.filter_sublist

end Store
end SignalDesk
