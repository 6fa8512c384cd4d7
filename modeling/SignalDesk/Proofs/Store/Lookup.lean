import SignalDesk.Proofs.Store.Listing

/-!
# Looking up activations

Which activations are found under a user, a script and a timeframe: those of the rows that are
active and whose scripts exist, as long as their documents can be used
(`Store.activations_looked_up`). An empty text leaves the script or the timeframe open, and what is
found then has a key of its own (`Store.empty_text_finds_another`).
-/

namespace SignalDesk
namespace Store

variable {s : Store} {script timeframe : String}

/-- The active rows stand in the order of their numbers. -/
theorem activeRows_ordered (ordered : (s.activations.map (·.id)).Pairwise (· < ·)) :
    ((s.activeRows script timeframe).map (·.1.id)).Pairwise (· < ·) := by
  have within := (s.activeRows_sublist script timeframe).map (·.id)
  rw [List.map_map] at within
  exact ordered.sublist within

/-- What is found for a user is the first activation of theirs on the list. -/
theorem activation?_listed {user : String} {as : List Activation}
    (rows : s.activations? script timeframe = .ok as) :
    s.activation? (.text user) script timeframe = .ok (as.find? (·.user == .text user)) := by
  simp only [activation?, rows, Except.map]

/-- A user has an activation on the list exactly where they have a row for it. -/
theorem found_iff {user : String} {as : List Activation}
    (rows : s.activations? script timeframe = .ok as) :
    (as.find? (·.user == .text user)).isSome = true ↔
      ∃ row, s.Live script timeframe row ∧ row.user = user := by
  have made := activations?_rows rows
  rw [List.find?_isSome]
  constructor
  · rintro ⟨a, member, named⟩
    obtain ⟨⟨row, saved⟩, active, made⟩ := exists_of_forall₂ made a member
    obtain ⟨ofUser, -⟩ := activationOf_ok made
    rw [ofUser, beq_iff_eq] at named
    exact ⟨row, (mem_activeRows_iff.mp active).1, Label.text.inj named⟩
  · rintro ⟨row, live, rfl⟩
    obtain ⟨saved, known⟩ := live.known
    obtain ⟨a, member, made⟩ := exists_of_forall₂ made.flip (row, saved)
      (mem_activeRows_iff.mpr ⟨live, known⟩)
    exact ⟨a, member, beq_iff_eq.mpr (activationOf_ok made).1⟩

/-- **Lookups give the live rows.** Where the documents of the active rows of a script and a
timeframe can be used, their list has the activation of each of these rows whose script exists, once
and in the order of the numbers, and nothing else; a lookup finds an activation exactly where one of
them is the user's, and the one found is the user's, of the script and the timeframe that are named.
Where a document cannot be used, neither answers. -/
theorem activations_looked_up (s : Store)
    (ordered : (s.activations.map (·.id)).Pairwise (· < ·)) (user script timeframe : String) :
    (s.Readable script timeframe → ∃ rows as found,
      s.activations? script timeframe = .ok as ∧
        List.Forall₂ (fun row a => activationOf row.1 row.2 = .ok a) rows as ∧
        (∀ row saved, (row, saved) ∈ rows ↔
          s.Live script timeframe row ∧ s.script? row.script = some saved) ∧
        (rows.map (·.1.id)).Pairwise (· < ·) ∧
      s.activation? (.text user) script timeframe = .ok found ∧
        (found.isSome = true ↔ ∃ row, s.Live script timeframe row ∧ row.user = user) ∧
        ∀ a ∈ found, a ∈ as ∧ a.user = .text user ∧
          (script ≠ "" → a.script = .text script) ∧
          (timeframe ≠ "" → a.timeframe = .text timeframe)) ∧
    (¬ s.Readable script timeframe → ∃ fault,
      s.activations? script timeframe = .error fault ∧
        s.activation? (.text user) script timeframe = .error fault) := by
  constructor
  · intro readable
    obtain ⟨as, listed⟩ := activations?_ok_iff.mpr readable
    refine ⟨s.activeRows script timeframe, as, _, listed, activations?_rows listed,
      fun row saved => mem_activeRows_iff, activeRows_ordered ordered, activation?_listed listed,
      found_iff listed, fun a found => ?_⟩
    have member : a ∈ as := List.mem_of_find?_eq_some found
    have named : a.user = .text user := by simpa using List.find?_some found
    obtain ⟨row, active, made⟩ := exists_of_forall₂ (activations?_rows listed) a member
    have live := (mem_activeRows_iff.mp active).1
    obtain ⟨-, ofScript, ofTimeframe, -⟩ := activationOf_ok made
    exact ⟨member, named, fun wanted => by rw [ofScript, live.ofScript.resolve_left wanted],
      fun wanted => by rw [ofTimeframe, live.ofTimeframe.resolve_left wanted]⟩
  · intro unreadable
    cases listed : s.activations? script timeframe with
    | ok as => exact absurd (activations?_ok_iff.mp ⟨as, listed⟩) unreadable
    | error fault => exact ⟨fault, rfl, by simp only [activation?, listed, Except.map]⟩

namespace LookupSample

/-- Ann trades the same script on two timeframes. -/
def hourly : ActivationRow := ⟨1, "ann", "cross", "1h", true, "\x7b\x7d", ""⟩

def daily : ActivationRow := ⟨2, "ann", "cross", "1d", true, "\x7b\x7d", ""⟩

def saved : SavedScript :=
  ⟨some "cross", "ann", "Cross", "", "BTCUSDT", "[]", "2024-01-01T00:00:00+00:00",
    "2024-01-01T00:00:00+00:00"⟩

def store : Store := { Store.empty with scripts := [saved], activations := [hourly, daily] }

end LookupSample

open LookupSample in
theorem sample_looked_up :
    (store.activations.map (·.id)).Pairwise (· < ·) ∧
      ∃ found, store.activation? (.text "ann") "cross" "1d" = .ok found ∧
        (found.isSome = true ↔ ∃ row, store.Live "cross" "1d" row ∧ row.user = "ann") := by
  have ordered : (store.activations.map (·.id)).Pairwise (· < ·) := by decide
  have readable : store.Readable "cross" "1d" := activations?_ok_iff.mp ⟨_, rfl⟩
  obtain ⟨-, -, found, -, -, -, -, answers, exactly, -⟩ :=
    (activations_looked_up store ordered "ann" "cross" "1d").1 readable
  exact ⟨ordered, found, answers, exactly⟩

open LookupSample in
/-- No row is of the empty script, and yet one is found under it, and all are listed. -/
theorem empty_text_finds_another :
    (¬ ∃ row ∈ store.activations, row.script = "") ∧
      (∃ a, store.activation? (.text "ann") "" "1d" = .ok (some a) ∧ a.script = .text "cross") ∧
      ∃ a, store.activations? "" "1d" = .ok [a] ∧ a.script = .text "cross" :=
  ⟨by decide, ⟨_, rfl, rfl⟩, _, rfl, rfl⟩

end Store
end SignalDesk
