import SignalDesk.Exchange.Refusal
import SignalDesk.Proofs.Text.Search

namespace SignalDesk

namespace Json

variable {needle : String}

/-- What the text of an item holds, the text of its list holds. -/
theorem contains_shownItems {v : Json} {items : List Json} (mem : v ∈ items)
    (h : Text.contains v.shown needle = true) :
    Text.contains (shownItems items) needle = true := by
  induction items with
  | nil => cases mem
  | cons w items ih =>
    cases items with
    | nil =>
      rw [List.mem_singleton] at mem
      subst mem
      exact h
    | cons x items =>
      simp only [shownItems]
      rcases List.mem_cons.mp mem with rfl | later
      · exact Text.contains_append_left _ (Text.contains_append_left _ h)
      · exact Text.contains_append_right _ (ih later)

/-- What the text of a name holds, the text of its object holds. -/
theorem contains_shownFields {field : Text × Json} {fields : List (Text × Json)}
    (mem : field ∈ fields) (h : Text.contains field.1.shown needle = true) :
    Text.contains (shownFields fields) needle = true := by
  induction fields with
  | nil => cases mem
  | cons first fields ih =>
    obtain ⟨name, v⟩ := first
    cases fields with
    | nil =>
      rw [List.mem_singleton] at mem
      subst mem
      exact Text.contains_append_left _ (Text.contains_append_left _ h)
    | cons second fields =>
      simp only [shownFields]
      rcases List.mem_cons.mp mem with rfl | later
      · exact Text.contains_append_left _ (Text.contains_append_left _
          (Text.contains_append_left _ (Text.contains_append_left _ h)))
      · exact Text.contains_append_right _ (ih later)

end Json

namespace Refusal

theorem marksKey_iff (s : String) :
    marksKey s = true ↔ ∃ m ∈ keyMarkers, Text.contains s m = true := by
  simp only [marksKey, List.any_eq_true, Text.holds]

/-- No marker is changed by quoting it. -/
theorem contains_quoted {m : String} (h : m ∈ keyMarkers) :
    Text.contains (Text.quoted m) m = true := by
  have all : ∀ m ∈ keyMarkers, Text.contains (Text.quoted m) m = true := by decide +kernel
  exact all m h

/-- A message that points at the key still does once it is a text. -/
theorem marksKey_asText {message : Json} (h : hasMarker message = .ok true) :
    marksKey message.asText = true := by
  cases message with
  | text s =>
    simp only [hasMarker, Except.ok.injEq] at h
    exact h
  | list items =>
    simp only [hasMarker, Except.ok.injEq, List.any_eq_true] at h
    obtain ⟨m, marker, v, mem, same⟩ := h
    have known : v = .text m := by
      cases v with
      | text t =>
        simp only [isText, beq_iff_eq] at same
        rw [same]
      | _ => cases same
    have shows : Text.contains v.shown m = true := by
      rw [known, Json.shown]
      exact contains_quoted marker
    have told : (Json.list items).asText = .whole ("[" ++ Json.shownItems items ++ "]") := by
      simp only [Json.asText, Json.shown]
    rw [told, marksKey_iff]
    exact ⟨m, marker, Text.contains_append_left _
      (Text.contains_append_right _ (Json.contains_shownItems mem shows))⟩
  | object fields =>
    simp only [hasMarker, Except.ok.injEq, List.any_eq_true, beq_iff_eq] at h
    obtain ⟨m, marker, field, mem, named⟩ := h
    have shows : Text.contains field.1.shown m = true := by
      rw [named]
      exact contains_quoted marker
    have told : (Json.object fields).asText =
        .whole ("\x7b" ++ Json.shownFields fields ++ "\x7d") := by
      simp only [Json.asText, Json.shown]
    rw [told, marksKey_iff]
    exact ⟨m, marker, Text.contains_append_left _
      (Text.contains_append_right _ (Json.contains_shownFields mem shows))⟩
  | _ =>
    simp only [hasMarker] at h
    split at h <;> cases h

end Refusal

namespace OrderRecord

/-- Whether a record tells of a refusal that points at the key. -/
def IsMarked (r : OrderRecord) : Prop :=
  r.failed = true ∧ ∃ s, r.error = .text s ∧ Refusal.marksKey s = true

theorem IsMarked.keyRefused {r : OrderRecord} (h : r.IsMarked) : r.keyRefused = .ok true := by
  obtain ⟨failed, s, told, marks⟩ := h
  simp only [OrderRecord.keyRefused, failed, if_true, told, Refusal.hasMarker, marks]

theorem allRefused_of_marked {records : List OrderRecord} (h : ∀ r ∈ records, r.IsMarked) :
    allRefused records = .ok true := by
  induction records with
  | nil => rfl
  | cons r records ih =>
    obtain ⟨mine, others⟩ := List.forall_mem_cons.mp h
    simp only [allRefused, mine.keyRefused, Except.bind, if_true]
    exact ih others

/-- As many records as are looked at make a warning when all of them are marked. -/
theorem warning?_of_marked {records : List OrderRecord} (h : ∀ r ∈ records, r.IsMarked) :
    warning? records.length records = .ok (some (warning records.length)) := by
  have all : first records.length records = records := by simp [first]
  unfold warning?
  simp only [all, Int.lt_irrefl, if_false, allRefused_of_marked h, Except.map, if_true]

end OrderRecord
end SignalDesk
