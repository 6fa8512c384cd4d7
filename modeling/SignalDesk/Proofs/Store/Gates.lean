import SignalDesk.Store.Scripts

namespace SignalDesk

/-- A call that turns a gate, and the time that it does so. -/
structure GateCall where
  user : String
  script : String
  enabled : Bool
  millis : Int
deriving DecidableEq, Repr

/-- Whether a call turns the gate of a user for a script on. -/
def GateCall.enables (user script : String) (c : GateCall) : Bool :=
  c.enabled && c.user == user && c.script == script

/-- When the gate of a user for a script was last turned on. -/
def lastEnabled (calls : List GateCall) (user script : String) : Option Int :=
  (calls.filter (·.enables user script)).getLast?.map (·.millis)

section Calls

variable {calls : List GateCall} {c : GateCall} {user script : String}

theorem lastEnabled_enables (h : c.enables user script = true) :
    lastEnabled (calls ++ [c]) user script = some c.millis := by
  simp [lastEnabled, List.filter_append, h]

theorem lastEnabled_other (h : c.enables user script = false) :
    lastEnabled (calls ++ [c]) user script = lastEnabled calls user script := by
  simp [lastEnabled, List.filter_append, h]

theorem mem_of_lastEnabled {ms : Int} (h : lastEnabled calls user script = some ms) :
    ∃ c ∈ calls, c.enabled = true ∧ c.millis = ms := by
  obtain ⟨c, last, rfl⟩ := Option.map_eq_some_iff.mp h
  obtain ⟨member, enables⟩ := List.mem_filter.mp (List.mem_of_getLast? last)
  simp only [GateCall.enables, Bool.and_eq_true] at enables
  exact ⟨c, member, enables.1.1, rfl⟩

end Calls

namespace Store

theorem mem_upsert {α : Type} {p : α → Bool} {update : α → α} {row r : α} {rows : List α}
    (h : r ∈ upsert p update row rows) :
    (∃ old ∈ rows, p old = true ∧ r = update old) ∨ (r ∈ rows ∧ p r = false) ∨ r = row := by
  simp only [upsert] at h
  split at h
  · obtain ⟨old, member, rfl⟩ := List.mem_map.mp h
    by_cases hit : p old = true
    · rw [if_pos hit]
      exact .inl ⟨old, member, hit, rfl⟩
    · rw [if_neg hit]
      exact .inr (.inl ⟨member, Bool.eq_false_iff.mpr hit⟩)
  · rename_i none
    rcases List.mem_append.mp h with old | new
    · refine .inr (.inl ⟨old, Bool.eq_false_iff.mpr fun hit => none ?_⟩)
      exact List.any_eq_true.mpr ⟨r, old, hit⟩
    · exact .inr (.inr (List.mem_singleton.mp new))

/-- An entry that is not sought is not found in place of another. -/
theorem find?_upsert {α : Type} {p q : α → Bool} {update : α → α} {row : α} {rows : List α}
    (old : ∀ r, p r = true → q r = false) (updated : ∀ r, p r = true → q (update r) = false)
    (new : q row = false) : (upsert p update row rows).find? q = rows.find? q := by
  have kept : (rows.map fun r => if p r then update r else r).find? q = rows.find? q := by
    induction rows with
    | nil => rfl
    | cons r rows ih =>
      rw [List.map_cons, List.find?_cons, List.find?_cons, ih]
      by_cases hit : p r = true
      · rw [if_pos hit, updated r hit, old r hit]
      · rw [if_neg hit]
  simp only [upsert]
  split
  · exact kept
  · rw [List.find?_append, List.find?_singleton, new]
    simp

/-- The store after a call that turns a gate. -/
def turned (s : Store) (c : GateCall) : Store :=
  s.setGate c.user c.script c.enabled (Stamp.ofMillis c.millis)

theorem turned_gates {s s' : Store} (c : GateCall) (h : s'.gates = s.gates) :
    (s'.turned c).gates = (s.turned c).gates := by
  simp only [turned, setGate, h]

/-- A call leaves the gates of other users and scripts alone. -/
theorem gate?_turned {s : Store} {c : GateCall} {user script : String}
    (other : ¬(c.user = user ∧ c.script = script)) :
    (s.turned c).gate? user script = s.gate? user script := by
  have apart : ∀ r : GateRow, isGate c.user c.script r = true → isGate user script r = false := by
    intro r hit
    simp only [isGate, Bool.and_eq_true, beq_iff_eq] at hit
    simpa [isGate, hit] using other
  refine congrArg (Option.map _) (find?_upsert apart (fun r hit => ?_) ?_)
  · exact apart _ hit
  · exact apart _ (by simp [isGate])

/-- Whether every gate that is on has the stamp of the last of `calls` that turned it on. -/
def Follows (s : Store) (calls : List GateCall) : Prop :=
  ∀ row ∈ s.gates, row.gate.enabled = true →
    ∃ ms, lastEnabled calls row.user row.script = some ms ∧
      row.gate.startedAt = some (Stamp.ofMillis ms)

variable {s s' : Store} {calls : List GateCall} {c : GateCall}

theorem Follows.of_gates (h : s.Follows calls) (gates : s'.gates = s.gates) : s'.Follows calls := by
  rwa [Follows, gates]

/-- **Gates follow the calls that turn them.** -/
theorem Follows.turned (h : s.Follows calls) : (s.turned c).Follows (calls ++ [c]) := by
  intro row member on
  rcases mem_upsert member with ⟨old, -, hit, rfl⟩ | ⟨old, missed⟩ | rfl
  · -- the gate was there: it is on only if this call turns it on, which writes the stamp
    simp only [isGate, Bool.and_eq_true, beq_iff_eq] at hit
    obtain ⟨user, script⟩ := hit
    cases enables : c.enabled with
    | false => simp [enables] at on
    | true =>
      have mine : c.enables old.user old.script = true := by
        simp [GateCall.enables, enables, user, script]
      exact ⟨c.millis, lastEnabled_enables mine, by simp⟩
  · -- the gate of another user or script
    have other : c.enables row.user row.script = false := by
      apply Bool.eq_false_iff.mpr
      intro mine
      simp only [GateCall.enables, Bool.and_eq_true, beq_iff_eq] at mine
      simp [isGate, mine] at missed
    obtain ⟨ms, last, stamp⟩ := h row old on
    exact ⟨ms, (lastEnabled_other other).trans last, stamp⟩
  · -- the gate is new
    cases enables : c.enabled with
    | false => simp [enables] at on
    | true =>
      have mine : c.enables c.user c.script = true := by simp [GateCall.enables, enables]
      exact ⟨c.millis, lastEnabled_enables mine, by simp⟩

/-- The gate that is found for a user and a script is one of the rows. -/
theorem mem_of_gate? {user script : String} {g : Gate} (h : s.gate? user script = some g) :
    ∃ row ∈ s.gates, row.user = user ∧ row.script = script ∧ row.gate = g := by
  obtain ⟨row, found, rfl⟩ := Option.map_eq_some_iff.mp h
  have hit := List.find?_some found
  simp only [isGate, Bool.and_eq_true, beq_iff_eq] at hit
  exact ⟨row, List.mem_of_find?_eq_some found, hit.1, hit.2, rfl⟩

end Store
end SignalDesk
