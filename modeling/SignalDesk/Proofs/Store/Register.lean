import SignalDesk.Proofs.Store.Gates
import SignalDesk.Proofs.Store.Listing

/-!
# Activations and the calls that turn them

A call turns the activation of a user, for a script on a timeframe, on or off, and the row stays
either way. However often activations were turned, one that is on has been turned on by its last
call, and every row is of a user who has activated the script at some time (`Store.Registers`); only
activations that are on are listed (`Store.activations?_active`).
-/

namespace SignalDesk

/-- A call that turns an activation on or off. -/
structure ActivationCall where
  user : String
  script : String
  timeframe : String
  activates : Bool
deriving DecidableEq, Repr

/-- Whether a call is for the activation of a user, for a script on a timeframe. -/
def ActivationCall.concerns (user script timeframe : String) (c : ActivationCall) : Bool :=
  c.user == user && c.script == script && c.timeframe == timeframe

/-- Whether the last call for an activation turned it on. -/
def lastActivated (calls : List ActivationCall) (user script timeframe : String) : Bool :=
  (calls.filter (·.concerns user script timeframe)).getLast?.any (·.activates)

/-- Whether a user has activated a script at some time. -/
def HasActivated (calls : List ActivationCall) (user script : String) : Prop :=
  ∃ c ∈ calls, c.activates = true ∧ c.user = user ∧ c.script = script

/-- Whether the activations of a user for a script were turned off after all calls that turned them
on, for each timeframe that the user had activated the script on. -/
def Withdrawn (calls : List ActivationCall) (user script : String) : Prop :=
  ∀ c ∈ calls, c.activates = true → c.user = user → c.script = script →
    lastActivated calls user script c.timeframe = false

instance (calls : List ActivationCall) (user script : String) :
    Decidable (HasActivated calls user script) :=
  inferInstanceAs (Decidable (∃ c ∈ calls, _))

instance (calls : List ActivationCall) (user script : String) :
    Decidable (Withdrawn calls user script) :=
  inferInstanceAs (Decidable (∀ c ∈ calls, _))

section Calls

variable {calls : List ActivationCall} {c : ActivationCall} {user script timeframe : String}

theorem ActivationCall.concerns_iff : c.concerns user script timeframe = true ↔
    c.user = user ∧ c.script = script ∧ c.timeframe = timeframe := by
  simp only [concerns, Bool.and_eq_true, beq_iff_eq, and_assoc]

theorem lastActivated_concerned (h : c.concerns user script timeframe = true) :
    lastActivated (calls ++ [c]) user script timeframe = c.activates := by
  simp [lastActivated, List.filter_append, h]

theorem lastActivated_other (h : c.concerns user script timeframe = false) :
    lastActivated (calls ++ [c]) user script timeframe =
      lastActivated calls user script timeframe := by
  simp [lastActivated, List.filter_append, h]

theorem HasActivated.append (h : HasActivated calls user script) :
    HasActivated (calls ++ [c]) user script := by
  obtain ⟨earlier, called, rest⟩ := h
  exact ⟨earlier, List.mem_append_left _ called, rest⟩

theorem mem_of_lastActivated (h : lastActivated calls user script timeframe = true) :
    ∃ c ∈ calls, c.activates = true ∧ c.concerns user script timeframe = true := by
  obtain ⟨c, last, activates⟩ := Option.any_eq_true _ _ |>.mp h
  obtain ⟨called, mine⟩ := List.mem_filter.mp (List.mem_of_getLast? last)
  exact ⟨c, called, activates, mine⟩

/-- Who has withdrawn from a script has no activation for it that was turned on last. -/
theorem Withdrawn.not_lastActivated (h : Withdrawn calls user script) (timeframe : String) :
    lastActivated calls user script timeframe = false := by
  refine Bool.eq_false_iff.mpr fun last => ?_
  obtain ⟨c, called, activates, mine⟩ := mem_of_lastActivated last
  obtain ⟨isUser, isScript, rfl⟩ := ActivationCall.concerns_iff.mp mine
  rw [h c called activates isUser isScript] at last
  cases last

end Calls

/-- Whether the row of an activation keeps to `calls`: it is on only if its last call turned it on,
and it is of a user who has activated the script. -/
structure ActivationRow.Keeps (row : ActivationRow) (calls : List ActivationCall) : Prop where
  on : row.active = true → lastActivated calls row.user row.script row.timeframe = true
  activated : HasActivated calls row.user row.script

section Rows

variable {row : ActivationRow} {calls : List ActivationCall} {user script timeframe : String}
  {activates : Bool}

/-- The row of the activation that a call turns. -/
theorem ActivationRow.Keeps.turned (mine : Store.isActivation user script timeframe row = true)
    (turned : row.active = activates)
    (activated : activates = true ∨ HasActivated calls row.user row.script) :
    row.Keeps (calls ++ [⟨user, script, timeframe, activates⟩]) := by
  simp only [Store.isActivation, Bool.and_eq_true, beq_iff_eq] at mine
  obtain ⟨⟨rfl, rfl⟩, rfl⟩ := mine
  constructor
  · intro on
    rw [lastActivated_concerned (ActivationCall.concerns_iff.mpr ⟨rfl, rfl, rfl⟩)]
    exact turned.symm.trans on
  · rcases activated with rfl | before
    · exact ⟨_, List.mem_append_right _ List.mem_cons_self, rfl, rfl, rfl⟩
    · exact before.append

/-- The row of an activation that a call does not turn. -/
theorem ActivationRow.Keeps.other (h : row.Keeps calls)
    (other : Store.isActivation user script timeframe row = false) :
    row.Keeps (calls ++ [⟨user, script, timeframe, activates⟩]) := by
  refine ⟨fun on => ?_, h.activated.append⟩
  rw [lastActivated_other]
  · exact h.on on
  · refine Bool.eq_false_iff.mpr fun mine => ?_
    obtain ⟨rfl, rfl, rfl⟩ := ActivationCall.concerns_iff.mp mine
    simp [Store.isActivation] at other

end Rows

namespace Store

/-- Whether all rows of activations keep to `calls`. -/
def Registers (s : Store) (calls : List ActivationCall) : Prop :=
  ∀ row ∈ s.activations, row.Keeps calls

variable {s s' : Store} {calls : List ActivationCall} {user script timeframe : String}

theorem Registers.of_same (h : s.Registers calls) (same : s'.activations = s.activations) :
    s'.Registers calls := by
  rwa [Registers, same]

/-- The documents of activations do not matter. -/
theorem Registers.replaceOverrides {document : Option String} (h : s.Registers calls)
    (replaced : s.replaceOverrides user script timeframe document = .ok s') :
    s'.Registers calls := by
  simp only [Store.replaceOverrides] at replaced
  split at replaced
  · cases replaced
    refine List.forall_mem_map.mpr fun row member => ?_
    obtain ⟨on, activated⟩ := h row member
    split <;> exact ⟨on, activated⟩
  · split at replaced <;> cases replaced
    exact h

theorem replaceOverrides_trades {document : Option String}
    (replaced : s.replaceOverrides user script timeframe document = .ok s') :
    s'.trades = s.trades := by
  simp only [Store.replaceOverrides] at replaced
  split at replaced
  · cases replaced
    rfl
  · split at replaced <;> cases replaced
    rfl

theorem Registers.activate (h : s.Registers calls) (overrides : Json) (now : String) :
    (s.activate user script timeframe overrides now).Registers
      (calls ++ [⟨user, script, timeframe, true⟩]) := by
  intro row member
  rcases mem_upsert member with ⟨old, was, mine, rfl⟩ | ⟨was, other⟩ | rfl
  · exact .turned mine rfl (.inl rfl)
  · exact (h row was).other other
  · exact .turned (by simp [isActivation]) rfl (.inl rfl)

theorem Registers.deactivate (h : s.Registers calls) :
    (s.deactivate user script timeframe).Registers
      (calls ++ [⟨user, script, timeframe, false⟩]) := by
  refine List.forall_mem_map.mpr fun row member => ?_
  split
  · rename_i mine
    exact .turned mine rfl (.inr (h row member).activated)
  · rename_i other
    exact (h row member).other (Bool.eq_false_iff.mpr other)

/-- Whether an activation of a user for a script is on, on some timeframe. -/
def IsActive (s : Store) (user script : String) : Prop :=
  ∃ row ∈ s.activations, row.active = true ∧ row.user = user ∧ row.script = script

/-- Who has withdrawn from a script is not active for it. -/
theorem Registers.not_active (h : s.Registers calls) (withdrawn : Withdrawn calls user script) :
    ¬s.IsActive user script := by
  rintro ⟨row, member, active, rfl, rfl⟩
  have last := (h row member).on active
  rw [withdrawn.not_lastActivated] at last
  cases last

/-- The activations that are listed are on. -/
theorem activations?_active {as : List Activation}
    (listed : s.activations? script timeframe = .ok as) {a : Activation} (member : a ∈ as) :
    ∃ user script, a.user.stored = some user ∧ a.script.stored = some script ∧
      s.IsActive user script := by
  obtain ⟨⟨row, saved⟩, wanted, made⟩ := exists_of_forall₂ (activations?_rows listed) a member
  obtain ⟨isUser, isScript, -⟩ := activationOf_ok made
  obtain ⟨live, -⟩ := mem_activeRows_iff.mp wanted
  exact ⟨row.user, row.script, congrArg Label.stored isUser, congrArg Label.stored isScript, row,
    live.listed, live.active, rfl, rfl⟩

/-- Whether a user owns a saved script. -/
def Owns (s : Store) (user script : String) : Prop :=
  ∃ row ∈ s.scripts, row.id = some script ∧ row.owner = user

instance (s : Store) (user script : String) : Decidable (s.Owns user script) :=
  inferInstanceAs (Decidable (∃ row ∈ s.scripts, _))

/-- Who can access a script owns it, or has activated it at some time. -/
theorem Registers.canAccess (h : s.Registers calls) (access : s.canAccess user script = true) :
    s.Owns user script ∨ HasActivated calls user script := by
  simp only [Store.canAccess, Bool.or_eq_true, List.any_eq_true, Bool.and_eq_true,
    beq_iff_eq] at access
  rcases access with ⟨row, member, id, owner⟩ | ⟨row, member, rfl, rfl⟩
  · exact .inl ⟨row, member, id, owner⟩
  · exact .inr (h row member).activated

end Store
end SignalDesk
