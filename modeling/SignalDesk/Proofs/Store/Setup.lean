import SignalDesk.Proofs.Statement.Changes
import SignalDesk.Proofs.Store.Spending

namespace SignalDesk
namespace Store

variable {s s' : Store}

/-- Whether scripts and flags stay as they are. -/
structure KeepsSetup (s s' : Store) : Prop where
  scripts : s'.scripts = s.scripts
  flags : s'.flags = s.flags

theorem KeepsSetup.refl (s : Store) : s.KeepsSetup s := ⟨rfl, rfl⟩

theorem KeepsSetup.of_ensureProfile {user : Option String} {coins : Figure} {subscription : Int}
    {now : String} (h : s.ensureProfile user coins subscription now = .ok s') : s.KeepsSetup s' := by
  simp only [ensureProfile] at h
  split at h
  · cases h
  · split at h <;> cases h <;> exact ⟨rfl, rfl⟩

theorem KeepsSetup.of_adjust {user : String} {delta : Amount} {note : LedgerNote} {now : String}
    {figures : Figure × Figure} (h : s.adjust user delta note now = .ok (figures, s')) :
    s.KeepsSetup s' := by
  obtain ⟨e, adjusted⟩ := adjust_ok h
  rw [adjusted.store]
  exact ⟨rfl, rfl⟩

theorem KeepsSetup.of_reserve {r : Reservation} {now : String} {id : Int}
    (h : s.reserve r now = .ok (id, s')) : s.KeepsSetup s' :=
  ⟨(Spent.of_reserve h).scripts, (Spent.of_reserve h).flags⟩

theorem KeepsSetup.of_addSignal {offer : SignalOffer} {now : String} {id : Option Int}
    (h : s.addSignal offer now = .ok (id, s')) : s.KeepsSetup s' := by
  obtain ⟨row, -, h⟩ := map_ok.mp h
  split at h
  · cases h
    exact .refl _
  · split at h <;> cases h <;> exact ⟨rfl, rfl⟩

theorem KeepsSetup.of_createToken {token user role now : String}
    (h : s.createToken token user role now = .ok s') : s.KeepsSetup s' := by
  simp only [createToken] at h
  split at h <;> cases h
  exact ⟨rfl, rfl⟩

def HasFlag (s : Store) (name : String) : Prop := ∃ f ∈ s.flags, f.name = some name

/-- Whether the flags of the desk are there. -/
structure Settled (s : Store) : Prop where
  trading : s.HasFlag tradingFlag
  paid : s.HasFlag paidFlag

theorem Settled.of_names (settled : s.Settled)
    (names : ∀ f ∈ s.flags, ∃ f' ∈ s'.flags, f'.name = f.name) : s'.Settled := by
  have kept : ∀ name, s.HasFlag name → s'.HasFlag name := by
    rintro name ⟨f, member, named⟩
    obtain ⟨f', member', same⟩ := names f member
    exact ⟨f', member', same.trans named⟩
  exact ⟨kept _ settled.trading, kept _ settled.paid⟩

theorem Settled.keeps (settled : s.Settled) (keeps : s.KeepsSetup s') : s'.Settled :=
  settled.of_names fun f member => ⟨f, keeps.flags ▸ member, rfl⟩

theorem addFlag_of_mem {flag : Flag} {flags : List Flag} (h : ∃ f ∈ flags, f.name = flag.name) :
    addFlag flag flags = flags := by
  obtain ⟨f, member, named⟩ := h
  exact if_pos (List.any_eq_true.mpr ⟨f, member, by simp [named]⟩)

theorem mem_addFlag (flag : Flag) (flags : List Flag) :
    (∃ f ∈ addFlag flag flags, f.name = flag.name) ∧ ∀ f ∈ flags, f ∈ addFlag flag flags := by
  simp only [addFlag]
  split
  · rename_i there
    obtain ⟨f, member, named⟩ := List.any_eq_true.mp there
    exact ⟨⟨f, member, by simpa using named⟩, fun f member => member⟩
  · exact ⟨⟨flag, by simp, rfl⟩, fun f member => List.mem_append_left _ member⟩

/-- To start on a store that was started on before changes nothing. -/
theorem Settled.initialised (settled : s.Settled) : s.initialised = s := by
  have trading : addFlag ⟨some tradingFlag, 1⟩ s.flags = s.flags := addFlag_of_mem settled.trading
  have paid : addFlag ⟨some paidFlag, 0⟩ s.flags = s.flags := addFlag_of_mem settled.paid
  simp only [Store.initialised, trading, paid]

theorem settled_initialised (s : Store) : s.initialised.Settled := by
  obtain ⟨⟨f, member, named⟩, -⟩ := mem_addFlag ⟨some tradingFlag, 1⟩ s.flags
  obtain ⟨paid, kept⟩ :=
    mem_addFlag ⟨some paidFlag, 0⟩ (addFlag ⟨some tradingFlag, 1⟩ s.flags)
  exact ⟨⟨f, kept f member, named⟩, paid⟩

theorem Settled.setFlag (settled : s.Settled) (name : Option String) (enabled : Int) :
    (s.setFlag name enabled).Settled := by
  refine settled.of_names fun f member => ?_
  simp only [Store.setFlag, upsert]
  split
  · refine ⟨_, List.mem_map.mpr ⟨f, member, rfl⟩, ?_⟩
    split <;> rfl
  · exact ⟨f, List.mem_append_left _ member, rfl⟩

/-- The flags of the desk are never taken away. -/
theorem Change.settled (h : Change s s') (settled : s.Settled) : s'.Settled := by
  cases h with
  | initialise => exact settled_initialised s
  | setFlag name enabled => exact settled.setFlag name enabled
  | enroll h => exact settled.keeps (.of_ensureProfile h)
  | enable script h => exact (settled.keeps (.of_ensureProfile h)).keeps ⟨rfl, rfl⟩
  | adjust h => exact settled.keeps (.of_adjust h)
  | reserve h => exact settled.keeps (.of_reserve h)
  | addSignal h => exact settled.keeps (.of_addSignal h)
  | createToken h => exact settled.keeps (.of_createToken h)
  | saveScript => exact settled.of_names fun f member => ⟨f, member, rfl⟩
  | subscribe | markOpen | markFailed | markCancelled | close | markProcessed | activate
  | deactivate | setGate | saveKeys =>
    exact settled.keeps ⟨rfl, rfl⟩

end Store

namespace Statement

/-- What is done to profiles and coins leaves scripts and flags alone, whatever the balances. -/
theorem coins_keep : ∀ o ∈ coins, ∀ ⦃c a s v s'⦄, o.perform c a s = .ok (v, s') →
    Store.KeepsSetup s s' := by
  have reads : ∀ {name required optional} (answer : Arguments → Store → Except StatementError Json)
      ⦃c a s v s'⦄, (reading name required optional answer).perform c a s = .ok (v, s') →
        Store.KeepsSetup s s' := by
    intro name required optional answer c a s v s' h
    obtain ⟨_, -, h⟩ := map_ok.mp h
    cases h
    exact .refl _
  simp only [coins, List.forall_mem_cons, List.not_mem_nil, false_imp_iff, implies_true, and_true]
  refine ⟨?ensureProfile, ?setSubscription, reads _, reads _, ?adjust, reads _⟩
  case ensureProfile =>
    intro c a s v s' h
    have h := writing_ok h
    simp only [bind_ok] at h
    obtain ⟨subscription, -, user, -, h⟩ := h
    split at h
    all_goals
      simp only [bind_ok] at h
      obtain ⟨coins, -, _, -, h⟩ := h
      cases coins with
      | none =>
        obtain rfl := pure_ok.mp h
        exact .refl _
      | some coins => exact .of_ensureProfile (mapError_ok.mp h)
  case setSubscription =>
    intro c a s v s' h
    have h := writing_ok h
    simp only [bind_ok, pure_ok] at h
    obtain ⟨_, -, _, -, user, -, rfl⟩ := h
    cases user <;> exact ⟨rfl, rfl⟩
  case adjust =>
    intro c a s v s' h
    obtain ⟨user, -, h⟩ := bind_ok.mp h
    split at h
    · cases h
    split at h
    · cases h
    simp only [bind_ok] at h
    obtain ⟨_, -, _, -, h⟩ := h
    split at h
    · cases h
    · cases h
    · rename_i adjusted
      cases h
      exact .of_adjust adjusted

/-- A statement leaves the flags of the desk where they are. -/
theorem perform_settled {part name : String} {c : Scene} {a : Arguments} {s s' : Store} {v : Json}
    (h : perform part name c a s = .ok (v, s')) (settled : s.Settled) : s'.Settled := by
  by_cases isCoins : part = "coins"
  · subst isCoins
    simp only [perform] at h
    split at h
    · cases h
    rename_i o found
    split at h
    · exact settled.keeps (coins_keep o (List.mem_of_find?_eq_some found) h)
    · cases h
  · have changes := perform_changes h fun sets => absurd sets.1 isCoins
    cases changes with
    | refl => exact settled
    | single change => exact change.settled settled

end Statement
end SignalDesk
