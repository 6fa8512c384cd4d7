import Mathlib.Logic.Relation
import SignalDesk.Proofs.Store.Reservation
import SignalDesk.Store.Scripts

namespace SignalDesk
namespace Store

/-- One change of the store. Only profiles and adjustments bring coins in, and those here keep
balances in range. -/
inductive Change (s : Store) : Store → Prop where
  | initialise : Change s s.initialised
  | enroll {user coins subscription now s'}
      (h : s.ensureProfile user coins subscription now = .ok s') (range : s.InRange → s'.InRange) :
      Change s s'
  | adjust {user delta note now figures s'} (h : s.adjust user delta note now = .ok (figures, s'))
      (range : s.InRange → s'.InRange) : Change s s'
  | subscribe (user : String) (subscription : Int) : Change s (s.setSubscription user subscription)
  | reserve {r now id s'} (h : s.reserve r now = .ok (id, s')) : Change s s'
  | markOpen (id : Int) (order : Option String) (price : Option Real64) (quantity : Option String)
      (now : String) : Change s (s.markOpen id order price quantity now)
  | markFailed (id : Int) (message : Option String) : Change s (s.markFailed id message)
  | markCancelled (id : Int) (message : Option String) : Change s (s.markCancelled id message)
  | close (id : Int) (price : Real64) (user : Option String) (now : String) :
      Change s (s.close id price user now).2
  | addSignal {offer now id s'} (h : s.addSignal offer now = .ok (id, s')) : Change s s'
  | markProcessed (id : Int) (now : String) : Change s (s.markProcessed id now).2
  | saveScript (id : Option String) (owner name content symbol : String) (timeframes : Json)
      (now : String) : Change s (s.saveScript id owner name content symbol timeframes now)
  | activate (user script timeframe : String) (overrides : Json) (now : String) :
      Change s (s.activate user script timeframe overrides now)
  | deactivate (user script timeframe : String) : Change s (s.deactivate user script timeframe)
  | setGate (user script : String) (enabled : Bool) (now : String) :
      Change s (s.setGate user script enabled now)
  | enable {user coins now s'} (script : String)
      (h : s.ensureProfile (some user) (.number (.whole coins)) 0 now = .ok s') :
      Change s (s'.setGate user script true now)
  | setFlag (name : Option String) (enabled : Int) : Change s (s.setFlag name enabled)
  | saveKeys (user exchange key secret now : String) :
      Change s (s.saveKeys user exchange key secret now)
  | createToken {token user role now s'} (h : s.createToken token user role now = .ok s') :
      Change s s'

/-- One change, or none. -/
abbrev Changes : Store → Store → Prop := Relation.ReflGen Change

/-- One change, or none, that makes no trade and turns no gate and no activation. -/
structure Minor (s s' : Store) : Prop where
  changed : Changes s s'
  made : s'.made = s.made
  gates : s'.gates = s.gates
  activations : s'.activations = s.activations

theorem Minor.refl (s : Store) : s.Minor s := ⟨.refl, rfl, rfl, rfl⟩

/-- Whether it stays the same who has activated or owns which scripts, and who is known by which
token. -/
structure SameRegister (s s' : Store) : Prop where
  activations : s'.activations = s.activations
  scripts : s'.scripts = s.scripts
  tokens : s'.tokens = s.tokens

theorem SameRegister.refl (s : Store) : s.SameRegister s := ⟨rfl, rfl, rfl⟩

theorem SameRegister.trans {s s' s'' : Store} (h : s.SameRegister s') (h' : s'.SameRegister s'') :
    s.SameRegister s'' :=
  ⟨h'.activations.trans h.activations, h'.scripts.trans h.scripts, h'.tokens.trans h.tokens⟩

theorem addSignal_minor {s s' : Store} {offer : SignalOffer} {now : String} {id : Option Int}
    (h : s.addSignal offer now = .ok (id, s')) : s.Minor s' ∧ s.SameRegister s' := by
  obtain ⟨row, -, added⟩ := map_ok.mp h
  split at added
  · cases added
    exact ⟨.refl s, .refl s⟩
  · split at added <;> cases added <;>
      exact ⟨⟨.single (.addSignal h), rfl, rfl, rfl⟩, rfl, rfl, rfl⟩

theorem addSignal_trades {s s' : Store} {offer : SignalOffer} {now : String} {id : Option Int}
    (h : s.addSignal offer now = .ok (id, s')) : s'.trades = s.trades := by
  obtain ⟨row, -, added⟩ := map_ok.mp h
  split at added
  · cases added
    rfl
  · split at added <;> cases added <;> rfl

/-- One change of the store, whatever becomes of balances. -/
inductive Alters (s : Store) : Store → Prop where
  | change {s'} (h : Change s s') : Alters s s'
  | enroll {user coins subscription now s'}
      (h : s.ensureProfile user coins subscription now = .ok s') : Alters s s'
  | adjust {user delta note now figures s'} (h : s.adjust user delta note now = .ok (figures, s')) :
      Alters s s'

/-- One such change, or none. -/
abbrev Alterations : Store → Store → Prop := Relation.ReflGen Alters

theorem Alters.inRange {s s' : Store} (h : s.Alters s') (range : s'.InRange) : Change s s' := by
  cases h with
  | change h => exact h
  | enroll h => exact .enroll h fun _ => range
  | adjust h => exact .adjust h fun _ => range

theorem Changes.alterations {s s' : Store} (h : Changes s s') : Alterations s s' :=
  h.mono fun _ _ => .change

theorem Alterations.inRange {s s' : Store} (h : Alterations s s') (range : s'.InRange) :
    Changes s s' := by
  cases h with
  | refl => exact .refl
  | single h => exact .single (h.inRange range)

/-- Whether balances, ledger and what trades were made for stay as they are. -/
structure SameBooks (s s' : Store) : Prop where
  coins : ∀ user, s'.coins? user = s.coins? user
  ledger : s'.ledger = s.ledger
  made : s'.made = s.made

/-- A profile taken into the books. -/
structure Enrolled (s : Store) (p : Profile) (s' : Store) : Prop where
  new : p.user.bind s.profile? = none
  coins : p.coins.isNegative = false
  profiles : s'.profiles = s.profiles ++ [p]
  ledger : s'.ledger = s.ledger
  trades : s'.trades = s.trades

/-- An adjustment taken into the books. -/
structure Adjusted (s : Store) (user : String) (e : LedgerEntry) (s' : Store) : Prop where
  balance : s.coins? user = some e.before
  next : e.id = nextId (s.ledger.map (·.id))
  holder : e.user = user
  floored : ∃ sum : Amount, e.after = .number sum.floored
  trade : e.trade = none
  store : s' = { s.setCoins user e.after with ledger := s.ledger ++ [e] }

variable {s s' : Store}

theorem ensureProfile_ok {user : Option String} {coins : Figure} {subscription : Int}
    {now : String} (h : s.ensureProfile user coins subscription now = .ok s') :
    s' = s ∨ s.Enrolled ⟨user, coins, subscription, now⟩ s' := by
  simp only [ensureProfile] at h
  split at h
  · cases h
  · split at h
    · cases h
      exact .inl rfl
    · rename_i free
      cases h
      simp only [Bool.or_eq_true, not_or, Bool.not_eq_true, Option.isSome_eq_false_iff,
        Option.isNone_iff_eq_none] at free
      exact .inr ⟨free.2, free.1, rfl, rfl, rfl⟩

theorem ensureProfile_trades {user : Option String} {coins : Figure} {subscription : Int}
    {now : String} (h : s.ensureProfile user coins subscription now = .ok s') :
    s'.trades = s.trades := by
  rcases ensureProfile_ok h with rfl | enrolled
  · rfl
  · exact enrolled.trades

theorem ensureProfile_gates {user : Option String} {coins : Figure} {subscription : Int}
    {now : String} (h : s.ensureProfile user coins subscription now = .ok s') :
    s'.gates = s.gates := by
  simp only [ensureProfile] at h
  split at h
  · cases h
  · split at h <;> cases h <;> rfl

theorem Enrolled.coins? {p : Profile} (enrolled : s.Enrolled p s') (user : String) :
    s'.coins? user = (s.coins? user).or (if p.user = some user then some p.coins else none) := by
  have found : s'.profile? user =
      ({ s with profiles := s.profiles ++ [p] } : Store).profile? user := by
    simp only [profile?, enrolled.profiles]
  simp only [Store.coins?, found, profile?_append]
  cases s.profile? user with
  | some q => rfl
  | none => by_cases name : p.user = some user <;> simp [name]

/-- A profile with a whole number of coins keeps balances in range: it has to have 64 bits. -/
theorem ensureProfile_inRange {user : Option String} {n : Int} {subscription : Int} {now : String}
    (h : s.ensureProfile user (.number (.whole n)) subscription now = .ok s')
    (range : s.InRange) : s'.InRange := by
  have told : fitsWord n = true := by
    cases fits : fitsWord n with
    | true => rfl
    | false => simp [ensureProfile, Figure.isTold, Amount.isTold, fits] at h
  rcases ensureProfile_ok h with rfl | enrolled
  · exact range
  · intro other c found
    rw [enrolled.coins?, Option.or_eq_some_iff] at found
    rcases found with old | ⟨-, new⟩
    · exact range other c old
    · split at new
      · cases new
        exact ⟨n, rfl, (fitsWord_iff.mp told).2⟩
      · cases new

theorem adjust_ok {user : String} {delta : Amount} {note : LedgerNote} {now : String}
    {figures : Figure × Figure} (h : s.adjust user delta note now = .ok (figures, s')) :
    ∃ e, s.Adjusted user e s' := by
  simp only [adjust] at h
  split at h
  · cases h
  rename_i p profile
  split at h
  · cases h
  split at h
  · cases h
  · cases h
  · rename_i sum action reason performedBy _ _
    cases h
    have balance : s.coins? user = some p.coins := by simp [coins?, profile]
    exact ⟨⟨nextId (s.ledger.map (·.id)), user, p.coins, .number sum.floored, action, reason,
      performedBy, none, now⟩, balance, rfl, rfl, ⟨sum, rfl⟩, rfl, rfl⟩

theorem ensureProfile_register {user : Option String} {coins : Figure} {subscription : Int}
    {now : String} (h : s.ensureProfile user coins subscription now = .ok s') :
    s.SameRegister s' := by
  simp only [ensureProfile] at h
  split at h
  · cases h
  · split at h <;> cases h <;> exact ⟨rfl, rfl, rfl⟩

theorem adjust_register {user : String} {delta : Amount} {note : LedgerNote} {now : String}
    {figures : Figure × Figure} (h : s.adjust user delta note now = .ok (figures, s')) :
    s.SameRegister s' := by
  obtain ⟨e, adjusted⟩ := adjust_ok h
  rw [adjusted.store]
  exact ⟨rfl, rfl, rfl⟩

theorem adjust_gates {user : String} {delta : Amount} {note : LedgerNote} {now : String}
    {figures : Figure × Figure} (h : s.adjust user delta note now = .ok (figures, s')) :
    s'.gates = s.gates := by
  obtain ⟨e, adjusted⟩ := adjust_ok h
  rw [adjusted.store]
  rfl

theorem adjust_trades {user : String} {delta : Amount} {note : LedgerNote} {now : String}
    {figures : Figure × Figure} (h : s.adjust user delta note now = .ok (figures, s')) :
    s'.trades = s.trades := by
  obtain ⟨e, adjusted⟩ := adjust_ok h
  rw [adjusted.store]
  rfl

theorem SameBooks.of_changeTrade {id : Int} {p : Trade → Bool} {change : Trade → Trade}
    (h : ∀ t, (change t).identity = t.identity) : s.SameBooks (s.changeTrade id p change) :=
  ⟨fun _ => rfl, rfl, made_changeTrade h⟩

/-- A change leaves the books alone, or takes one new row into them. -/
theorem Change.books (h : Change s s') (range : s.InRange) :
    s.SameBooks s' ∨ (∃ p, s.Enrolled p s' ∧ s'.InRange) ∨
      (∃ user e, s.Adjusted user e s' ∧ s'.InRange) ∨ ∃ t coins e, s.Booked t coins e s' := by
  cases h with
  | enroll h kept =>
    rcases ensureProfile_ok h with rfl | enrolled
    · exact .inl ⟨fun _ => rfl, rfl, rfl⟩
    · exact .inr (.inl ⟨_, enrolled, kept range⟩)
  | enable script h =>
    have kept := ensureProfile_inRange h range
    rcases ensureProfile_ok h with rfl | enrolled
    · exact .inl ⟨fun _ => rfl, rfl, rfl⟩
    · exact .inr (.inl ⟨_, ⟨enrolled.new, enrolled.coins, enrolled.profiles, enrolled.ledger,
        enrolled.trades⟩, kept⟩)
  | adjust h kept =>
    obtain ⟨e, adjusted⟩ := adjust_ok h
    exact .inr (.inr (.inl ⟨_, e, adjusted, kept range⟩))
  | reserve h =>
    obtain ⟨t, coins, e, booked, -⟩ := reserve_booked range h
    exact .inr (.inr (.inr ⟨t, coins, e, booked⟩))
  | subscribe user subscription =>
    refine .inl ⟨fun other => ?_, rfl, rfl⟩
    simp only [coins?, profile?_setSubscription, Option.map_map]
    refine Option.map_congr fun p _ => ?_
    split <;> rfl
  | addSignal h =>
    obtain ⟨row, -, h⟩ := map_ok.mp h
    left
    split at h
    · cases h
      exact ⟨fun _ => rfl, rfl, rfl⟩
    · split at h <;> cases h <;> exact ⟨fun _ => rfl, rfl, rfl⟩
  | createToken h =>
    simp only [Store.createToken] at h
    split at h <;> cases h
    exact .inl ⟨fun _ => rfl, rfl, rfl⟩
  | markOpen => exact .inl (.of_changeTrade fun _ => rfl)
  | markFailed => exact .inl (.of_changeTrade fun _ => rfl)
  | markCancelled => exact .inl (.of_changeTrade fun _ => rfl)
  | close => exact .inl (.of_changeTrade fun _ => rfl)
  | initialise | markProcessed | saveScript | activate | deactivate | setGate | setFlag
  | saveKeys =>
    exact .inl ⟨fun _ => rfl, rfl, rfl⟩

section Rows

variable {p : Profile} {user : String} {t : Trade} {coins : Int} {e : LedgerEntry}

theorem Enrolled.made (enrolled : s.Enrolled p s') : s'.made = s.made := by
  simp only [Store.made, enrolled.trades]

theorem Adjusted.made (adjusted : s.Adjusted user e s') : s'.made = s.made := by
  rw [adjusted.store]
  rfl

theorem Adjusted.ledger (adjusted : s.Adjusted user e s') : s'.ledger = s.ledger ++ [e] := by
  rw [adjusted.store]

theorem Booked.made (booked : s.Booked t coins e s') : s'.made = s.made ++ [t.identity] := by
  rw [booked.store]
  exact List.map_append

theorem Booked.ledger (booked : s.Booked t coins e s') : s'.ledger = s.ledger ++ [e] := by
  rw [booked.store]

end Rows

theorem SameBooks.inRange (same : s.SameBooks s') (range : s.InRange) : s'.InRange :=
  fun user coins found => range user coins (same.coins user ▸ found)

theorem Booked.coins? {t : Trade} {coins : Int} {e : LedgerEntry} (booked : s.Booked t coins e s')
    (user : String) :
    s'.coins? user = if user = t.user then some (.number (.whole coins)) else s.coins? user := by
  rw [booked.store]
  refine (coins?_setCoins _ user).trans ?_
  rw [booked.balance]
  rfl

theorem Adjusted.coins? {user : String} {e : LedgerEntry} (adjusted : s.Adjusted user e s')
    (other : String) : s'.coins? other = if other = user then some e.after else s.coins? other := by
  rw [adjusted.store]
  refine (coins?_setCoins _ other).trans ?_
  rw [adjusted.balance]
  rfl

theorem Booked.inRange {t : Trade} {coins : Int} {e : LedgerEntry} (booked : s.Booked t coins e s')
    (range : s.InRange) : s'.InRange := by
  obtain ⟨n, hn, below⟩ := range _ _ booked.balance
  intro user c found
  rw [booked.coins? user] at found
  split at found
  · cases found
    cases hn
    exact ⟨coins, rfl, by omega⟩
  · exact range user c found

theorem Change.inRange (h : Change s s') (range : s.InRange) : s'.InRange := by
  rcases h.books range with same | ⟨_, _, kept⟩ | ⟨_, _, _, kept⟩ | ⟨t, coins, e, booked⟩
  · exact same.inRange range
  · exact kept
  · exact kept
  · exact booked.inRange range

end Store
end SignalDesk
