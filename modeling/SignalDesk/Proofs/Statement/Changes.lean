import SignalDesk.Proofs.Store.Change
import SignalDesk.Proofs.Store.Spending
import SignalDesk.Statement.Tables

namespace SignalDesk

/-- Whether an operation makes at most a change of the store by which no trade is made, and no gate
and no activation is turned. -/
def Operation.Minor (o : Operation) : Prop :=
  ∀ ⦃c a s v s'⦄, o.perform c a s = .ok (v, s') → Store.Minor s s'

/-- Whether an operation makes at most such a change, and leaves the trades as they are. -/
def Operation.Aside (o : Operation) : Prop :=
  ∀ ⦃c a s v s'⦄, o.perform c a s = .ok (v, s') → Store.Minor s s' ∧ s'.trades = s.trades

theorem Operation.Aside.minor {o : Operation} (h : o.Aside) : o.Minor :=
  fun _ _ _ _ _ performed => (h performed).1

/-- Whether an operation makes only changes of the store. -/
def Operation.Sound (o : Operation) : Prop :=
  ∀ ⦃c a s v s'⦄, o.perform c a s = .ok (v, s') → Store.Changes s s'

/-- Whether an operation makes only changes of the store, whatever becomes of balances. -/
def Operation.Alters (o : Operation) : Prop :=
  ∀ ⦃c a s v s'⦄, o.perform c a s = .ok (v, s') → Store.Alterations s s'

theorem Operation.Sound.alters {o : Operation} (h : o.Sound) : o.Alters :=
  fun _ _ _ _ _ performed => (h performed).alterations

namespace Statement

open Store Relation

variable {name : String} {required optional : List String}

theorem reading_aside (answer : Arguments → Store → Except StatementError Json) :
    (reading name required optional answer).Aside := by
  intro c a s v s' h
  obtain ⟨_, -, h⟩ := map_ok.mp h
  cases h
  exact ⟨.refl s, rfl⟩

theorem writing_ok {change : Scene → Arguments → Store → Except StatementError Store} {c : Scene}
    {a : Arguments} {s s' : Store} {v : Json}
    (h : (writing name required optional change).perform c a s = .ok (v, s')) :
    change c a s = .ok s' := by
  obtain ⟨_, h, eq⟩ := map_ok.mp h
  cases eq
  exact h

theorem marking_minor {mark : Scene → Arguments → Except StatementError (Store → Int → Store)}
    (h : ∀ c a m, mark c a = .ok m → ∀ s id, Store.Minor s (m s id)) :
    (marking name required optional mark).Minor := by
  intro c a s v s' performed
  have written := writing_ok performed
  simp only [bind_ok, pure_ok] at written
  obtain ⟨m, hm, id, -, rfl⟩ := written
  cases id with
  | none => exact .refl s
  | some id => exact h c a m hm s id

/-- Of the statements on scripts, one turns a gate, and two turn activations. The others leave trades
as they are. -/
theorem scripts_aside :
    ∀ o ∈ scripts, o = setGate ∨ o = activate ∨ o = deactivate ∨ o.Aside := by
  simp only [scripts, List.forall_mem_cons, List.not_mem_nil, false_imp_iff, implies_true,
    and_true, true_or, or_true, true_and]
  have looks (o : Operation) (aside : o.Aside) :
      o = setGate ∨ o = activate ∨ o = deactivate ∨ o.Aside := .inr (.inr (.inr aside))
  refine ⟨looks _ ?upsertScript, looks _ (reading_aside _), looks _ (reading_aside _),
    looks _ (reading_aside _), looks _ (reading_aside _), looks _ (reading_aside _)⟩
  case upsertScript =>
    intro c a s v s' h
    have h := writing_ok h
    simp only [bind_ok, pure_ok] at h
    obtain ⟨_, -, _, -, _, -, _, -, _, -, _, -, _, -, _, -, _, -, rfl⟩ := h
    exact ⟨⟨.single (.saveScript ..), rfl, rfl, rfl⟩, rfl⟩

/-- What a statement turns on: the activation of the user, the script and the timeframe that it
names. -/
theorem activate_ok {c : Scene} {a : Arguments} {s s' : Store} {v : Json}
    (h : activate.perform c a s = .ok (v, s')) :
    ∃ user script timeframe, tupleOf a = .ok (some user, some script, some timeframe) ∧
      s' = s.activate user script timeframe (a.get "settings") c.now := by
  have h := writing_ok h
  simp only [bind_ok, pure_ok] at h
  obtain ⟨⟨user?, script?, timeframe?⟩, named, user, told, script, told', timeframe, told'', rfl⟩ := h
  cases user? with
  | none => cases told
  | some _ =>
    cases script? with
    | none => cases told'
    | some _ =>
      cases timeframe? with
      | none => cases told''
      | some _ =>
        cases told
        cases told'
        cases told''
        exact ⟨_, _, _, named, rfl⟩

/-- What a statement turns off: the activation of the user, the script and the timeframe that it
names, if it names all three. -/
theorem deactivate_ok {c : Scene} {a : Arguments} {s s' : Store} {v : Json}
    (h : deactivate.perform c a s = .ok (v, s')) :
    ∃ named, tupleOf a = .ok named ∧
      s' = match named with
        | (some user, some script, some timeframe) => s.deactivate user script timeframe
        | _ => s := by
  obtain ⟨named, told, h⟩ := bind_ok.mp (writing_ok h)
  refine ⟨named, told, ?_⟩
  rcases named with ⟨_ | user, _ | script, _ | timeframe⟩ <;> exact (Except.ok.inj h).symm

theorem activate_sound : activate.Sound := by
  intro c a s v s' h
  obtain ⟨user, script, timeframe, -, rfl⟩ := activate_ok h
  exact .single (.activate ..)

theorem deactivate_sound : deactivate.Sound := by
  intro c a s v s' h
  obtain ⟨named, -, rfl⟩ := deactivate_ok h
  split
  · exact .single (.deactivate ..)
  · exact .refl

/-- What a statement turns: the gate of the user and the script that it names. -/
theorem setGate_ok {c : Scene} {a : Arguments} {s s' : Store} {v : Json}
    (h : setGate.perform c a s = .ok (v, s')) :
    ∃ user script, pair? (a.get "user_id") (a.get "script_id") = .ok (some (user, script)) ∧
      s' = s.setGate user script (a.get "enabled").isTruthy
        (match a.get "now" with
          | .int ms => Stamp.ofMillis ms
          | _ => c.now) := by
  simp only [setGate, bind_ok, pure_ok] at h
  obtain ⟨user?, given, script?, named, user, told, script, told', h⟩ := h
  cases h
  cases user? with
  | none => cases told
  | some name =>
    cases script? with
    | none => cases told'
    | some id =>
      cases told
      cases told'
      refine ⟨_, _, ?_, rfl⟩
      simp only [pair?, given, named]
      rfl

theorem setGate_sound : setGate.Sound := by
  intro c a s v s' h
  obtain ⟨user, script, -, rfl⟩ := setGate_ok h
  exact .single (.setGate ..)

/-- Of the statements on trades, one makes a trade. -/
theorem trades_minor : ∀ o ∈ trades, o = reserveTrade ∨ o.Minor := by
  simp only [trades, List.forall_mem_cons, List.not_mem_nil, false_imp_iff, implies_true,
    and_true, true_or, true_and]
  refine ⟨.inr (marking_minor ?markOpen), .inr (marking_minor ?markFailed),
    .inr (marking_minor ?markCancelled), .inr ?closeTrade, .inr (reading_aside _).minor,
    .inr (reading_aside _).minor, .inr (reading_aside _).minor, .inr (reading_aside _).minor,
    .inr (reading_aside _).minor⟩
  case markOpen =>
    intro c a m h s id
    simp only [bind_ok, pure_ok] at h
    obtain ⟨_, -, _, -, _, -, rfl⟩ := h
    exact ⟨.single (.markOpen ..), made_changeTrade fun _ => rfl, rfl, rfl⟩
  case markFailed =>
    intro c a m h s id
    simp only [bind_ok, pure_ok] at h
    obtain ⟨_, -, rfl⟩ := h
    exact ⟨.single (.markFailed ..), made_changeTrade fun _ => rfl, rfl, rfl⟩
  case markCancelled =>
    intro c a m h s id
    simp only [bind_ok, pure_ok] at h
    obtain ⟨_, -, rfl⟩ := h
    exact ⟨.single (.markCancelled ..), made_changeTrade fun _ => rfl, rfl, rfl⟩
  case closeTrade =>
    intro c a s v s' h
    simp only [closeTrade, bind_ok] at h
    obtain ⟨_, -, _, -, _, -, h⟩ := h
    split at h <;> cases h
    · exact ⟨.single (.close ..), made_changeTrade fun _ => rfl, rfl, rfl⟩
    · exact .refl s

theorem reserveTrade_ok {c : Scene} {a : Arguments} {s s' : Store} {v : Json}
    (h : reserveTrade.perform c a s = .ok (v, s')) :
    ∃ r now id, s.reserve r now = .ok (id, s') := by
  simp only [reserveTrade, bind_ok] at h
  obtain ⟨_, -, _, -, _, -, _, -, _, -, _, -, _, -, _, -, _, -, _, -, _, -, _, -, _, -, h⟩ := h
  split at h
  · rename_i reserved
    cases h
    exact ⟨_, _, _, reserved⟩
  · cases h
  · cases h

theorem reserveTrade_sound : reserveTrade.Sound := by
  intro c a s v s' h
  obtain ⟨r, now, id, reserved⟩ := reserveTrade_ok h
  exact .single (.reserve reserved)

/-- A profile is made with the coins that there are for it, if there are any. -/
theorem enroll_ok {user : Option String} {subscription : Int} {now : String} {s s' : Store}
    (coins : Option Figure)
    (h : (match coins with
      | some coins => ofStore (s.ensureProfile user coins subscription now)
      | none => pure s) = .ok s') :
    s' = s ∨ ∃ coins, s.ensureProfile user coins subscription now = .ok s' := by
  cases coins with
  | none => exact .inl (pure_ok.mp h).symm
  | some coins => exact .inr ⟨coins, mapError_ok.mp h⟩

theorem ensureProfile_ok {c : Scene} {a : Arguments} {s s' : Store} {v : Json}
    (h : ensureProfile.perform c a s = .ok (v, s')) :
    s' = s ∨ ∃ user coins subscription now, s.ensureProfile user coins subscription now = .ok s' := by
  have h := writing_ok h
  simp only [bind_ok] at h
  obtain ⟨subscription, -, user, -, h⟩ := h
  -- the coins are those of the settings or those that are given
  split at h
  all_goals
    simp only [bind_ok] at h
    obtain ⟨coins, -, _, -, h⟩ := h
    exact (enroll_ok coins h).imp_right fun ⟨coins, enrolled⟩ => ⟨_, coins, _, _, enrolled⟩

theorem ensureProfile_alters : ensureProfile.Alters := by
  intro c a s v s' h
  rcases ensureProfile_ok h with rfl | ⟨user, coins, subscription, now, enrolled⟩
  · exact .refl
  · exact .single (.enroll enrolled)

theorem adjust_ok {c : Scene} {a : Arguments} {s s' : Store} {v : Json}
    (h : adjust.perform c a s = .ok (v, s')) :
    ∃ user delta note now figures, s.adjust user delta note now = .ok (figures, s') := by
  obtain ⟨user, -, h⟩ := bind_ok.mp h
  split at h
  · cases h
  split at h
  · cases h
  simp only [bind_ok] at h
  obtain ⟨_, -, _, -, h⟩ := h
  split at h
  · cases h
  · cases h
  · rename_i adjusted
    cases h
    exact ⟨_, _, _, _, _, adjusted⟩

theorem adjust_alters : adjust.Alters := by
  intro c a s v s' h
  obtain ⟨user, delta, note, now, figures, adjusted⟩ := adjust_ok h
  exact .single (.adjust adjusted)

/-- Of the statements on coins, two say how many coins a user is to have. -/
theorem coins_aside : ∀ o ∈ coins, o = ensureProfile ∨ o = adjust ∨ o.Aside := by
  simp only [coins, List.forall_mem_cons, List.not_mem_nil, false_imp_iff, implies_true, and_true,
    true_or, or_true, true_and]
  refine ⟨.inr (.inr ?setSubscription), .inr (.inr (reading_aside _)),
    .inr (.inr (reading_aside _)), .inr (.inr (reading_aside _))⟩
  case setSubscription =>
    intro c a s v s' h
    have h := writing_ok h
    simp only [bind_ok, pure_ok] at h
    obtain ⟨_, -, _, -, user, -, rfl⟩ := h
    cases user with
    | none => exact ⟨.refl s, rfl⟩
    | some user => exact ⟨⟨.single (.subscribe ..), rfl, rfl, rfl⟩, rfl⟩

theorem settings_aside : ∀ o ∈ settings, o.Aside := by
  simp only [settings, List.forall_mem_cons, List.not_mem_nil, false_imp_iff, implies_true,
    and_true]
  refine ⟨reading_aside _, ?setFlag, ?saveKeys, reading_aside _, ?createToken, reading_aside _⟩
  case setFlag =>
    intro c a s v s' h
    have h := writing_ok h
    simp only [bind_ok, pure_ok] at h
    obtain ⟨_, -, _, -, _, -, rfl⟩ := h
    exact ⟨⟨.single (.setFlag ..), rfl, rfl, rfl⟩, rfl⟩
  case saveKeys =>
    intro c a s v s' h
    have h := writing_ok h
    simp only [bind_ok, pure_ok] at h
    obtain ⟨_, -, _, -, _, -, _, -, _, -, _, -, _, -, _, -, rfl⟩ := h
    exact ⟨⟨.single (.saveKeys ..), rfl, rfl, rfl⟩, rfl⟩
  case createToken =>
    intro c a s v s' h
    have h := writing_ok h
    simp only [bind_ok] at h
    obtain ⟨_, -, _, -, _, -, _, -, _, -, h⟩ := h
    have created := mapError_ok.mp h
    have h := created
    simp only [Store.createToken] at h
    split at h <;> cases h
    exact ⟨⟨.single (.createToken created), rfl, rfl, rfl⟩, rfl⟩

theorem signals_aside : ∀ o ∈ signals, o.Aside := by
  simp only [signals, List.forall_mem_cons, List.not_mem_nil, false_imp_iff, implies_true,
    and_true]
  refine ⟨?insertSignal, reading_aside _, ?markProcessed, reading_aside _, reading_aside _⟩
  case insertSignal =>
    intro c a s v s' h
    simp only [insertSignal, bind_ok] at h
    obtain ⟨_, -, _, -, _, -, _, -, _, -, _, added, h⟩ := h
    cases h
    have added := mapError_ok.mp added
    exact ⟨(addSignal_minor added).1, addSignal_trades added⟩
  case markProcessed =>
    intro c a s v s' h
    obtain ⟨_, -, h⟩ := bind_ok.mp h
    split at h <;> cases h
    · exact ⟨⟨.single (.markProcessed ..), rfl, rfl, rfl⟩, rfl⟩
    · exact ⟨.refl s, rfl⟩

/-- Whether a statement says how many coins a user is to have. -/
def SetsBalance (part name : String) : Prop :=
  part = "coins" ∧ (name = "ensure_profile" ∨ name = "adjust")

/-- An answer is that of the operation of its name. -/
theorem perform_ok {part : String} {c : Scene} {a : Arguments} {s s' : Store} {v : Json}
    (h : perform part name c a s = .ok (v, s')) :
    ∃ o ∈ (operations.lookup part).getD [], o.name = name ∧ o.perform c a s = .ok (v, s') := by
  simp only [perform] at h
  split at h
  · cases h
  rename_i o found
  split at h
  · exact ⟨o, List.mem_of_find?_eq_some found, by simpa using List.find?_some found, h⟩
  · cases h

/-- The parts of the store, and the operations on them. -/
theorem operations_cases {part : String} {o : Operation}
    (h : o ∈ (operations.lookup part).getD []) :
    part = "scripts" ∧ o ∈ scripts ∨ part = "trades" ∧ o ∈ trades ∨ part = "coins" ∧ o ∈ coins ∨
      part = "settings" ∧ o ∈ settings ∨ part = "signals" ∧ o ∈ signals := by
  simp only [operations, List.lookup_cons, List.lookup_nil] at h
  split at h
  · rename_i named
    exact .inl ⟨beq_iff_eq.mp named, h⟩
  split at h
  · rename_i named
    exact .inr (.inl ⟨beq_iff_eq.mp named, h⟩)
  split at h
  · rename_i named
    exact .inr (.inr (.inl ⟨beq_iff_eq.mp named, h⟩))
  split at h
  · rename_i named
    exact .inr (.inr (.inr (.inl ⟨beq_iff_eq.mp named, h⟩)))
  split at h
  · rename_i named
    exact .inr (.inr (.inr (.inr ⟨beq_iff_eq.mp named, h⟩)))
  · simp at h

section Performed

variable {part : String} {c : Scene} {a : Arguments} {s s' : Store} {v : Json}

/-- How a statement that is answered changes the store: it turns a gate or an activation, makes a
trade, says how many coins a user is to have, or does none of these. -/
theorem perform_cases (h : perform part name c a s = .ok (v, s')) :
    (part = "scripts" ∧ name = "set_bot_enabled" ∧ setGate.perform c a s = .ok (v, s')) ∨
      (part = "scripts" ∧ name = "activate" ∧ activate.perform c a s = .ok (v, s')) ∨
      (part = "scripts" ∧ name = "deactivate" ∧ deactivate.perform c a s = .ok (v, s')) ∨
      (part = "trades" ∧ name = "reserve_trade" ∧ reserveTrade.perform c a s = .ok (v, s')) ∨
      (SetsBalance part name ∧
        (ensureProfile.perform c a s = .ok (v, s') ∨ adjust.perform c a s = .ok (v, s'))) ∨
      Store.Minor s s' := by
  obtain ⟨o, member, rfl, performed⟩ := perform_ok h
  rcases operations_cases member with ⟨rfl, member⟩ | ⟨rfl, member⟩ | ⟨rfl, member⟩ |
    ⟨rfl, member⟩ | ⟨rfl, member⟩
  · rcases scripts_aside o member with rfl | rfl | rfl | aside
    · exact .inl ⟨rfl, rfl, performed⟩
    · exact .inr (.inl ⟨rfl, rfl, performed⟩)
    · exact .inr (.inr (.inl ⟨rfl, rfl, performed⟩))
    · exact .inr (.inr (.inr (.inr (.inr (aside performed).1))))
  · rcases trades_minor o member with rfl | minor
    · exact .inr (.inr (.inr (.inl ⟨rfl, rfl, performed⟩)))
    · exact .inr (.inr (.inr (.inr (.inr (minor performed)))))
  · rcases coins_aside o member with rfl | rfl | aside
    · exact .inr (.inr (.inr (.inr (.inl ⟨⟨rfl, .inl rfl⟩, .inl performed⟩))))
    · exact .inr (.inr (.inr (.inr (.inl ⟨⟨rfl, .inr rfl⟩, .inr performed⟩))))
    · exact .inr (.inr (.inr (.inr (.inr (aside performed).1))))
  · exact .inr (.inr (.inr (.inr (.inr (settings_aside o member performed).1))))
  · exact .inr (.inr (.inr (.inr (.inr (signals_aside o member performed).1))))

/-- A statement that is answered changes the store in one of the ways that are listed. -/
theorem perform_alters (h : perform part name c a s = .ok (v, s')) : Store.Alterations s s' := by
  rcases perform_cases h with ⟨-, -, h⟩ | ⟨-, -, h⟩ | ⟨-, -, h⟩ | ⟨-, -, h⟩ | ⟨-, h | h⟩ | minor
  · exact setGate_sound.alters h
  · exact activate_sound.alters h
  · exact deactivate_sound.alters h
  · exact reserveTrade_sound.alters h
  · exact ensureProfile_alters h
  · exact adjust_alters h
  · exact minor.changed.alterations

/-- A statement that is answered makes only changes of the store, as long as one that says how many
coins a user is to have keeps balances in range. -/
theorem perform_changes (h : perform part name c a s = .ok (v, s'))
    (range : SetsBalance part name → s'.InRange) : Store.Changes s s' := by
  rcases perform_cases h with ⟨-, -, h⟩ | ⟨-, -, h⟩ | ⟨-, -, h⟩ | ⟨-, -, h⟩ | ⟨sets, -⟩ | minor
  · exact setGate_sound h
  · exact activate_sound h
  · exact deactivate_sound h
  · exact reserveTrade_sound h
  · exact (perform_alters h).inRange (range sets)
  · exact minor.changed

/-- The statement that turns a gate, if it is answered, turns that of the user and the script that it
names. -/
theorem perform_setGate (h : perform "scripts" "set_bot_enabled" c a s = .ok (v, s')) :
    ∃ user script, pair? (a.get "user_id") (a.get "script_id") = .ok (some (user, script)) ∧
      s' = s.setGate user script (a.get "enabled").isTruthy
        (match a.get "now" with
          | .int ms => Stamp.ofMillis ms
          | _ => c.now) := by
  have found : ((operations.lookup "scripts").getD []).find? (·.name == "set_bot_enabled") =
      some setGate := rfl
  simp only [perform, found] at h
  split at h
  · exact setGate_ok h
  · cases h

theorem perform_gates (h : perform part name c a s = .ok (v, s'))
    (other : part = "scripts" → name ≠ "set_bot_enabled") : s'.gates = s.gates := by
  rcases perform_cases h with ⟨isPart, named, -⟩ | ⟨-, -, h⟩ | ⟨-, -, h⟩ | ⟨-, -, h⟩ | ⟨-, h | h⟩ |
    minor
  · exact absurd named (other isPart)
  · obtain ⟨user, script, timeframe, -, rfl⟩ := activate_ok h
    rfl
  · obtain ⟨named, -, rfl⟩ := deactivate_ok h
    split <;> rfl
  · obtain ⟨r, now, id, reserved⟩ := reserveTrade_ok h
    exact (Spent.of_reserve reserved).gates
  · rcases ensureProfile_ok h with rfl | ⟨user, coins, subscription, now, enrolled⟩
    · rfl
    · exact ensureProfile_gates enrolled
  · obtain ⟨user, delta, note, now, figures, adjusted⟩ := adjust_ok h
    exact adjust_gates adjusted
  · exact minor.gates

theorem perform_made (h : perform part name c a s = .ok (v, s'))
    (other : part = "trades" → name ≠ "reserve_trade") : s'.made = s.made := by
  rcases perform_cases h with ⟨-, -, h⟩ | ⟨-, -, h⟩ | ⟨-, -, h⟩ | ⟨isPart, named, -⟩ | ⟨-, h | h⟩ |
    minor
  · obtain ⟨user, script, -, rfl⟩ := setGate_ok h
    rfl
  · obtain ⟨user, script, timeframe, -, rfl⟩ := activate_ok h
    rfl
  · obtain ⟨named, -, rfl⟩ := deactivate_ok h
    split <;> rfl
  · exact absurd named (other isPart)
  · rcases ensureProfile_ok h with rfl | ⟨user, coins, subscription, now, enrolled⟩
    · rfl
    · exact congrArg (List.map Trade.identity) (ensureProfile_trades enrolled)
  · obtain ⟨user, delta, note, now, figures, adjusted⟩ := adjust_ok h
    obtain ⟨e, adjusted⟩ := Store.adjust_ok adjusted
    exact adjusted.made
  · exact minor.made

/-- A statement on another part of the store leaves the trades as they are. -/
theorem perform_trades (h : perform part name c a s = .ok (v, s')) (other : part ≠ "trades") :
    s'.trades = s.trades := by
  obtain ⟨o, member, rfl, performed⟩ := perform_ok h
  rcases operations_cases member with ⟨-, member⟩ | ⟨isPart, -⟩ | ⟨-, member⟩ | ⟨-, member⟩ |
    ⟨-, member⟩
  · rcases scripts_aside o member with rfl | rfl | rfl | aside
    · obtain ⟨user, script, -, rfl⟩ := setGate_ok performed
      rfl
    · obtain ⟨user, script, timeframe, -, rfl⟩ := activate_ok performed
      rfl
    · obtain ⟨named, -, rfl⟩ := deactivate_ok performed
      split <;> rfl
    · exact (aside performed).2
  · exact absurd isPart other
  · rcases coins_aside o member with rfl | rfl | aside
    · rcases ensureProfile_ok performed with rfl | ⟨user, coins, subscription, now, enrolled⟩
      · rfl
      · exact ensureProfile_trades enrolled
    · obtain ⟨user, delta, note, now, figures, adjusted⟩ := adjust_ok performed
      exact adjust_trades adjusted
    · exact (aside performed).2
  · exact (settings_aside o member performed).2
  · exact (signals_aside o member performed).2

/-- The statement that activates, if it is answered, turns on what it names. -/
theorem perform_activate (h : perform "scripts" "activate" c a s = .ok (v, s')) :
    ∃ user script timeframe, tupleOf a = .ok (some user, some script, some timeframe) ∧
      s' = s.activate user script timeframe (a.get "settings") c.now := by
  have found : ((operations.lookup "scripts").getD []).find? (·.name == "activate") =
      some activate := rfl
  simp only [perform, found] at h
  split at h
  · exact activate_ok h
  · cases h

/-- The statement that deactivates, if it is answered, turns off what it names. -/
theorem perform_deactivate (h : perform "scripts" "deactivate" c a s = .ok (v, s')) :
    ∃ named, tupleOf a = .ok named ∧
      s' = match named with
        | (some user, some script, some timeframe) => s.deactivate user script timeframe
        | _ => s := by
  have found : ((operations.lookup "scripts").getD []).find? (·.name == "deactivate") =
      some deactivate := rfl
  simp only [perform, found] at h
  split at h
  · exact deactivate_ok h
  · cases h

theorem perform_activations (h : perform part name c a s = .ok (v, s'))
    (other : part = "scripts" → name ≠ "activate" ∧ name ≠ "deactivate") :
    s'.activations = s.activations := by
  rcases perform_cases h with ⟨-, -, h⟩ | ⟨isPart, named, -⟩ | ⟨isPart, named, -⟩ | ⟨-, -, h⟩ |
    ⟨-, h | h⟩ | minor
  · obtain ⟨user, script, -, rfl⟩ := setGate_ok h
    rfl
  · exact absurd named (other isPart).1
  · exact absurd named (other isPart).2
  · obtain ⟨r, now, id, reserved⟩ := reserveTrade_ok h
    exact (Spent.of_reserve reserved).activations
  · rcases ensureProfile_ok h with rfl | ⟨user, coins, subscription, now, enrolled⟩
    · rfl
    · exact (ensureProfile_register enrolled).activations
  · obtain ⟨user, delta, note, now, figures, adjusted⟩ := adjust_ok h
    exact (adjust_register adjusted).activations
  · exact minor.activations

end Performed

end Statement
end SignalDesk
