import SignalDesk.Proofs.Exchange.KeyMarkers
import SignalDesk.Proofs.Ledger.Debits
import SignalDesk.Proofs.Store.Spending

namespace SignalDesk

/-- Whether a trade is neither pending nor open. -/
def Trade.IsOver (t : Trade) : Prop := t.status ≠ .pending ∧ t.status ≠ .opened

namespace Store

variable {s s' : Store} {t : Trade}

theorem mem_changeTrade {id : Int} {p : Trade → Bool} {change : Trade → Trade}
    (mem : t ∈ s.trades) (other : (t.id == id && p t) = false) :
    t ∈ (s.changeTrade id p change).trades := by
  refine List.mem_map.mpr ⟨t, mem, ?_⟩
  rw [other]
  rfl

/-- A trade that is over stays as it is. -/
theorem Change.keeps_over (h : Change s s') (mem : t ∈ s.trades) (done : t.IsOver) :
    t ∈ s'.trades := by
  obtain ⟨pending, opened⟩ := done
  have settled (id : Int) : (t.id == id && isPending t) = false := by simp [isPending, pending]
  cases h with
  | markOpen | markFailed | markCancelled => exact mem_changeTrade mem (settled _)
  | close id price user now => exact mem_changeTrade mem (by simp [isOpenOf, opened])
  | reserve reserved =>
    obtain ⟨new, -, -, trades⟩ := reserve_trades reserved
    rw [trades]
    exact List.mem_append_left _ mem
  | enroll enrolls =>
    rcases ensureProfile_ok enrolls with rfl | enrolled
    · exact mem
    · exact enrolled.trades ▸ mem
  | enable script enrolls =>
    rcases ensureProfile_ok enrolls with rfl | enrolled
    · exact mem
    · exact enrolled.trades ▸ mem
  | adjust adjusts =>
    obtain ⟨e, adjusted⟩ := adjust_ok adjusts
    rw [adjusted.store]
    exact mem
  | addSignal adds =>
    obtain ⟨row, -, adds⟩ := map_ok.mp adds
    split at adds
    · cases adds
      exact mem
    · split at adds <;> cases adds <;> exact mem
  | createToken creates =>
    simp only [Store.createToken] at creates
    split at creates <;> cases creates
    exact mem
  | initialise | subscribe | markProcessed | saveScript | activate | deactivate | setGate | setFlag
  | saveKeys => exact mem

/-- The latest trades of a user, as many as are looked at for a warning, the newest first. -/
def latestOf (s : Store) (user : String) : List Trade :=
  (s.trades.filter (·.user == user)).reverse.take 3

end Store

namespace Service

theorem tradesOf_caller (s : Store) {c : Caller} (named : c.user ≠ "") :
    ∃ count, s.tradesOf ⟨"", c.user, ""⟩ keyWindow = .ok (s.latestOf c.user, count) := by
  have admits : (⟨"", c.user, ""⟩ : TradeFilter).admits = fun t => t.user == c.user := by
    funext t
    have someone : c.user.isEmpty = false := by
      rw [Bool.eq_false_iff]
      exact fun nobody => named (String.isEmpty_iff.mp nobody)
    have any : "".isEmpty = true := rfl
    simp only [TradeFilter.admits, someone, any, Bool.false_or, Bool.true_or, Bool.true_and,
      Bool.and_true]
  refine ⟨(s.trades.filter (·.user == c.user)).reverse.length, ?_⟩
  simp only [Store.tradesOf, admits]
  rfl

/-- A caller whose latest trades all tell of the key is asked to reconnect it. -/
theorem keyStatus_of_marked {s : Store} {c : Caller} (named : c.user ≠ "")
    (full : (s.latestOf c.user).length = 3)
    (marked : ∀ t ∈ s.latestOf c.user, (recordOf t).IsMarked) :
    keyStatus c s = ok (.object
      [("needsReconnect", .bool true), ("warning", .text (OrderRecord.warning 3))]) := by
  obtain ⟨count, found⟩ := tradesOf_caller s named
  have records : ((s.latestOf c.user).map recordOf).length = 3 := by
    rw [List.length_map, full]
  have warns : OrderRecord.warning? keyWindow ((s.latestOf c.user).map recordOf) =
      .ok (some (OrderRecord.warning 3)) := by
    have := OrderRecord.warning?_of_marked (List.forall_mem_map.mpr marked)
    rwa [records] at this
  simp only [keyStatus, found, warns]
  rfl

end Service

namespace World

/-- Whether a run that goes on in a world marks its trade, a pending one, as refused with an
error. -/
inductive Refuses (id : Int) (e : OrderError) : World → World → Prop where
  | intro {w : World} {before after : List Task} {task : Task} {k : Desk → Program Desk Unit}
      {t : Trade} {text : String} (busy : w.busy = before ++ task :: after)
      (written : e.message = .whole text)
      (rest : task.rest = .act (Run.markRefused id e text) k) (known : t ∈ w.desk.store.trades)
      (number : t.id = id) (pending : t.status = .pending) :
      Refuses id e w
        ⟨Run.markRefused id e text w.desk, before ++ { task with rest := k w.desk } :: after⟩

/-- Whether the order of a trade was refused with an error from one world to the next. -/
def RefusedIn (worlds : List World) (id : Int) (e : OrderError) : Prop :=
  ∃ later w' w earlier, worlds = later ++ w' :: w :: earlier ∧ Refuses id e w w'

variable {w w' : World} {worlds earlier : List World} {id : Int} {message code : Json}

theorem RefusedIn.mono {e : OrderError} {more : List World} (h : RefusedIn worlds id e)
    (old : worlds <:+ more) : RefusedIn more id e := by
  obtain ⟨later, w', w, earlier, rfl, refuses⟩ := h
  obtain ⟨latest, rfl⟩ := old
  exact ⟨latest ++ later, w', w, earlier, (List.append_assoc ..).symm, refuses⟩

/-- A trade whose order was refused for the key has failed, and tells of the message. -/
theorem Refuses.fails (h : Refuses id (.keyRefused message code) w w') :
    ∃ t ∈ w'.desk.store.trades, t.id = id ∧ t.status = .failed ∧
      t.error.map Text.whole = some message.asText := by
  cases h with
  | @intro before after task k t text busy written rest known number pending =>
    refine ⟨{ t with status := .failed, error := some text }, ?_, number, rfl,
      congrArg some written.symm⟩
    refine List.mem_map.mpr ⟨t, known, ?_⟩
    simp only [number, beq_self_eq_true, Store.isPending, pending, decide_true, Bool.and_self,
      if_true]

/-- A trade that was over in an earlier world is as it was. -/
theorem History.keeps_over (h : History (w :: earlier)) {t : Trade} (done : t.IsOver) :
    ∀ w' ∈ w :: earlier, t ∈ w'.desk.store.trades → t ∈ w.desk.store.trades := by
  have old := h.related (R := fun s s' => t ∈ s.trades → t ∈ s'.trades) (fun _ mem => mem)
    (fun first second mem => second (first mem)) fun _ change mem => change.keeps_over mem done
  intro w' mem
  rcases List.mem_cons.mp mem with rfl | mem
  · exact id
  · exact old w' mem

/-- In the latest world a trade whose order was refused for the key still tells so. -/
theorem History.refused (h : History (w :: earlier))
    (refused : RefusedIn (w :: earlier) id (.keyRefused message code)) {t : Trade}
    (mem : t ∈ w.desk.store.trades) (number : t.id = id) :
    t.status = .failed ∧ t.error.map Text.whole = some message.asText := by
  obtain ⟨later, v', v, old, split, refuses⟩ := refused
  obtain ⟨u, marked, same, failed, told⟩ := refuses.fails
  have done : u.IsOver := by
    constructor <;> rw [failed] <;> decide
  have known : v' ∈ w :: earlier := by simp [split]
  have now := h.keeps_over done v' known marked
  -- numbers tell trades apart
  have unique := h.debited.debitsMatch.trades
  obtain rfl : t = u := List.inj_on_of_nodup_map unique mem now (number.trans same.symm)
  exact ⟨failed, told⟩

section Runs

variable {ν : Type} {config : Config} {a : Activation} {flags : Option Flags} {gate : Gate}
  {signal : Signal Real64} {r : Run.Reserved} {s : Store} {e : OrderError} {text : String}
  {around : Surroundings Desk ν} {v : ν}

/-- Placing a market order by oneself changes nothing at the desk. -/
theorem placeMarket_moves (alone : around.Within fun d d' => d' = d) {d : Desk}
    (refused : ((Run.placeMarket config r).run around (d, v)).1 = .error e) :
    Relation.ReflTransGen Program.Move (Run.placeMarket config r, d) (.done (.error e), d) := by
  have looks := Run.placeMarket_looks (R := fun d d' : Desk => d' = d) (fun _ => rfl) config r
  obtain ⟨-, same, -⟩ :=
    looks.run (fun _ => rfl) (fun first second => second.trans first) alone (d, v)
  have moves := Program.run_moves (Run.placeMarket config r) alone (d, v)
  rwa [refused, same] at moves

/-- A run whose order is refused goes on to mark its trade. -/
theorem run_moves_to_refusal {d : Desk} (alone : around.Within fun d d' => d' = d)
    (gates : Run.passGates a flags d.store = .ok gate)
    (commits : Run.commit config a gate signal d.now d.store = .ok (r, s))
    (refused : ((Run.placeMarket config r).run around ({ d with store := s }, v)).1 = .error e)
    (written : e.message = .whole text) :
    ∃ k, Relation.ReflTransGen Program.Move
      ((Activity.run a flags (some signal)).program config, d)
      (.act (Run.markRefused r.trade e text) k, { d with store := s }) := by
  have looks : Relation.ReflTransGen Program.Move
      (Run.run config a flags (some signal), d) (Run.follow config a gate (.ok signal), d) := by
    have read := Program.Move.act id
      (fun d : Desk => Program.done (σ := Desk) (Run.passGates a flags d.store)) d
    rw [gates] at read
    rw [Run.run_eq]
    exact Program.moves_bind _ (.single read)
  have reserves : Relation.ReflTransGen Program.Move
      (Run.follow config a gate (.ok signal), d)
      (Run.place config a signal r, { d with store := s }) := by
    have commit := Program.Move.act (fun d => (Run.commitOn config a gate signal d).2)
      (fun d => Program.done (σ := Desk) (Run.commitOn config a gate signal d).1) d
    rw [Run.commitOn_ok commits] at commit
    exact Program.moves_bind _ (.single commit)
  have places : Relation.ReflTransGen Program.Move
      (Run.place config a signal r, { d with store := s })
      (.act (Run.markRefused r.trade e text) fun _ => .done
        (.ok (Run.tradedResult a signal r (Run.refusedOutcome e) text)), { d with store := s }) := by
    have concludes : Relation.ReflTransGen Program.Move
        (Run.place config a signal r, { d with store := s })
        (Run.conclude config a signal r (Run.markFor (.error e)), { d with store := s }) :=
      Program.moves_bind _ (placeMarket_moves alone refused)
    rwa [Run.markFor_refused.mpr ⟨rfl, written⟩] at concludes
  have runs := looks.trans (reserves.trans places)
  exact ⟨_, Program.moves_bind (fun _ => .done ()) runs⟩

/-- A run that nobody disturbs, and whose order is refused, marks its trade. -/
theorem History.refuse {w : World} {earlier : List World} (h : History (w :: earlier))
    (alone : around.Within fun d d' => d' = d)
    (gates : Run.passGates a flags w.desk.store = .ok gate)
    (commits : Run.commit config a gate signal w.desk.now w.desk.store = .ok (r, s))
    (refused : ((Run.placeMarket config r).run around ({ w.desk with store := s }, v)).1 =
      .error e) (written : e.message = .whole text) :
    ∃ w' later, History (w' :: later) ∧ w :: earlier <:+ w' :: later ∧
      w'.desk = Run.markRefused r.trade e text { w.desk with store := s } ∧
      RefusedIn (w' :: later) r.trade e := by
  obtain ⟨k, moves⟩ := run_moves_to_refusal alone gates commits refused written
  have begun := h.step (.begin w config (.run a flags (some signal)))
  obtain ⟨between, reached, old⟩ := begun.moves (fun sets => sets) moves
  obtain ⟨quantity, reserved⟩ := Run.commit_ok commits
  obtain ⟨t, made, number, trades⟩ := Store.reserve_trades reserved
  have known : t ∈ s.trades := by simp [trades]
  have pending := (Reservation.trade_ok made).2.1
  let d : Desk := { w.desk with store := s }
  let task (p : Program Desk Unit) : Task := ⟨.run a flags (some signal), p⟩
  let marking : Program Desk Unit := .act (Run.markRefused r.trade e text) k
  have refuses : Refuses r.trade e ⟨d, task marking :: w.busy⟩
      ⟨Run.markRefused r.trade e text d, task (k d) :: w.busy⟩ :=
    @Refuses.intro _ _ _ [] w.busy (task marking) k t text rfl written rfl known number pending
  have step : Step ⟨d, task marking :: w.busy⟩
      ⟨Run.markRefused r.trade e text d, task (k d) :: w.busy⟩ :=
    @Step.go _ [] w.busy (task marking) (k d) _ rfl (.act _ _ _) fun sets => absurd sets id
  refine ⟨_, _, reached.step step, ?_, rfl, [], _, _, between, rfl, refuses⟩
  exact ((List.suffix_cons _ _).trans old).trans (List.suffix_cons _ _)

end Runs

end World

/-- **Refused keys are warned of.** In every world that comes about, a user of some name whose three
latest trades failed because the exchange refused the key, with messages that point at it, is asked
to reconnect the key. -/
theorem refused_keys_warn {w : World} {earlier : List World} (h : World.History (w :: earlier))
    (c : Caller) (named : c.user ≠ "") (full : (w.desk.store.latestOf c.user).length = 3)
    (refused : ∀ t ∈ w.desk.store.latestOf c.user, ∃ message code,
      World.RefusedIn (w :: earlier) t.id (.keyRefused message code) ∧
        Refusal.hasMarker message = .ok true) :
    Service.keyStatus c w.desk.store = Service.ok (.object
      [("needsReconnect", .bool true), ("warning", .text (OrderRecord.warning 3))]) := by
  apply Service.keyStatus_of_marked named full
  intro t latest
  obtain ⟨message, code, marked, points⟩ := refused t latest
  have mem : t ∈ w.desk.store.trades := by
    have := List.mem_of_mem_take latest
    rw [List.mem_reverse] at this
    exact List.mem_of_mem_filter this
  obtain ⟨failed, told⟩ := h.refused marked mem rfl
  constructor
  · simp only [Service.recordOf, failed, decide_true]
  · obtain ⟨text, error, written⟩ := Option.map_eq_some_iff.mp told
    refine ⟨text, by simp only [Service.recordOf, error, Json.ofText?], ?_⟩
    rw [written]
    exact Refusal.marksKey_asText points

namespace World.Refused

def switchOn : Arguments :=
  [("user_id", .text "ada"), ("script_id", .text "cross"), ("enabled", .bool true)]

def keys : Arguments :=
  [("user_id", .text "ada"), ("api_key", .text "key"), ("api_secret", .text "secret")]

def switchedOn : Desk :=
  Activity.perform .sample "scripts" "set_bot_enabled" switchOn Sample.funded

def tradable : Desk := Activity.perform .sample "settings" "save_exchange_keys" keys switchedOn

/-- The signal for the candle of a time. -/
def signal (time : Int) : Signal Real64 := { Run.Sample.signal with candleTime := .int time }

/-- What a run for the candle of a time reserves. -/
def reserved? (time : Int) (d : Desk) : Option (Run.Reserved × Store) :=
  match Run.passGates Run.Sample.activation none d.store with
  | .ok gate =>
    (Run.commit .sample Run.Sample.activation gate (signal time) d.now d.store).toOption
  | .error _ => none

/-- The desk after the order for the candle of a time was refused. -/
def refused (e : OrderError) (time : Int) (d : Desk) : Desk :=
  match reserved? time d with
  | some (r, s) => Run.markRefused r.trade e e.message.characters { d with store := s }
  | none => d

/-- The desk after the orders for three candles were refused. -/
def thrice (e : OrderError) : Desk := refused e 7 (refused e 6 (refused e 5 tradable))

def answering (body : String) : Surroundings Desk Unit where
  reply _ w := (.answer 400 body, w)
  second := id

/-- The refusal in an answer. -/
def refusal (body : String) : OrderError := Refusal.ofAnswer 400 (Json.readBody body)

theorem refused_answer (body : String) (r : Run.Reserved) (w : Desk × Unit) :
    ((Run.placeMarket .sample r).run (answering body) w).1 = .error (refusal body) := rfl

theorem refuse_once {w : World} {earlier : List World} (h : History (w :: earlier)) {body : String}
    {text : String} (written : (refusal body).message = .whole text) {time id : Int} (room : (reserved? time w.desk).map (·.1.trade) = some id) :
    ∃ w' later, History (w' :: later) ∧ w :: earlier <:+ w' :: later ∧
      w'.desk = refused (refusal body) time w.desk ∧
      RefusedIn (w' :: later) id (refusal body) := by
  obtain ⟨⟨r, s⟩, reserves, rfl⟩ := Option.map_eq_some_iff.mp room
  simp only [refused, reserves]
  unfold reserved? at reserves
  split at reserves
  · rename_i gate gates
    cases commits : Run.commit .sample Run.Sample.activation gate (signal time) w.desk.now
      w.desk.store with
    | error ending =>
      rw [commits] at reserves
      cases reserves
    | ok made =>
      rw [commits] at reserves
      cases reserves
      have alone : (answering body).Within fun d d' : Desk => d' = d :=
        ⟨fun _ _ => rfl, fun _ => rfl⟩
      have refused := refused_answer body r ({ w.desk with store := s }, ())
      rw [written]
      exact h.refuse alone gates commits refused written
  · cases reserves

theorem tradable_history : ∃ w earlier, History (w :: earlier) ∧ w.desk = tradable := by
  have range : Sample.funded.store.InRange :=
    Store.inRange_of_profiles fun p hp => ⟨5, by rw [List.mem_singleton.mp hp]; rfl, by decide⟩
  have funded := (History.start .sample 0).perform .sample "coins" "ensure_profile" Sample.profile
    fun _ => range
  have switched := funded.perform .sample "scripts" "set_bot_enabled" switchOn fun sets =>
    absurd sets.1 (by decide)
  have keyed := switched.perform .sample "settings" "save_exchange_keys" keys fun sets =>
    absurd sets.1 (by decide)
  exact ⟨_, _, keyed, rfl⟩

/-- Whether runs for three candles reserve a trade each, one after the other. -/
def HasRoom (e : OrderError) : Prop :=
  (reserved? 5 tradable).map (·.1.trade) = some 1 ∧
    (reserved? 6 (refused e 5 tradable)).map (·.1.trade) = some 2 ∧
    (reserved? 7 (refused e 6 (refused e 5 tradable))).map (·.1.trade) = some 3 ∧
    ((thrice e).store.latestOf "ada").map (·.id) = [3, 2, 1]

/-- Orders for three candles can be refused in turn. -/
theorem refuse_thrice {body text : String} (written : (refusal body).message = .whole text)
    (room : HasRoom (refusal body)) :
    ∃ w earlier, History (w :: earlier) ∧ w.desk = thrice (refusal body) ∧
      (w.desk.store.latestOf "ada").length = 3 ∧
      ∀ t ∈ w.desk.store.latestOf "ada", RefusedIn (w :: earlier) t.id (refusal body) := by
  obtain ⟨first, second, third, latest⟩ := room
  obtain ⟨w, earlier, so, desk⟩ := tradable_history
  rw [← desk] at first second third
  obtain ⟨w₁, earlier₁, so₁, -, desk₁, refused₁⟩ := refuse_once so written first
  rw [← desk₁] at second third
  obtain ⟨w₂, earlier₂, so₂, old₂, desk₂, refused₂⟩ := refuse_once so₁ written second
  rw [← desk₂] at third
  obtain ⟨w₃, earlier₃, so₃, old₃, desk₃, refused₃⟩ := refuse_once so₂ written third
  have reached : w₃.desk = thrice (refusal body) := by
    rw [desk₃, desk₂, desk₁, desk]
    rfl
  refine ⟨w₃, earlier₃, so₃, reached, ?full, ?each⟩
  case full =>
    have := congrArg List.length latest
    rwa [List.length_map, ← reached] at this
  case each =>
    intro t mem
    have number : t.id ∈ ([3, 2, 1] : List Int) := by
      rw [← latest, ← reached]
      exact List.mem_map_of_mem mem
    simp only [List.mem_cons, List.not_mem_nil, or_false] at number
    rcases number with third | second | first
    · exact third ▸ refused₃
    · exact second ▸ refused₂.mono old₃
    · exact first ▸ (refused₁.mono old₂).mono old₃

/-- An answer whose message points at the key. -/
def badKey : String :=
  "\x7b\"code\": -2015, \"msg\": \"Invalid API-key, IP, or permissions for action.\"\x7d"

/-- An answer of which only the code points at the key. -/
def badSignature : String :=
  "\x7b\"code\": -1022, \"msg\": \"Signature for this request is not valid.\"\x7d"

/-- The message and the code of a refusal of the key. -/
def told? : OrderError → Option (String × Int)
  | .keyRefused (.text (.whole message)) (.int code) => some (message, code)
  | _ => none

theorem eq_of_told {e : OrderError} {message : String} {code : Int}
    (h : told? e = some (message, code)) : e = .keyRefused (.text message) (.int code) := by
  unfold told? at h
  split at h
  · cases h
    rfl
  · cases h

theorem badKey_told : refusal badKey =
    .keyRefused (.text "Invalid API-key, IP, or permissions for action.") (.int (-2015)) :=
  eq_of_told (by decide +kernel)

theorem badSignature_told : refusal badSignature =
    .keyRefused (.text "Signature for this request is not valid.") (.int (-1022)) :=
  eq_of_told (by decide +kernel)

theorem hasRoom_badKey : HasRoom (refusal badKey) := by
  rw [badKey_told]
  refine ⟨?_, ?_, ?_, ?_⟩ <;> decide +kernel

theorem hasRoom_badSignature : HasRoom (refusal badSignature) := by
  rw [badSignature_told]
  refine ⟨?_, ?_, ?_, ?_⟩ <;> decide +kernel

end World.Refused

open World.Refused in
theorem bad_key_warned : ∃ w earlier, World.History (w :: earlier) ∧
    w.desk = thrice (refusal badKey) ∧
    Service.keyStatus ⟨"ada", .user⟩ w.desk.store = Service.ok (.object
      [("needsReconnect", .bool true), ("warning", .text (OrderRecord.warning 3))]) := by
  obtain ⟨w, earlier, so, desk, full, refused⟩ := 
    refuse_thrice (congrArg OrderError.message badKey_told) hasRoom_badKey
  refine ⟨w, earlier, so, desk, refused_keys_warn so ⟨"ada", .user⟩ (by decide) full ?_⟩
  intro t mem
  exact ⟨_, _, badKey_told ▸ refused t mem, by decide +kernel⟩

open World.Refused in
/-- Refusals that only a code tells of: nobody is asked to reconnect the key. -/
theorem bad_signature_unwarned : ∃ w earlier, World.History (w :: earlier) ∧
    (w.desk.store.latestOf "ada").length = 3 ∧
    (∀ t ∈ w.desk.store.latestOf "ada", ∃ message code,
      World.RefusedIn (w :: earlier) t.id (.keyRefused message code)) ∧
    Service.keyStatus ⟨"ada", .user⟩ w.desk.store = Service.ok (.object
      [("needsReconnect", .bool false), ("warning", .null)]) := by
  obtain ⟨w, earlier, so, desk, full, refused⟩ := 
    refuse_thrice (congrArg OrderError.message badSignature_told) hasRoom_badSignature
  refine ⟨w, earlier, so, full, ?told, ?unwarned⟩
  case told =>
    intro t mem
    exact ⟨_, _, badSignature_told ▸ refused t mem⟩
  case unwarned =>
    obtain ⟨count, found⟩ := Service.tradesOf_caller (c := ⟨"ada", .user⟩) w.desk.store (by decide)
    have silent : (OrderRecord.warning? Service.keyWindow
        ((w.desk.store.latestOf "ada").map Service.recordOf)).toOption.join = none := by
      rw [desk, badSignature_told]
      decide +kernel
    simp only [Service.keyStatus, found, silent]
    rfl

end SignalDesk
