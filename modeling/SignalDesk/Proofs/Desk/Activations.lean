import SignalDesk.Proofs.Desk.Gates
import SignalDesk.Proofs.Store.Register
import SignalDesk.Proofs.Sweep.Repetition

/-!
# Activations in the course of a session

Activations are turned by statements only (`Deed.activationCall?`), and while the register stays as
it is, all trades are in the names of activations that are listed, given, or run live by a caller
(`Desk.allows_registered`). So after any deeds, once a user has withdrawn from a script, neither
sweeps nor dispatches trade it for the user: only the user's own live requests do, since access to a
script outlasts its activations (`trades_follow_activations`).
-/

namespace SignalDesk

/-- Whether the register is that of a store. -/
def Desk.HasRegister (s : Store) (d : Desk) : Prop := s.SameRegister d.store

/-- Whether a trade is in the names of an activation of `A`. -/
def TradeIdentity.IsOf (A : Activation → Prop) (t : TradeIdentity) : Prop :=
  ∃ a, A a ∧ a.Names t.user t.script t.timeframe

theorem Store.SameRegister.of_reserve {s s' : Store} {r : Reservation} {now : String} {id : Int}
    (h : s.reserve r now = .ok (id, s')) : s.SameRegister s' := by
  obtain ⟨t, p, -, -, rfl⟩ := reserve_ok h
  exact ⟨rfl, rfl, rfl⟩

theorem Desk.Marks.register {d d' : Desk} (h : d.Marks d') : d.store.SameRegister d'.store := by
  obtain ⟨trades, -, rfl⟩ := h
  exact ⟨rfl, rfl, rfl⟩

theorem Desk.SameStore.register {d d' : Desk} (same : d.SameStore d') :
    d.store.SameRegister d'.store := by
  rw [show d'.store = d.store from same]
  exact .refl _

theorem Run.commitOn_register (config : Config) (a : Activation) (gate : Gate)
    (signal : Signal Real64) (d : Desk) :
    d.store.SameRegister (commitOn config a gate signal d).2.store := by
  simp only [commitOn]
  split
  · exact .refl _
  · rename_i committed
    obtain ⟨_, reserved⟩ := commit_ok committed
    exact .of_reserve reserved

section Registered

variable {s : Store} {A : Activation → Prop}

theorem Run.run_registered (config : Config) {a : Activation} (flags : Option Flags)
    (signal : Option (Signal Real64)) (fit : A a) :
    (run config a flags signal).Under (Desk.HasRegister s) (Desk.Makes (TradeIdentity.IsOf A))
      fun _ => True := by
  rw [run_eq]
  refine Program.Under.bind (Program.Under.read Desk.Makes.refl) fun passed _ => ?_
  cases passed with
  | error r => exact trivial
  | ok gate =>
    refine .of_within (passed_within config a gate signal ?rests ?marks ?commits) fun d d' h => h
    case rests => exact fun d d' same holds => ⟨holds.trans same.register, .of_same same⟩
    case marks => exact fun d d' marks holds => ⟨holds.trans marks.register, .of_marks marks⟩
    case commits =>
      intro signal d holds
      refine ⟨holds.trans (commitOn_register ..), (commitOn_makes d).mono fun t fresh => ?_⟩
      exact ⟨a, fit, fresh.names⟩

/-- **While the register stays as it is**, whatever a desk does on its own makes only trades in the
names of activations that it lists or runs. -/
theorem Desk.allows_registered (lists : ∀ d, Desk.HasRegister s d → d.Lists A) :
    Desk.Allows (Desk.HasRegister s) A
      (Program.Under (Desk.HasRegister s) (Desk.Makes (TradeIdentity.IsOf A))) where
  composes := Program.Under.composes _ _
  same h := .of_within h fun _ _ same holds => ⟨holds.trans same.register, .of_same same⟩
  minor h := .atomically fun d holds =>
    ⟨⟨holds.trans (h d).register, .of_same_made (h d).gates (h d).made⟩, trivial⟩
  lists := lists
  reads _ := Program.Under.read Desk.Makes.refl
  run config _ flags signal fit := Run.run_registered config flags signal fit

end Registered

theorem Store.SameRegister.callerFor {s s' : Store} (same : s.SameRegister s') (service : Service)
    (authorization : Json) (r : Route) :
    service.callerFor authorization r s' = service.callerFor authorization r s := by
  simp only [Service.callerFor, Service.caller, Store.resolveToken?, same.tokens]

theorem Store.SameRegister.mayUse {s s' : Store} (same : s.SameRegister s') (c : Caller)
    (script : String) : Service.mayUse c script s' = Service.mayUse c script s := by
  simp only [Service.mayUse, Store.canAccess, same.scripts, same.activations]

theorem Store.SameRegister.isActive {s s' : Store} {user script : String}
    (same : s.SameRegister s') (active : s'.IsActive user script) : s.IsActive user script := by
  rwa [IsActive, ← same.activations]

theorem Service.scriptFor_ok {c : Caller} {id : Json} {label : Label} {s : Store}
    (h : scriptFor c id s = .ok label) :
    ∃ script, label.stored = some script ∧ mayUse c script s = true := by
  simp only [scriptFor] at h
  split at h
  · cases h
  · cases h
  · split at h
    · rename_i may
      cases h
      exact (Option.any_eq_true _ _).mp may
    · cases h

/-- Whether an activation can be run as one that is on, or live by a caller who may use its
script. -/
inductive Activation.Runs (s : Store) (live : Caller → Prop) (a : Activation) : Prop where
  | active {user script : String} (isUser : a.user.stored = some user)
      (isScript : a.script.stored = some script) (active : s.IsActive user script)
  | live {c : Caller} {script : String} (live : live c) (isUser : a.user.stored = some c.user)
      (isScript : a.script.stored = some script) (may : Service.mayUse c script s = true)

theorem Desk.HasRegister.lists {s : Store} {live : Caller → Prop} {d : Desk}
    (h : d.HasRegister s) : d.Lists (Activation.Runs s live) := by
  intro script timeframe as listed a member
  obtain ⟨user, script, isUser, isScript, active⟩ := Store.activations?_active listed member
  exact .active isUser isScript (h.isActive active)

/-- A live evaluation runs an activation that is on, or one for its caller. -/
theorem Caller.runsOnly {s : Store} {live : Caller → Prop} {c : Caller} (asks : live c) :
    c.RunsOnly (Desk.HasRegister s) (Activation.Runs s live) := by
  intro d d' holds holds' id label may timeframe e script a activation
  obtain ⟨found, looked, rfl⟩ := map_ok.mp activation
  cases found with
  | some b =>
    simp only [DryRun.activationFor?, bind_ok, pure_ok] at looked
    obtain ⟨_, -, _, -, as, listed, first⟩ := looked
    exact holds'.lists _ _ as (mapError_ok.mp listed) b (List.mem_of_find?_eq_some first)
  | none =>
    obtain ⟨name, stored, may⟩ := Service.scriptFor_ok may
    exact .live asks rfl stored (holds.mayUse c name ▸ may)

/-- The call of a statement that is answered, if it names an activation. -/
def Statement.activationCall? (config : Config) (name : String) (arguments : Arguments) (d : Desk)
    (activates : Bool) : Option ActivationCall :=
  match perform "scripts" name ⟨d.now, config.startingCoins⟩ arguments d.store,
      tupleOf arguments with
  | .ok _, .ok (some user, some script, some timeframe) =>
    some ⟨user, script, timeframe, activates⟩
  | _, _ => none

/-- The call of a deed, if it turns an activation. -/
def Deed.activationCall? {ν : Type} (s : Session ν) : Deed ν → Option ActivationCall
  | .errand (.statement part name arguments) =>
    let call := Statement.activationCall? s.service.config name arguments s.desk
    if part = "scripts" ∧ name = "activate" then call true
    else if part = "scripts" ∧ name = "deactivate" then call false
    else none
  | _ => none

/-- Whether a deed gives an activation to be run, whether or not it is listed. -/
def Deed.Gives {ν : Type} : Deed ν → Prop
  | .errand e => ∃ x ∈ e.orders, ∃ a, x.choice = .given a
  | _ => False

/-- Whether a deed writes the document of an activation. -/
def Deed.Rewrites {ν : Type} : Deed ν → Prop
  | .errand (.rewrite ..) => True
  | _ => False

/-- Whether a deed is a live request of a caller. -/
def Deed.RunsLive {ν : Type} (s : Session ν) (c : Caller) : Deed ν → Prop
  | .errand (.request authorization r) =>
    r.IsLive ∧ s.service.callerFor authorization r s.desk.store = .ok c
  | _ => False

theorem Statement.activationCall?_refused {config : Config} {name : String}
    {arguments : Arguments} {d : Desk} {e : StatementError} (activates : Bool)
    (refused : perform "scripts" name ⟨d.now, config.startingCoins⟩ arguments d.store = .error e) :
    activationCall? config name arguments d activates = none := by
  simp only [activationCall?, refused]

/-- A statement that is refused turns no activation. -/
theorem Deed.activationCall?_refused {ν : Type} {s : Session ν} {part name : String}
    {arguments : Arguments} {e : StatementError}
    (refused : Statement.perform part name ⟨s.desk.now, s.service.config.startingCoins⟩ arguments
      s.desk.store = .error e) :
    (Deed.errand (.statement part name arguments) : Deed ν).activationCall? s = none := by
  simp only [activationCall?]
  split
  · rename_i named
    exact Statement.activationCall?_refused true (named.1 ▸ refused)
  split
  · rename_i named
    exact Statement.activationCall?_refused false (named.1 ▸ refused)
  · rfl

/-- A statement turns the activation of its call, if it has one. -/
theorem Session.registers_statement {ν : Type} (s : Session ν) {part name : String}
    {arguments : Arguments} {calls : List ActivationCall} (h : s.desk.store.Registers calls) :
    let deed : Deed ν := .errand (.statement part name arguments)
    (Errand.statementOn s.service.config part name arguments s.desk).2.store.Registers
      (calls ++ (deed.activationCall? s).toList) := by
  simp only [Errand.statementOn]
  split
  · rename_i performed
    simp only [Deed.activationCall?]
    split
    · rename_i named
      obtain ⟨rfl, rfl⟩ := named
      obtain ⟨user, script, timeframe, told, rfl⟩ := Statement.perform_activate performed
      simp only [Statement.activationCall?, performed, told]
      exact h.activate _ _
    split
    · rename_i named
      obtain ⟨rfl, rfl⟩ := named
      obtain ⟨named, told, rfl⟩ := Statement.perform_deactivate performed
      simp only [Statement.activationCall?, performed, told]
      split
      · exact h.deactivate
      · rename_i short
        split
        · rename_i same
          cases same
          exact (short _ _ _ rfl).elim
        · rw [Option.toList_none, List.append_nil]
          exact h
    · rename_i notOn notOff
      rw [Option.toList_none, List.append_nil]
      exact h.of_same (Statement.perform_activations performed fun isPart =>
        ⟨fun named => notOn ⟨isPart, named⟩, fun named => notOff ⟨isPart, named⟩⟩)
  · rename_i refused
    rw [Deed.activationCall?_refused refused, Option.toList_none, List.append_nil]
    exact h

theorem Deed.activationCall?_of_isPlain {ν : Type} {s : Session ν} {x : Deed ν}
    (plain : ∀ e, x = .errand e → e.IsPlain) : x.activationCall? s = none := by
  cases x with
  | errand e =>
    have plain := plain e rfl
    cases e with
    | statement => exact plain.elim
    | _ => rfl
  | _ => rfl

theorem Service.adjustCoins_register (admin : Caller) (user : Json) (body : Service.Body)
    (d : Desk) : d.store.SameRegister (adjustCoins admin user body d).2.store := by
  rcases adjustCoins_adjusts admin user body d with same | ⟨name, delta, note, figures, adjusted⟩
  · rw [same]
    exact .refl _
  · exact Store.adjust_register adjusted

namespace Session

variable {ν : Type} (w : Network ν) (s : Session ν)

/-- Deeds that turn neither gates nor activations, and write no document, leave the register alone
and make only trades in the names of what they list or run. -/
theorem does_registered {x : Deed ν} (plain : ∀ e, x = .errand e → e.IsPlain)
    (unwritten : ¬x.Rewrites) {A : Activation → Prop}
    (lists : ∀ d, Desk.HasRegister s.desk.store d → d.Lists A)
    (given : ∀ e, x = .errand e → ∀ order ∈ e.orders, order.choice.Fits A)
    (lives : ∀ c, x.RunsLive s c → c.RunsOnly (Desk.HasRegister s.desk.store) A) :
    s.desk.store.SameRegister (s.does w x).after.desk.store ∧
      s.desk.Makes (TradeIdentity.IsOf A) (s.does w x).after.desk := by
  have allows := Desk.allows_registered lists
  have lasts : Lasts (Desk.HasRegister s.desk.store) :=
    ⟨fun same holds => holds.trans same.register, fun _ _ holds => holds.trans ⟨rfl, rfl, rfl⟩⟩
  refine s.does_under w lasts (.refl _) allows ?_
  rintro e rfl
  refine allows.errand s.service (plain e rfl) (given e rfl) ?lives ?rewrites ?closings ?coins
  case lives =>
    rintro authorization r rfl live d holds c known
    exact lives c ⟨live, holds.callerFor s.service authorization r ▸ known⟩
  case rewrites =>
    rintro _ _ _ _ rfl
    exact absurd trivial unwritten
  case closings =>
    intro c id body
    refine .atomically fun d holds => ?_
    obtain ⟨minor, register⟩ := Service.closeTrade_minor c id body d
    exact ⟨⟨holds.trans register, .of_same_made minor.gates minor.made⟩, trivial⟩
  case coins =>
    intro c user body
    exact .atomically fun d holds => ⟨⟨holds.trans (Service.adjustCoins_register c user body d),
      Service.adjustCoins_makes c user body d⟩, trivial⟩

/-- What a deed writes that writes the document of an activation. -/
theorem does_rewrites {x : Deed ν} (written : x.Rewrites) :
    (s.does w x).after.desk.store = s.desk.store ∨
      ∃ user script timeframe document,
        s.desk.store.replaceOverrides user script timeframe document =
          .ok (s.does w x).after.desk.store := by
  cases x with
  | errand e =>
    cases e with
    | rewrite user script timeframe document =>
      have ended : (s.does w (.errand (.rewrite user script timeframe document))).after.desk =
          (Errand.rewriteOn user script timeframe document s.desk).2 := rfl
      rw [ended, Errand.rewriteOn]
      split
      · rename_i replaced
        exact .inr ⟨_, _, _, _, replaced⟩
      · exact .inl rfl
    | _ => exact written.elim
  | _ => exact written.elim

/-- **What deeds do to activations.** They are as their last calls left them. -/
theorem registers_does {calls : List ActivationCall} {x : Deed ν}
    (registers : s.desk.store.Registers calls) :
    (s.does w x).after.desk.store.Registers (calls ++ (x.activationCall? s).toList) := by
  by_cases plain : ∀ e, x = .errand e → e.IsPlain
  · rw [Deed.activationCall?_of_isPlain plain, Option.toList_none, List.append_nil]
    by_cases written : x.Rewrites
    · rcases s.does_rewrites w written with same | ⟨_, _, _, _, replaced⟩
      · rwa [same]
      · exact registers.replaceOverrides replaced
    · have kept := (s.does_registered w plain written (A := fun _ => True)
        (fun _ _ _ _ _ _ _ _ => trivial) (fun _ _ order _ => by cases order.choice <;> trivial)
        fun c _ => .any _ c).1
      exact registers.of_same kept.activations
  · obtain ⟨e, rfl, special⟩ : ∃ e, x = .errand e ∧ ¬e.IsPlain := by simpa using plain
    cases e with
    | statement part name arguments => exact s.registers_statement registers
    | restamp => exact (List.append_nil calls).symm ▸ registers.of_same rfl
    | request authorization route =>
      cases route with
      | setGate script enabled =>
        have kept := (perform_setGate w s authorization script enabled).2.2
        exact (List.append_nil calls).symm ▸ registers.of_same kept.activations
      | _ => exact absurd trivial special
    | _ => exact absurd trivial special

/-- **What deeds run.** Trades are in the names of activations that are on, or that a caller has run
live, but for those that a statement makes or that are of given activations. -/
theorem does_runs {x : Deed ν} (byRun : ¬x.Reserves) (listed : ¬x.Gives) :
    ∃ new, (s.does w x).after.desk.store.made = s.desk.store.made ++ new ∧
      ∀ t ∈ new, t.IsOf (Activation.Runs s.desk.store fun c => x.RunsLive s c) := by
  have nothing : (s.does w x).after.desk.store.made = s.desk.store.made →
      ∃ new, (s.does w x).after.desk.store.made = s.desk.store.made ++ new ∧
        ∀ t ∈ new, t.IsOf (Activation.Runs s.desk.store fun c => x.RunsLive s c) :=
    fun same => ⟨[], by rw [same, List.append_nil], by simp⟩
  by_cases plain : ∀ e, x = .errand e → e.IsPlain
  · by_cases written : x.Rewrites
    · rcases s.does_rewrites w written with same | ⟨_, _, _, _, replaced⟩
      · exact nothing (congrArg Store.made same)
      · exact nothing (congrArg (List.map Trade.identity) (Store.replaceOverrides_trades replaced))
    · refine (s.does_registered w plain written (fun d holds => holds.lists) ?given
        fun c asks => c.runsOnly asks).2.made
      case given =>
        rintro e rfl order member
        cases chosen : order.choice with
        | active => trivial
        | given a => exact absurd ⟨order, member, a, chosen⟩ listed
  · exact nothing (s.special_made w byRun plain)

/-- The calls that turn activations, in the order in which they come. -/
def activationCalls (w : Network ν) : List (Deed ν) → Session ν → List ActivationCall
  | [], _ => []
  | x :: deeds, s => (x.activationCall? s).toList ++ activationCalls w deeds (s.does w x).after

/-- After any deeds, activations are as the calls that came before have left them. -/
theorem registers_after {calls : List ActivationCall} {deeds : List (Deed ν)}
    (registers : s.desk.store.Registers calls) :
    (after w deeds s).desk.store.Registers (calls ++ activationCalls w deeds s) := by
  induction deeds generalizing s calls with
  | nil =>
    rw [activationCalls, List.append_nil]
    exact registers
  | cons x deeds ih =>
    have next := ih _ (s.registers_does w registers (x := x))
    rwa [List.append_assoc] at next

/-- **Trades follow activations.** After any deeds at a desk, take a user who has withdrawn from a
script: since the user last activated it on a timeframe, it was deactivated there. No sweep,
dispatch or other run of what is listed makes a trade of the script for the user. Only a live
request of the user does, and of those who may send one, besides administrators and owners of the
script, only such as have activated it at some time. -/
theorem trades_follow_activations (config : Config) (clock : Int) (n : ν) (deeds : List (Deed ν)) :
    let s := after w deeds (opening config clock n)
    let calls := activationCalls w deeds (opening config clock n)
    ∀ x : Deed ν, ¬x.Reserves → ¬x.Gives → ∀ t ∈ s.newTrades w x,
      Withdrawn calls t.user t.script →
        ∃ c, x.RunsLive s c ∧ c.user = t.user ∧
          (c.role = .admin ∨ s.desk.store.Owns t.user t.script ∨
            HasActivated calls t.user t.script) := by
  intro s calls x byRun listed t new withdrawn
  have start : (opening config clock n).desk.store.Registers [] := fun row member => nomatch member
  have registers : s.desk.store.Registers calls := registers_after w _ start
  obtain ⟨a, runs, names⟩ := s.forall_newTrades w (s.does_runs w byRun listed) t new
  cases runs with
  | active isUser isScript active =>
    have user := Option.some.inj (isUser.symm.trans names.user)
    have script := Option.some.inj (isScript.symm.trans names.script)
    rw [user, script] at active
    exact absurd active (registers.not_active withdrawn)
  | @live c _ live isUser isScript may =>
    have user : c.user = t.user := Option.some.inj (isUser.symm.trans names.user)
    have script := Option.some.inj (isScript.symm.trans names.script)
    refine ⟨c, live, user, ?_⟩
    simp only [Service.mayUse, Bool.or_eq_true, decide_eq_true_eq, user, script] at may
    exact may.imp_right registers.canAccess

namespace Sample

/-- A network on which the price of the market rises. -/
def rising : Network Unit where
  reply r _ := (Sweep.Sample.replies r, ⟨false, 0⟩, ())
  second _ := (⟨false, 1000⟩, ())

def turnsActivation (name : String) : Deed Unit :=
  .errand (.statement "scripts" name
    [("user_id", .text "ada"), ("script_id", .text "cross"), ("timeframe", .text "1h")])

/-- A user gets ready to trade a script of another one, activates it, and withdraws. -/
def withdrawing : List (Deed Unit) :=
  [.errand (.statement "scripts" "upsert_script"
      [("script_id", .text "cross"), ("owner_id", .text "grace"), ("name", .text "Cross"),
        ("script_content", .text "entryType=price_above threshold=2"),
        ("symbol", .text "BTCUSDT")]),
    .errand (.statement "coins" "ensure_profile" [("user_id", .text "ada")]),
    .errand (.statement "settings" "save_exchange_keys"
      [("user_id", .text "ada"), ("api_key", .text "key"), ("api_secret", .text "secret")]),
    .errand (.statement "settings" "create_api_token"
      [("token", .text "t"), ("user_id", .text "ada")]),
    call true 1, turnsActivation "activate", turnsActivation "deactivate"]

def withdrawn : Session Unit := after rising withdrawing first

def ada : Caller := ⟨"ada", .user⟩

def liveRoute : Route :=
  .execute (.text "evaluate-script")
    (.object [("scriptId", .text "cross"), ("dryRun", .bool false)]) .null .null

/-- The user asks for the script to be run. -/
def live : Deed Unit := .errand (.request (.text "Bearer t") liveRoute)

theorem withdrawing_withdraws :
    Withdrawn (activationCalls rising withdrawing first) "ada" "cross" := by
  have calls : activationCalls rising withdrawing first =
      [⟨"ada", "cross", "1h", true⟩, ⟨"ada", "cross", "1h", false⟩] := by decide +kernel
  rw [calls]
  decide

theorem live_known :
    withdrawn.service.callerFor (.text "Bearer t") liveRoute withdrawn.desk.store = .ok ada := by
  have token : Service.tokenOf (.text "Bearer t") = .ok (.whole "t") := rfl
  have stripped : Text.strip "t" = "t" := rfl
  have plugged : withdrawn.service.connected = true := rfl
  obtain ⟨stamp, tokens⟩ : ∃ stamp,
      withdrawn.desk.store.tokens = [⟨Sha256.hexDigest "t", "ada", .user, stamp⟩] := ⟨_, rfl⟩
  have resolved : withdrawn.desk.store.resolveToken? "t" = some ("ada", .user) := by
    simp [Store.resolveToken?, tokens]
  simp only [Service.callerFor, liveRoute, Route.isOpen, Route.needsAdmin, Service.caller, token,
    ok_bind, plugged, stripped, resolved]
  rfl

theorem live_trades :
    ∃ t ∈ withdrawn.newTrades rising live, t.user = "ada" ∧ t.script = "cross" := by
  have none : withdrawn.desk.store.trades.length = 0 := by decide +kernel
  have traded : (withdrawn.perform rising ((withdrawn.service.handle ada liveRoute).map
      .answer)).after.desk.store.trades.any (fun t => t.user = "ada" ∧ t.script = "cross") := by
    decide +kernel
  rw [newTrades, live, does_request rising withdrawn live_known, none, List.drop_zero]
  simpa using traded

end Sample

open Sample in
theorem sample_live_trade :
    ¬live.Reserves ∧ ¬live.Gives ∧ ∃ t ∈ withdrawn.newTrades rising live,
      Withdrawn (activationCalls rising withdrawing first) t.user t.script ∧
        ∃ c, live.RunsLive withdrawn c ∧ c.user = t.user ∧
          (c.role = .admin ∨ withdrawn.desk.store.Owns t.user t.script ∨
            HasActivated (activationCalls rising withdrawing first) t.user t.script) := by
  have listed : ¬live.Gives := by simp [live, Deed.Gives, Errand.orders]
  obtain ⟨t, new, user, script⟩ := live_trades
  have withdraws : Withdrawn (activationCalls rising withdrawing first) t.user t.script := by
    rw [user, script]
    exact withdrawing_withdraws
  exact ⟨id, listed, t, new, withdraws,
    trades_follow_activations rising .sample 0 () withdrawing live id listed t new withdraws⟩

open Sample in
/-- A user trades a script of another one after withdrawing from it. -/
theorem withdrawn_user_trades :
    live.RunsLive withdrawn ada ∧ ada.role ≠ .admin ∧ ¬withdrawn.desk.store.Owns ada.user "cross" ∧
      Withdrawn (activationCalls rising withdrawing first) ada.user "cross" ∧
      ∃ t ∈ withdrawn.newTrades rising live, t.user = ada.user ∧ t.script = "cross" :=
  ⟨⟨⟨rfl, rfl⟩, live_known⟩, by decide, by decide +kernel, withdrawing_withdraws, live_trades⟩

end Session
end SignalDesk
