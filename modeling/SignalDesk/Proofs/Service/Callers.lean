import SignalDesk.Proofs.Desk.Refusals
import SignalDesk.Proofs.Service.Intake

namespace SignalDesk

namespace TradeFilter

/-- The newest of the trades that a filter admits, and how many it admits in all. -/
def listing (f : TradeFilter) (limit : Int) (trades : List Trade) : List Trade × Nat :=
  let admitted := (trades.filter f.admits).reverse
  (Store.limited limit admitted, admitted.length)

theorem mem_of_listing {f : TradeFilter} {limit : Int} {trades : List Trade} {t : Trade}
    (shown : t ∈ (f.listing limit trades).1) : t ∈ trades := by
  have admitted : t ∈ (trades.filter f.admits).reverse := by
    simp only [listing, Store.limited] at shown
    split at shown
    · exact shown
    · exact List.mem_of_mem_take shown
  exact List.mem_of_mem_filter (List.mem_reverse.mp admitted)

/-- A filter for a user with a name admits trades of that user only. -/
theorem admits_user {f : TradeFilter} (named : f.user ≠ "") {t : Trade} (admitted : f.admits t) :
    t.user = f.user := by
  have someone : f.user.isEmpty = false :=
    Bool.eq_false_iff.mpr fun nobody => named (String.isEmpty_iff.mp nobody)
  simp only [admits, someone, Bool.false_or, Bool.and_eq_true, beq_iff_eq] at admitted
  exact admitted.1.2

end TradeFilter

namespace Store

/-- The trades of a user. -/
def tradesBy (s : Store) (user : String) : List Trade := s.trades.filter (·.user == user)

theorem mem_tradesBy {s : Store} {user : String} {t : Trade} :
    t ∈ s.tradesBy user ↔ t ∈ s.trades ∧ t.user = user := by
  simp [tradesBy]

theorem tradesOf_eq (s : Store) (f : TradeFilter) (limit : Int) :
    s.tradesOf f limit = (requireWord limit).map fun _ => f.listing limit s.trades := rfl

/-- What is listed for a user with a name is listed of that user's trades. -/
theorem listing_tradesBy (s : Store) {f : TradeFilter} (named : f.user ≠ "") (limit : Int) :
    f.listing limit s.trades = f.listing limit (s.tradesBy f.user) := by
  have own : (s.tradesBy f.user).filter f.admits = s.trades.filter f.admits := by
    rw [tradesBy, List.filter_filter]
    apply List.filter_congr
    intro t _
    cases admitted : f.admits t with
    | false => rfl
    | true => simp [TradeFilter.admits_user named admitted]
  simp only [TradeFilter.listing, own]

end Store

namespace Route

/-- Requests that show something of trades. -/
def ShowsTrades : Route → Prop
  | trades _ _ _ | keyStatus => True
  | _ => False

end Route

namespace Service

variable {c : Caller}

/-- What the caller is told of the exchange key, by the caller's latest trades. -/
def keyStatusOf (latest : List Trade) : Reply :=
  let warning := ((OrderRecord.warning? keyWindow (latest.map recordOf)).toOption).join
  ok (.object [("needsReconnect", .bool warning.isSome), ("warning", .ofText? warning)])

theorem keyStatus_eq (named : c.user ≠ "") (s : Store) :
    keyStatus c s = keyStatusOf ((s.tradesBy c.user).reverse.take 3) := by
  obtain ⟨count, found⟩ := tradesOf_caller s named
  simp only [keyStatus, found]
  rfl

/-- What a request for trades asks for: a filter for the caller's, and how many to show. -/
def asked (c : Caller) (limit status script : Json) : Except StoreError (TradeFilter × Int) := do
  let f : TradeFilter := ⟨← Store.wantedText status, c.user, ← Store.wantedText script⟩
  let count ← Store.rowLimit limit
  Store.requireWord count
  return (f, count)

theorem asked_user {limit status script : Json} {f : TradeFilter} {count : Int}
    (asks : asked c limit status script = .ok (f, count)) : f.user = c.user := by
  obtain ⟨status, -, asks⟩ := bind_ok.mp asks
  obtain ⟨script, -, asks⟩ := bind_ok.mp asks
  obtain ⟨count, -, asks⟩ := bind_ok.mp asks
  obtain ⟨-, -, asks⟩ := bind_ok.mp asks
  cases pure_ok.mp asks
  rfl

theorem trades_eq (c : Caller) (limit status script : Json) (s : Store) :
    trades c limit status script s =
      match asked c limit status script with
      | .error e => storeError e
      | .ok (f, count) => ok (tradesForm (f.listing count s.trades)) := by
  simp only [trades, asked]
  cases Store.wantedText status with
  | error e => rfl
  | ok status =>
    cases Store.wantedText script with
    | error e => rfl
    | ok script =>
      cases Store.rowLimit limit with
      | error e => rfl
      | ok count =>
        simp only [ok_bind, pure, Except.pure, Except.bind, Store.tradesOf_eq]
        cases Store.requireWord count <;> rfl

/-- A caller with a name is answered from the caller's own trades. -/
theorem trades_named (named : c.user ≠ "") (limit status script : Json) (s : Store) :
    trades c limit status script s =
      match asked c limit status script with
      | .error e => storeError e
      | .ok (f, count) => ok (tradesForm (f.listing count (s.tradesBy c.user))) := by
  rw [trades_eq]
  cases asks : asked c limit status script with
  | error e => rfl
  | ok asked =>
    obtain ⟨f, count⟩ := asked
    have same := asked_user asks
    simp only [s.listing_tradesBy (same ▸ named) count, same]

end Service

open Service in
/-- **Callers see their own trades.** In every state of the desk, a caller with a name is listed
trades of that user only, counts only these, and is told of the exchange key by the latest of them;
so desks with the same trades of the caller give the same answers. -/
theorem callers_see_own_trades (service : Service) {c : Caller} (named : c.user ≠ "") {ν : Type}
    (around : Surroundings Desk ν) (w : Desk × ν) :
    (∀ limit status script answer,
        ((service.handle c (.trades limit status script)).run around w).1 = .ok answer →
          ∃ f count shown total, asked c limit status script = .ok (f, count) ∧
            f.listing count (w.1.store.tradesBy c.user) = (shown, total) ∧
            answer = ⟨200, tradesForm (shown, total)⟩ ∧
            ∀ t ∈ shown, t ∈ w.1.store.trades ∧ t.user = c.user) ∧
      ((service.handle c .keyStatus).run around w).1 =
        keyStatusOf ((w.1.store.tradesBy c.user).reverse.take 3) ∧
      ∀ (r : Route) (w' : Desk × ν), r.ShowsTrades →
        w'.1.store.tradesBy c.user = w.1.store.tradesBy c.user →
          ((service.handle c r).run around w').1 = ((service.handle c r).run around w).1 := by
  have key : ∀ w : Desk × ν, ((service.handle c .keyStatus).run around w).1 =
      keyStatusOf ((w.1.store.tradesBy c.user).reverse.take 3) :=
    fun w => keyStatus_eq named w.1.store
  refine ⟨?listed, key w, ?alike⟩
  case listed =>
    intro limit status script answer answered
    have answered : trades c limit status script w.1.store = .ok answer := answered
    rw [trades_named named] at answered
    cases asks : asked c limit status script with
    | error e =>
      rw [asks] at answered
      cases answered
    | ok asked =>
      obtain ⟨f, count⟩ := asked
      rw [asks] at answered
      cases answered
      exact ⟨f, count, _, _, rfl, rfl, rfl, fun t shown =>
        Store.mem_tradesBy.mp (TradeFilter.mem_of_listing shown)⟩
  case alike =>
    intro r w' shows same
    cases r with
    | trades limit status script =>
      show trades c limit status script w'.1.store = trades c limit status script w.1.store
      rw [trades_named named, trades_named named, same]
    | keyStatus => rw [key, key, same]
    | _ => exact shows.elim

namespace Service.Sample

def ada : Caller := ⟨"ada", .user⟩

def nameless : Caller := ⟨"", .user⟩

/-- The latest trades, of any script and status. -/
def latest : Route := .trades (.int 20) .null .null

/-- A desk on which a token speaks for the user without a name. -/
def opened : Desk :=
  Activity.perform .sample "settings" "create_api_token"
    [("token", .text "t"), ("user_id", .text "")] World.Sample.traded

end Service.Sample

open Service.Sample in
theorem sample_caller_unaware :
    ada.user ≠ "" ∧ opened.store.tradesBy "ada" = World.Sample.traded.store.tradesBy "ada" ∧
      ((service.handle ada latest).run Run.Sample.silent (opened, ())).1 =
        ((service.handle ada latest).run Run.Sample.silent (World.Sample.traded, ())).1 := by
  have named : ada.user ≠ "" := by decide
  have same : opened.store.tradesBy "ada" = World.Sample.traded.store.tradesBy "ada" := rfl
  have alike := (callers_see_own_trades service named Run.Sample.silent
    (World.Sample.traded, ())).2.2
  exact ⟨named, same, alike latest (opened, ()) trivial same⟩

open Service.Sample in
/-- A caller whose name is empty has no trade, and is listed another user's. -/
theorem nameless_caller_sees_all :
    service.caller (.text "Bearer t") opened.store = .ok nameless ∧
      opened.store.tradesBy nameless.user = [] ∧
      ∃ t, opened.store.trades = [t] ∧ t.user = "ada" ∧
        ((service.handle nameless latest).run Run.Sample.silent (opened, ())).1 =
          Service.ok (tradesForm ([t], 1)) := by
  have token : Service.tokenOf (.text "Bearer t") = .ok (.whole "t") := rfl
  have stripped : Text.strip "t" = "t" := rfl
  obtain ⟨stamp, tokens⟩ : ∃ stamp,
      opened.store.tokens = [⟨Sha256.hexDigest "t", "", .user, stamp⟩] := ⟨_, rfl⟩
  have resolved : opened.store.resolveToken? "t" = some ("", .user) := by
    simp [Store.resolveToken?, tokens]
  have known : service.caller (.text "Bearer t") opened.store = .ok nameless := by
    simp only [Service.caller, token, ok_bind, service, stripped, resolved]
    rfl
  obtain ⟨t, only⟩ : ∃ t, opened.store.trades = [t] := List.length_eq_one_iff.mp rfl
  have users : opened.store.trades.map (·.user) = ["ada"] := rfl
  have answered : ((service.handle nameless latest).run Run.Sample.silent (opened, ())).1 =
      Service.ok (tradesForm ((⟨"", "", ""⟩ : TradeFilter).listing 20 opened.store.trades)) := rfl
  refine ⟨known, rfl, t, only, ?_, ?_⟩
  · rw [only] at users
    exact List.singleton_inj.mp users
  · rw [answered, only]
    rfl

end SignalDesk
