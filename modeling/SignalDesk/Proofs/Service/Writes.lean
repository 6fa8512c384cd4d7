import SignalDesk.Proofs.Service.Intake
import SignalDesk.Service.Account

/-!
# Requests that write

How posts, closings and adjustments end, whatever is in their bodies
(`Service.writes_settle`): with success, with a refusal that changes nothing, or, also without a
change, without an answer. The last is for numbers that are out of range and for values that the
store takes in no column, torn texts among them; a body with one of these is not refused as others are
(`Service.sample_writes_break_off`).
-/

namespace SignalDesk

/-- Whether the store takes a value: a whole text, an integer of at most 64 bits, and any other value
but lists and objects. -/
def Json.IsTaken : Json → Prop
  | .text s => s.string?.isSome = true
  | .int n => fitsWord n = true
  | .list _ | .object _ => False
  | _ => True

theorem Store.bound_ok_iff {v : Json} : (∃ label, bound v = .ok label) ↔ v.IsTaken := by
  cases v with
  | int n => by_cases fits : fitsWord n = true <;> simp [Json.IsTaken, bound, fits]
  | real x => cases x <;> simp [Json.IsTaken, bound]
  | text s => cases s <;> simp [Json.IsTaken, bound, written, Text.string?, Except.map]
  | _ => simp [Json.IsTaken, bound]

theorem Store.cell_ok_iff {v : Json} : (∃ text, cell v = .ok text) ↔ v.IsTaken := by
  simp only [cell, map_ok, ← bound_ok_iff]
  constructor
  · rintro ⟨_, label, bound, -⟩
    exact ⟨label, bound⟩
  · rintro ⟨label, bound⟩
    exact ⟨_, label, bound, rfl⟩

theorem Store.figure?_ok_iff {v : Json} : (∃ figure, figure? v = .ok figure) ↔ v.IsTaken := by
  simp only [figure?, map_ok, ← bound_ok_iff]
  constructor
  · rintro ⟨_, label, bound, -⟩
    exact ⟨label, bound⟩
  · rintro ⟨label, bound⟩
    exact ⟨_, label, bound, rfl⟩

theorem Store.rowNumber?_ok_iff {v : Json} :
    (∃ number, rowNumber? v = .ok number) ↔ v.IsTaken := by
  simp only [← figure?_ok_iff, rowNumber?, map_ok]
  constructor
  · rintro ⟨_, figure, found, -⟩
    exact ⟨figure, found⟩
  · rintro ⟨figure, found⟩
    exact ⟨_, figure, found, rfl⟩

/-- A trade that is closed is there. -/
theorem Store.trade?_of_close {s s' : Store} {id : Int} {price : Real64} {user : Option String}
    {now : String} (h : s.close id price user now = (true, s')) :
    ∃ t ∈ s'.trades, s'.trade? id = some t := by
  obtain ⟨found, rfl⟩ := Prod.mk.inj h
  obtain ⟨t, member, fits⟩ := List.any_eq_true.mp found
  have there : ((s.close id price user now).2.trades.find? (·.id == id)).isSome = true := by
    rw [List.find?_isSome]
    refine ⟨_, List.mem_map_of_mem member, ?_⟩
    rw [if_pos fits]
    exact (Bool.and_eq_true_iff.mp fits).1
  obtain ⟨u, first⟩ := Option.isSome_iff_exists.mp there
  exact ⟨u, List.mem_of_find?_eq_some first, first⟩

/-- A note of an administrator has its columns just where the store takes its reason. -/
theorem LedgerNote.columns_ok_iff {action performedBy : String} {reason : Json} :
    (∃ columns, (LedgerNote.mk (.text action) reason (.text performedBy)).columns = .ok columns) ↔
      reason.IsTaken := by
  have text (s : String) : Store.cell (.text s) = .ok (some s) := rfl
  rw [← Store.cell_ok_iff]
  simp only [columns, text, bind_ok, pure_ok, Store.require, Except.ok.injEq, exists_eq_left']
  constructor
  · rintro ⟨_, told, said, -⟩
    exact ⟨told, said⟩
  · rintro ⟨told, said⟩
    exact ⟨_, told, said, rfl⟩

/-- How an adjustment by an integer ends: there is no such user, or the store does not take a value,
or the balance is changed. -/
theorem Store.adjust_cases (s : Store) (user : String) (delta : Int) (note : LedgerNote)
    (now : String) :
    (s.profile? user = none ∧ s.adjust user (.whole delta) note now = .error .unknownUser) ∨
      (s.profile? user).isSome = true ∧
        ((¬(fitsWord delta = true ∧ ∃ columns, note.columns = .ok columns) ∧
            ∃ e, s.adjust user (.whole delta) note now = .error (.store e)) ∨
          (fitsWord delta = true ∧ ∃ columns, note.columns = .ok columns) ∧
            ∃ figures s', s.adjust user (.whole delta) note now = .ok (figures, s')) := by
  cases profile : s.profile? user with
  | none => exact .inl ⟨rfl, by simp only [adjust, profile]⟩
  | some p =>
    refine .inr ⟨rfl, ?_⟩
    by_cases fits : fitsWord delta = true
    · have told : (Amount.whole delta).isTold = true := fits
      cases columns : note.columns with
      | error e =>
        refine .inl ⟨?_, e, ?_⟩
        · rintro ⟨-, _, ⟨⟩⟩
        simp only [adjust, profile, told, columns, Amount.add?, Bool.not_true, Bool.false_eq_true,
          if_false]
      | ok texts =>
        refine .inr ⟨⟨fits, texts, rfl⟩, ?_⟩
        simp only [adjust, profile, told, columns, Amount.add?, Bool.not_true, Bool.false_eq_true,
          if_false]
        exact ⟨_, _, rfl⟩
    · refine .inl ⟨fun told => fits told.1, .tooLarge, ?_⟩
      simp [adjust, profile, Amount.isTold, fits]

/-- An offer has a row, or none, just where the store takes its values. -/
theorem SignalOffer.row?_ok_iff (o : SignalOffer) (id : Int) (now : String) :
    (∃ row, o.row? id now = .ok row) ↔
      o.script.IsTaken ∧ o.symbol.IsTaken ∧ o.timeframe.IsTaken ∧ o.candleTime.IsTaken := by
  rw [← Store.cell_ok_iff, ← Store.cell_ok_iff, ← Store.cell_ok_iff, ← Store.figure?_ok_iff]
  simp only [row?, bind_ok, pure_ok]
  constructor
  · rintro ⟨_, script, named, symbol, traded, timeframe, framed, time, timed, -⟩
    exact ⟨⟨_, named⟩, ⟨_, traded⟩, ⟨_, framed⟩, _, timed⟩
  · rintro ⟨⟨script, named⟩, ⟨symbol, traded⟩, ⟨timeframe, framed⟩, time, timed⟩
    exact ⟨_, script, named, symbol, traded, timeframe, framed, time, timed, rfl⟩

namespace Service

variable {body : Body} {offer : SignalOffer}

/-- How a request that writes ends: without an answer or with a refusal, when everything is as it
was, or with success. It has no answer just where `breaks` says so. -/
inductive Settles {S : Type} (breaks : Prop) (success : Answer → S → Prop) (s : S) :
    Reply × S → Prop where
  | breaksOff {e : ServiceError} (broken : breaks) : Settles breaks success s (.error e, s)
  | refuses {a : Answer} (whole : ¬breaks) (status : 400 ≤ a.status ∧ a.status < 500) :
      Settles breaks success s (.ok a, s)
  | succeeds {a : Answer} {s' : S} (whole : ¬breaks) (done : success a s') :
      Settles breaks success s (.ok a, s')

theorem Settles.refused {S : Type} {breaks : Prop} {success : Answer → S → Prop} {s : S}
    {status : Int} (whole : ¬breaks) (range : 400 ≤ status ∧ status < 500) (message : String)
    (field : Option String) : Settles breaks success s (error status message field, s) :=
  .refuses whole range

/-- Why a number is not read. -/
def faultOf {α : Type} : Except NumberFault α → Option NumberFault
  | .ok _ => none
  | .error fault => some fault

/-- The fault of the first number of a signal that is not read. -/
def firstFault (body : Body) : Option NumberFault :=
  let zero := Json.real .zero
  (faultOf (Json.fieldOrNull body "price").toReal).or <|
    (faultOf (given body "stopLoss" zero).toReal).or <|
      (faultOf (given body "takeProfit" zero).toReal).or <|
        faultOf (Json.fieldOrNull body "candleOpenTime").toInteger

/-- Whether a post breaks off: its fields are there and its side is read, and the first number that
is not read is out of range; or all is read, and the store does not take a value. -/
def PostBreaks (body : Body) : Prop :=
  (signalFields.filter (isMissing body) = [] ∧
    (∃ side, readDecision (Json.fieldOrNull body "signalType") = .ok side) ∧
      ∃ fault, firstFault body = some fault ∧ fault.isOverflow = true) ∨
  ∃ offer, readSignal body = .ok offer ∧
    ¬(offer.script.IsTaken ∧ offer.symbol.IsTaken ∧ offer.timeframe.IsTaken ∧
      offer.candleTime.IsTaken)

/-- Whether a request breaks off that begins with a number: the number is out of range, or it is read
and `rest` holds of it. -/
def NumberBreaks {α : Type} (x : Except NumberFault α) (rest : α → Prop) : Prop :=
  match x with
  | .error fault => fault.isOverflow = true
  | .ok a => rest a

/-- Whether a closing breaks off: its price is out of range, or the store does not take the number of
the trade. -/
def CloseBreaks (id : Json) (body : Body) : Prop :=
  NumberBreaks (Json.fieldOrNull body "exitPrice").toReal fun _ => ¬id.IsTaken

/-- Whether an adjustment breaks off: its change is out of range, or the store does not take the user,
or does not take the change of one that there is, or the reason for it. -/
def AdjustBreaks (user : Json) (body : Body) (s : Store) : Prop :=
  NumberBreaks (Json.fieldOrNull body "delta").toInteger fun delta =>
    ¬user.IsTaken ∨ ∃ name, Store.cell user = .ok (some name) ∧ (s.profile? name).isSome = true ∧
      ¬(fitsWord delta = true ∧ (given body "reason" (.text "manual adjustment")).IsTaken)

/-- A number that is not read is refused, unless it is out of range. -/
theorem Settles.unread {S α : Type} {rest : α → Prop} {success : Answer → S → Prop} {s : S}
    (fault : NumberFault) (message : String) (field : Option String) :
    Settles (NumberBreaks (.error fault) rest) success s
      (if fault.isOverflow then .error (.number fault) else error 400 message field, s) := by
  split
  · rename_i range
    exact .breaksOff range
  · rename_i form
    exact .refused form (by decide) message field

theorem invalidNumber_breaks_iff {fault : NumberFault} :
    (∃ e, invalidNumber fault = .error e) ↔ fault.isOverflow = true := by
  unfold invalidNumber
  split
  · rename_i range
    exact iff_of_true ⟨_, rfl⟩ range
  · rename_i form
    exact iff_of_false (fun ⟨_, told⟩ => nomatch told) form

/-- A number that is not read ends the reading of a signal, and the post if it is out of range. -/
theorem number_breaks_iff {α : Type} {x : Except NumberFault α}
    {rest : α → Except Reply SignalOffer} {later : Option NumberFault}
    (ends : ∀ a, (∃ e, rest a = .error (.error e)) ↔
      ∃ fault, later = some fault ∧ fault.isOverflow = true) :
    (∃ e, (x.mapError invalidNumber >>= rest) = .error (.error e)) ↔
      ∃ fault, (faultOf x).or later = some fault ∧ fault.isOverflow = true := by
  cases x with
  | ok a => exact ends a
  | error fault =>
    have told : (∃ e, invalidNumber fault = .error e) ↔
        ∃ f, some fault = some f ∧ f.isOverflow = true := by
      rw [invalidNumber_breaks_iff]
      simp
    refine Iff.trans ⟨?_, ?_⟩ told
    · exact fun ⟨e, breaks⟩ => ⟨e, Except.error.inj breaks⟩
    · exact fun ⟨e, breaks⟩ => ⟨e, congrArg Except.error breaks⟩

/-- A signal breaks its post off where a number is out of range before anything else is wrong. -/
theorem readSignal_breaks_iff :
    (∃ e, readSignal body = .error (.error e)) ↔
      signalFields.filter (isMissing body) = [] ∧
        (∃ side, readDecision (Json.fieldOrNull body "signalType") = .ok side) ∧
          ∃ fault, firstFault body = some fault ∧ fault.isOverflow = true := by
  unfold readSignal
  split
  · rename_i missing
    rw [missing]
    refine iff_of_false ?_ fun found => List.cons_ne_nil _ _ found.1
    rintro ⟨e, ⟨⟩⟩
  · rename_i complete
    dsimp only
    rw [and_iff_right complete]
    cases named : readDecision (Json.fieldOrNull body "signalType") with
    | error reply =>
      refine iff_of_false ?_ ?_
      · rintro ⟨e, told⟩
        simp only [readDecision] at named
        split at named <;> cases named
        cases told
      · rintro ⟨⟨side, ⟨⟩⟩, -⟩
    | ok side =>
      rw [ok_bind, and_iff_right ⟨side, rfl⟩]
      refine number_breaks_iff fun price => number_breaks_iff fun stopLoss =>
        number_breaks_iff fun takeProfit => ?_
      rw [← Option.or_none (o := faultOf _)]
      refine number_breaks_iff fun time => iff_of_false ?_ ?_
      · rintro ⟨e, told⟩
        split at told
        · cases told
        split at told <;> cases told
      · rintro ⟨fault, ⟨⟩, -⟩

theorem row_error_iff (offer : SignalOffer) (id : Int) (now : String) :
    (∃ e, offer.row? id now = .error e) ↔
      ¬(offer.script.IsTaken ∧ offer.symbol.IsTaken ∧ offer.timeframe.IsTaken ∧
        offer.candleTime.IsTaken) := by
  rw [← offer.row?_ok_iff id now]
  cases offer.row? id now with
  | ok row => simp
  | error e => simp

/-- An offer is refused just where it has no row at all. -/
theorem keepSignal_error_iff {d : Desk} :
    (∃ e, keepSignal offer d = (.error e, d)) ↔
      ∃ e, offer.row? (Store.nextId (d.store.signals.map (·.id))) d.now = .error e := by
  constructor
  · rintro ⟨e, refused⟩
    unfold keepSignal at refused
    split at refused
    · rename_i added
      exact ⟨_, map_error.mp added⟩
    · cases congrArg Prod.fst refused
  · rintro ⟨e, refused⟩
    have added : d.store.addSignal offer d.now = .error e := map_error.mpr refused
    exact ⟨e, by simp only [keepSignal, added]⟩

section Posts

variable {ν : Type} (service : Service) (around : Surroundings Desk ν) {w : Desk × ν}

/-- What a post is answered that is taken in. -/
def TakenIn (w : Desk × ν) (a : Answer) (w' : Desk × ν) : Prop :=
  (.ok a = ok duplicateForm ∧ w' = w) ∨
    ∃ id results, .ok a = ok (dispatchedForm id results)

theorem ingestSignal_settles (legible : w.1.store.Legible)
    (room : fitsWord (Store.nextId (w.1.store.signals.map (·.id))) = true) (body : Body) :
    Settles (PostBreaks body) (TakenIn w) w ((service.ingestSignal body).run around w) := by
  cases read : readSignal body with
  | error reply =>
    rw [(service.ingestSignal_unread around read).1]
    cases reply with
    | error e => exact .breaksOff (.inl (readSignal_breaks_iff.mp ⟨e, read⟩))
    | ok a =>
      have status := readSignal_status read
      refine .refuses ?_ ⟨by omega, by omega⟩
      rintro (breaks | ⟨offer, offered, -⟩)
      · obtain ⟨e, told⟩ := readSignal_breaks_iff.mpr breaks
        cases read.symm.trans told
      · cases read.symm.trans offered
  | ok offer =>
    have breaks_iff : PostBreaks body ↔
        ¬(offer.script.IsTaken ∧ offer.symbol.IsTaken ∧ offer.timeframe.IsTaken ∧
          offer.candleTime.IsTaken) := by
      constructor
      · rintro (breaks | ⟨other, offered, untaken⟩)
        · obtain ⟨e, told⟩ := readSignal_breaks_iff.mpr breaks
          cases read.symm.trans told
        · cases read.symm.trans offered
          exact untaken
      · exact fun untaken => .inr ⟨offer, read, untaken⟩
    rw [← row_error_iff offer (Store.nextId (w.1.store.signals.map (·.id))) w.1.now,
      ← keepSignal_error_iff] at breaks_iff
    rcases keepSignal_cases offer w.1 with ⟨e, refused⟩ | known | ⟨row, made, fresh, kept⟩
    · rw [(service.ingestSignal_refused around read refused).1]
      exact .breaksOff (breaks_iff.mpr ⟨e, refused⟩)
    · rw [(service.ingestSignal_known around read known).1]
      refine .succeeds (fun broken => ?_) (.inl ⟨rfl, rfl⟩)
      obtain ⟨e, refused⟩ := breaks_iff.mp broken
      cases congrArg Prod.fst (known.symm.trans refused)
    · have whole : ¬PostBreaks body := by
        intro broken
        obtain ⟨e, refused⟩ := breaks_iff.mp broken
        cases congrArg Prod.fst (kept.symm.trans refused)
      obtain ⟨as, listed⟩ := legible.activations? row.script row.timeframe
      obtain ⟨results, told⟩ := service.ingestSignal_dispatched around ⟨offer, read, made⟩ fresh
        (fresh.next ▸ room) listed
      generalize (service.ingestSignal body).run around w = ended at told ⊢
      obtain ⟨reply, w'⟩ := ended
      obtain rfl : reply = _ := told
      exact .succeeds whole (.inr ⟨row.id, results, rfl⟩)

end Posts

/-- A closing that succeeds is answered with a row of a trade. -/
def Closed (a : Answer) (d : Desk) : Prop := ∃ t ∈ d.store.trades, a = ⟨200, t.form⟩

theorem closeTrade_settles (c : Caller) (id : Json) (body : Body) (d : Desk) :
    Settles (CloseBreaks id body) Closed d (closeTrade c id body d) := by
  unfold CloseBreaks closeTrade
  cases (Json.fieldOrNull body "exitPrice").toReal with
  | error fault => exact .unread fault _ _
  | ok price =>
    dsimp only [NumberBreaks]
    rw [← Store.rowNumber?_ok_iff]
    cases Store.rowNumber? id with
    | error e => exact .breaksOff fun ⟨_, found⟩ => nomatch found
    | ok number =>
      have whole : ¬¬∃ n, Except.ok number = (.ok n : Except StoreError _) := fun none => none ⟨_, rfl⟩
      cases number with
      | none => exact .refused whole (by decide) _ _
      | some number =>
        dsimp only
        split
        · exact .refused whole (by decide) _ _
        · rename_i store closed
          obtain ⟨t, member, there⟩ := Store.trade?_of_close closed
          simp only [there, Option.map_some, Option.getD_some]
          exact .succeeds whole ⟨t, member, rfl⟩

/-- What an adjustment is answered that succeeds. -/
def AdjustedTo (user : Json) (a : Answer) (_ : Desk) : Prop :=
  ∃ before after : Figure, a = ⟨200, .object
    [("userId", user), ("coinsBefore", before.form), ("coinsAfter", after.form)]⟩

theorem adjustCoins_settles (admin : Caller) (user : Json) (body : Body) (d : Desk) :
    Settles (AdjustBreaks user body d.store) (AdjustedTo user) d
      (adjustCoins admin user body d) := by
  unfold AdjustBreaks adjustCoins
  cases (Json.fieldOrNull body "delta").toInteger with
  | error fault => exact .unread fault _ _
  | ok delta =>
    dsimp only [NumberBreaks]
    rw [← Store.cell_ok_iff]
    cases Store.cell user with
    | error e => exact .breaksOff (.inl fun ⟨_, told⟩ => nomatch told)
    | ok name =>
      cases name with
      | none =>
        refine .refused ?_ (by decide) _ _
        rintro (untold | ⟨name, told, -⟩)
        · exact untold ⟨_, rfl⟩
        · cases told
      | some name =>
        generalize given body "reason" (.text "manual adjustment") = reason
        have ends := d.store.adjust_cases name delta
          ⟨.text Store.adminAction, reason, .text admin.user⟩ d.now
        rw [LedgerNote.columns_ok_iff] at ends
        dsimp only
        rcases ends with ⟨nobody, unknown⟩ |
          ⟨known, ⟨untaken, e, refused⟩ | ⟨taken, figures, s', adjusts⟩⟩
        · rw [unknown]
          refine .refused ?_ (by decide) _ _
          rintro (untold | ⟨other, told, known, -⟩)
          · exact untold ⟨_, rfl⟩
          · cases told
            rw [nobody] at known
            cases known
        · rw [refused]
          exact .breaksOff (.inr ⟨name, rfl, known, untaken⟩)
        · rw [adjusts]
          refine .succeeds ?_ ⟨_, _, rfl⟩
          rintro (untold | ⟨other, told, -, untaken⟩)
          · exact untold ⟨_, rfl⟩
          · cases told
            exact untaken taken

/-- **How writes end.** While the saved settings of active scripts can be read and there are numbers
for signals, a post, a closing and an adjustment are answered, with success or with a refusal that
changes nothing, unless the body breaks the request off; then nothing is changed either. -/
theorem writes_settle {ν : Type} (service : Service) (around : Surroundings Desk ν) (w : Desk × ν)
    (legible : w.1.store.Legible)
    (room : fitsWord (Store.nextId (w.1.store.signals.map (·.id))) = true) (body : Body) :
    Settles (PostBreaks body) (TakenIn w) w ((service.ingestSignal body).run around w) ∧
      (∀ caller id, Settles (CloseBreaks id body) Closed w.1 (closeTrade caller id body w.1)) ∧
      ∀ admin user, Settles (AdjustBreaks user body w.1.store) (AdjustedTo user) w.1
        (adjustCoins admin user body w.1) :=
  ⟨service.ingestSignal_settles around legible room body,
    fun caller id => closeTrade_settles caller id body w.1,
    fun admin user => adjustCoins_settles admin user body w.1⟩

namespace Sample

def admin : Caller := ⟨"root", .admin⟩

/-- A post for a candle of a symbol. -/
def postOf (symbol : Text) (time : Int) : Body :=
  [("scriptId", .text "cross"), ("signalType", .text "buy"), ("symbol", .text symbol),
    ("timeframe", .text "1h"), ("price", .int 100), ("candleOpenTime", .int time)]

/-- The half of a surrogate pair. -/
def half : Text := .ofPoints [.half 0]

end Sample

open Sample in
theorem sample_writes_settle :
    Sweep.Sample.desk.store.Legible ∧
      fitsWord (Store.nextId (Sweep.Sample.desk.store.signals.map (·.id))) = true ∧
        Settles (PostBreaks post) (TakenIn (Sweep.Sample.desk, ())) (Sweep.Sample.desk, ())
          ((service.ingestSignal post).run Sweep.Sample.market (Sweep.Sample.desk, ())) :=
  ⟨Sweep.Sample.desk_reports.legible, rfl,
    (writes_settle service Sweep.Sample.market (Sweep.Sample.desk, ())
      Sweep.Sample.desk_reports.legible rfl post).1⟩

open Sample in
/-- A candle, an exit price and a change that are out of range each leave a request unanswered, and
so do a symbol and a reason that are torn. -/
theorem sample_writes_break_off :
    (∃ e, ((service.ingestSignal (postOf "btcusdt" (2 ^ 63))).run Sweep.Sample.market
      (Sweep.Sample.desk, ())).1 = .error e) ∧
      (∃ e, ((service.ingestSignal (postOf half 5)).run Sweep.Sample.market
        (Sweep.Sample.desk, ())).1 = .error e) ∧
      (∃ e, (closeTrade admin (.int 1) [("exitPrice", .int (10 ^ 309))] Sweep.Sample.desk).1 =
        .error e) ∧
      (∃ e, (adjustCoins admin (.text "ada") [("delta", .int (2 ^ 63))] Sweep.Sample.desk).1 =
        .error e) ∧
      ∃ e, (adjustCoins admin (.text "ada") [("delta", .int 1), ("reason", .text half)]
        Sweep.Sample.desk).1 = .error e := by
  refine ⟨?late, ?torn, ?close, ?adjust, ?reason⟩
  case late =>
    apply exists_of_not_isOk
    decide +kernel
  case torn =>
    apply exists_of_not_isOk
    decide +kernel
  case reason =>
    apply exists_of_not_isOk
    decide +kernel
  case close =>
    apply exists_of_not_isOk
    decide +kernel
  case adjust =>
    apply exists_of_not_isOk
    decide +kernel

end Service
end SignalDesk
