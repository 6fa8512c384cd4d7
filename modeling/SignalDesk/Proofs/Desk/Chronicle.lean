import Mathlib.Data.List.Chain
import SignalDesk.Proofs.Ledger.Debits
import SignalDesk.Proofs.Store.Course

/-!
# Chronicles

Whatever goes on at a desk, side by side and in any order, on any store and with any balances
(`World.Chronicle`): from world to world the store is changed only as activities change it
(`Chronicle.changes`), so it stays as it is or is changed in one of the ways that are listed
(`Chronicle.alterations`), and every trade takes its course (`trades_take_their_course`).
-/

namespace SignalDesk

/-- Whether the store stays as it is or is changed in one of the ways that are listed. -/
def Desk.Alters (d d' : Desk) : Prop := Store.Alterations d.store d'.store

theorem Desk.Alters.refl (d : Desk) : d.Alters d := Relation.ReflGen.refl

theorem Desk.Works.alters {d d' : Desk} (h : d.Works d') : d.Alters d' := h.changed.alterations

theorem Service.adjustCoins_alters (admin : Caller) (user : Json) (body : Service.Body) (d : Desk) :
    Desk.Alters d (adjustCoins admin user body d).2 := by
  rcases adjustCoins_adjusts admin user body d with same | ⟨name, delta, note, figures, adjusted⟩
  · rw [same]
    exact .refl d
  · exact .single (.adjust adjusted)

/-- **What activities change, whatever becomes of balances.** -/
theorem Activity.alters (config : Config) (x : Activity) :
    (x.program config).Within (fun _ => True) Desk.Alters fun _ => True := by
  have works : ∀ d d', Desk.Works d d' → Desk.Alters d d' := fun _ _ works => works.alters
  refine (Desk.allows_within works).activity config (fun _ _ _ _ => trivial)
    (fun _ _ _ _ _ _ _ c _ => .any _ c) ?statements ?gates ?closings ?coins
  case statements =>
    intro part name arguments _
    refine Program.Within.modify fun d => ?_
    simp only [perform, Desk.Alters]
    split
    · rename_i performed
      exact Statement.perform_alters performed
    · exact .refl
  case gates =>
    intro connected _ script enabled _ c
    exact .atomically fun d => ⟨works d _ (Service.setGateFor_works _ c script enabled d), trivial⟩
  case closings =>
    intro _ _ id body _ c
    have minor := fun d => (Service.closeTrade_minor c id (Service.fieldsOf body) d).1
    exact .atomically fun d => ⟨works d _ (.of_minor (minor d)), trivial⟩
  case coins =>
    intro _ _ user body _ c
    exact .atomically fun d => ⟨Service.adjustCoins_alters c user _ d, trivial⟩

namespace World

open scoped List

/-- What happens at a desk. Any activity that goes on may go on by one move, whatever becomes of
balances. -/
inductive Happens : World → World → Prop where
  | step {w w' : World} (h : Step w w') : Happens w w'
  | go {w : World} {before after : List Task} {task : Task} {p : Program Desk Unit} {d : Desk}
      (busy : w.busy = before ++ task :: after) (move : Program.Move (task.rest, w.desk) (p, d)) :
      Happens w ⟨d, before ++ { task with rest := p } :: after⟩

/-- Worlds one after the other, the latest first, back to a desk that opened on a store. -/
inductive Chronicle : List World → Prop where
  | start (config : Config) (store : Store) (clock : Int) :
      Chronicle [opening config store clock]
  | happens {w w' : World} {earlier : List World} (h : Chronicle (w :: earlier))
      (happens : Happens w w') : Chronicle (w' :: w :: earlier)

theorem History.chronicle {worlds : List World} (h : History worlds) : Chronicle worlds := by
  induction h with
  | start config clock => exact .start config .empty clock
  | step _ step ih => exact ih.happens (.step step)

/-- Whether all that goes on changes the desk only as `R` says of its activity. -/
def Keeps (R : Activity → Desk → Desk → Prop) (w : World) : Prop :=
  ∀ task ∈ w.busy, task.rest.Within (fun _ => True) (R task.activity) fun _ => True

/-- How the store of a world comes to be that of the next: it stays as it is, is opened again, or is
changed by an activity that goes on. -/
inductive Changed (R : Activity → Desk → Desk → Prop) (w w' : World) : Prop where
  | rests (same : w'.desk.store = w.desk.store)
  | opens (again : w'.desk.store = w.desk.store.initialised)
  | goes {task : Task} (busy : task ∈ w.busy) (change : R task.activity w.desk w'.desk)

variable {w w' : World} {worlds earlier : List World}

section Changes

variable {R : Activity → Desk → Desk → Prop} (refl : ∀ x d, R x d d)

include refl

theorem Keeps.moved {before after : List Task} {task : Task} {p : Program Desk Unit} {d : Desk}
    (keeps : w.Keeps R) (busy : w.busy = before ++ task :: after)
    (move : Program.Move (task.rest, w.desk) (p, d)) :
    (World.mk d (before ++ { task with rest := p } :: after)).Keeps R ∧
      Changed R w ⟨d, before ++ { task with rest := p } :: after⟩ := by
  rw [Keeps, busy] at keeps
  obtain ⟨front, rest⟩ := List.forall_mem_append.mp keeps
  obtain ⟨mine, back⟩ := List.forall_mem_cons.mp rest
  obtain ⟨mine, change⟩ := mine.move (refl _) move
  exact ⟨List.forall_mem_append.mpr ⟨front, List.forall_mem_cons.mpr ⟨mine, back⟩⟩,
    .goes (by simp [busy]) change⟩

variable (activities : ∀ config x,
  (Activity.program config x).Within (fun _ => True) (R x) fun _ => True)

include activities

theorem Happens.changes (h : Happens w w') (keeps : w.Keeps R) : w'.Keeps R ∧ Changed R w w' := by
  cases h with
  | go busy move => exact keeps.moved refl busy move
  | step h =>
    cases h with
    | begin config x => exact ⟨List.forall_mem_cons.mpr ⟨activities config x, keeps⟩, .rests rfl⟩
    | go busy move range => exact keeps.moved refl busy move
    | leave busy =>
      rw [Keeps, busy] at keeps
      obtain ⟨front, rest⟩ := List.forall_mem_append.mp keeps
      exact ⟨List.forall_mem_append.mpr ⟨front, (List.forall_mem_cons.mp rest).2⟩, .rests rfl⟩
    | tick clock => exact ⟨keeps, .rests rfl⟩
    | reopen config clock => exact ⟨by simp [Keeps, opening], .opens rfl⟩

/-- **From world to world.** The store is changed only as activities change it that go on. -/
theorem Chronicle.changes (h : Chronicle worlds) :
    worlds.IsChain fun late early => Changed R early late := by
  suffices both : (∀ w ∈ worlds.head?, w.Keeps R) ∧
      worlds.IsChain fun late early => Changed R early late from both.2
  induction h with
  | start config store clock => simp [Keeps, opening]
  | @happens w w' earlier _ happens ih =>
    obtain ⟨keeps, change⟩ := happens.changes refl activities (ih.1 w rfl)
    exact ⟨by simpa using keeps, List.isChain_cons_cons.mpr ⟨change, ih.2⟩⟩

end Changes

/-- The store stays as it is or is changed in one of the ways that are listed. -/
theorem Chronicle.alterations (h : Chronicle worlds) :
    worlds.IsChain fun late early => early.desk.Alters late.desk := by
  refine (h.changes (fun _ => Desk.Alters.refl) Activity.alters).imp fun late early change => ?_
  cases change with
  | rests same =>
    rw [Desk.Alters, same]
  | opens again =>
    rw [Desk.Alters, again]
    exact .single (.change .initialise)
  | goes _ change => exact change

/-- The row of a trade. Rows stand in the order in which the trades were made. -/
def row? (w : World) (n : Nat) : Option Trade := w.desk.store.trades[n]?

/-- How trades fare in worlds one after the other, the latest first. -/
structure Courses (worlds : List World) : Prop where
  /-- From one world to the next, each trade stays as it is or makes one move, and those that are
  new are pending. -/
  step : ∀ late early, [late, early] <:+: worlds → early.desk.store.Proceeds late.desk.store
  /-- In all later worlds a trade is there, with what it was made with, and as it was if its status
  was the last one. -/
  later : ∀ late early, [late, early] <+ worlds → ∀ n t, early.row? n = some t →
    ∃ t', late.row? n = some t' ∧ t.SameTerms t' ∧ (t.status.IsLast → t' = t)
  /-- No status comes back: a trade that has the same status in two worlds is the same in all worlds
  between them. -/
  once : ∀ late mid early, [late, mid, early] <+ worlds → ∀ n t t', early.row? n = some t →
    late.row? n = some t' → t'.status = t.status → mid.row? n = some t

/-- Whether every trade of a world is there in a later one, and came there by its moves. -/
def Advances (late early : World) : Prop :=
  ∀ n t, early.row? n = some t → ∃ t', late.row? n = some t' ∧ t.Comes t'

theorem Advances.trans {late mid early : World} (h : Advances late mid) (h' : Advances mid early) :
    Advances late early := by
  intro n t found
  obtain ⟨u, found, comes⟩ := h' n t found
  obtain ⟨v, found, comes'⟩ := h n u found
  exact ⟨v, found, comes.trans comes'⟩

theorem Chronicle.advances (h : Chronicle worlds) : worlds.Pairwise Advances := by
  have transitive : Trans Advances Advances Advances := ⟨Advances.trans⟩
  refine (h.alterations.imp fun late early change n t found => ?_).pairwise
  obtain ⟨t', found, becomes⟩ := change.proceeds.rows n t found
  exact ⟨t', found, .single becomes⟩

theorem Chronicle.courses (h : Chronicle worlds) : Courses worlds := by
  have advances : ∀ {late early}, [late, early] <+ worlds → Advances late early :=
    List.pairwise_iff_forall_sublist.mp h.advances
  constructor
  case step =>
    intro late early next
    exact List.isChain_pair.mp ( List.IsChain.infix h.alterations next) |>.proceeds
  case later =>
    intro late early order n t found
    obtain ⟨t', found, comes⟩ := advances order n t found
    exact ⟨t', found, comes.terms, comes.same_of_isLast⟩
  case once =>
    intro late mid early order n t t' first last status
    obtain ⟨u, between, comes⟩ := advances ((List.sublist_cons_self late _).trans order) n t first
    have tail : [late, mid] <+ [late, mid, early] := .cons_cons _ (.cons_cons _ (.cons _ .slnil))
    obtain ⟨v, found, comes'⟩ := advances (tail.trans order) n u between
    obtain rfl : v = t' := Option.some.inj (found.symm.trans last)
    rw [between, comes.same_between comes' status]

end World

/-- Whether a caller who asks to close a trade that is not an open one of the caller's changes
nothing. -/
def Desk.GuardsClosing (d : Desk) : Prop :=
  ∀ (c : Caller) (id : Json) (body : Service.Body),
    (∀ n, Store.rowNumber? id = .ok (some n) →
      ∀ t ∈ d.store.trades, t.id = n → t.status = .opened → t.user ≠ c.user) →
    (Service.closeTrade c id body d).2 = d

theorem Desk.guardsClosing (d : Desk) : d.GuardsClosing := by
  intro c id body other
  simp only [Service.closeTrade]
  split
  · rfl
  split
  · rfl
  · rfl
  rename_i n number
  have closed := d.store.guarded.closing n ‹_› (some c.user) d.now
    fun t ht mine opened => ⟨c.user, rfl, other n number t ht mine opened⟩
  rw [closed]

/-- **Trades take their course.** Whatever goes on at a desk, on any store and in any order: every
trade that is made stays in its row with what it was made with; it moves from pending to open,
failed or cancelled and from open to closed, never back, and its other columns are written by these
moves only. A call that does not fit its trade, or comes from another user, changes nothing. -/
theorem trades_take_their_course {worlds : List World} (h : World.Chronicle worlds) :
    World.Courses worlds ∧
      ∀ w ∈ worlds, w.desk.store.Guarded ∧ w.desk.GuardsClosing :=
  ⟨h.courses, fun w _ => ⟨w.desk.store.guarded, w.desk.guardsClosing⟩⟩

namespace World.Sample

def filling : Arguments :=
  [("trade_id", .int 1), ("order_id", .text "17"), ("fill_price", level), ("quantity", .text "2")]

def leaving : Arguments := [("trade_id", .int 1), ("exit_price", level), ("user_id", .text "ada")]

def opens : Activity := .statement "trades" "mark_open" filling

def closes : Activity := .statement "trades" "close_trade" leaving

def filled : Desk := Activity.perform .sample "trades" "mark_open" filling traded

def left : Desk := Activity.perform .sample "trades" "close_trade" leaving filled

/-- The worlds from the trade on, the latest first. -/
def after : List World :=
  [⟨left, ⟨closes, .done ()⟩ :: ⟨opens, .done ()⟩ :: last.busy⟩,
    ⟨filled, ⟨closes, closes.program .sample⟩ :: ⟨opens, .done ()⟩ :: last.busy⟩,
    ⟨filled, ⟨opens, .done ()⟩ :: last.busy⟩,
    ⟨traded, ⟨opens, opens.program .sample⟩ :: last.busy⟩,
    last]

theorem chronicle : Chronicle (after ++ earlier) := by
  have trades : ∀ {name : String} {P : Prop}, Statement.SetsBalance "trades" name → P :=
    fun sets => absurd sets.1 (by decide)
  have filled := history.perform .sample "trades" "mark_open" filling trades
  exact (filled.perform .sample "trades" "close_trade" leaving trades).chronicle

end World.Sample

open World.Sample in
theorem sample_trade_closes :
    (after.map fun w => (w.row? 0).map (·.status)) =
        [some .closed, some .opened, some .opened, some .pending, some .pending] ∧
      World.Courses (after ++ earlier) :=
  ⟨by decide +kernel, (trades_take_their_course chronicle).1⟩

end SignalDesk
