import SignalDesk.Proofs.Desk.Activity
import SignalDesk.Proofs.Network.Moves

namespace SignalDesk

/-- An activity that is going on, and what is left of its program. -/
structure Task where
  activity : Activity
  rest : Program Desk Unit

/-- A desk and what is going on at it. -/
structure World where
  desk : Desk
  busy : List Task

namespace World

/-- The world in which a desk opens on a store. -/
def opening (config : Config) (store : Store) (clock : Int) : World :=
  ⟨.start config store clock, []⟩

/-- What happens at a desk: an activity begins, goes on by one move, or comes to its end or breaks
off; time passes; the desk closes, whatever goes on, and opens again. A move that says how many
coins a user is to have keeps balances in range. -/
inductive Step : World → World → Prop where
  | begin (w : World) (config : Config) (x : Activity) :
      Step w { w with busy := ⟨x, x.program config⟩ :: w.busy }
  | go {w : World} {before after : List Task} {task : Task} {p : Program Desk Unit} {d : Desk}
      (busy : w.busy = before ++ task :: after) (move : Program.Move (task.rest, w.desk) (p, d))
      (range : task.activity.SetsBalance → d.store.InRange) :
      Step w ⟨d, before ++ { task with rest := p } :: after⟩
  | leave {w : World} {before after : List Task} {task : Task}
      (busy : w.busy = before ++ task :: after) : Step w { w with busy := before ++ after }
  | tick (w : World) (clock : Int) : Step w { w with desk := { w.desk with clock } }
  | reopen (w : World) (config : Config) (clock : Int) :
      Step w (opening config w.desk.store clock)

/-- A world and those before it, the latest first, back to a desk that opened on an empty store. -/
inductive History : List World → Prop where
  | start (config : Config) (clock : Int) : History [opening config .empty clock]
  | step {w w' : World} {earlier : List World} (h : History (w :: earlier)) (step : Step w w') :
      History (w' :: w :: earlier)

/-- A statement is answered in one move. -/
theorem History.perform {w : World} {earlier : List World} (h : History (w :: earlier))
    (config : Config) (part name : String) (arguments : Arguments)
    (range : Statement.SetsBalance part name →
      (Activity.perform config part name arguments w.desk).store.InRange) :
    let x := Activity.statement part name arguments
    History
      (⟨Activity.perform config part name arguments w.desk, ⟨x, .done ()⟩ :: w.busy⟩ ::
        { w with busy := ⟨x, x.program config⟩ :: w.busy } :: w :: earlier) := by
  intro x
  have move : Program.Move (x.program config, w.desk)
      (.done (), Activity.perform config part name arguments w.desk) := .act _ _ w.desk
  exact .step (.step h (.begin w config x))
    (@Step.go _ [] w.busy ⟨x, x.program config⟩ (.done ()) _ rfl move range)

/-- What goes on at a desk may go on by any number of moves while nothing else does. -/
theorem History.moves {x : Activity} {p p' : Program Desk Unit} {d d' : Desk} {busy : List Task}
    {earlier : List World} (h : History (⟨d, ⟨x, p⟩ :: busy⟩ :: earlier)) (balance : ¬x.SetsBalance)
    (moves : Relation.ReflTransGen Program.Move (p, d) (p', d')) :
    ∃ between, History (⟨d', ⟨x, p'⟩ :: busy⟩ :: between) ∧
      ⟨d, ⟨x, p⟩ :: busy⟩ :: earlier <:+ ⟨d', ⟨x, p'⟩ :: busy⟩ :: between := by
  generalize eq : (p', d') = reached at moves
  induction moves generalizing p' d' with
  | refl =>
    cases eq
    exact ⟨earlier, h, List.suffix_refl _⟩
  | @tail q _ _ move ih =>
    cases eq
    obtain ⟨q, e⟩ := q
    obtain ⟨between, so, old⟩ := ih rfl
    have step : Step ⟨e, ⟨x, q⟩ :: busy⟩ ⟨d', ⟨x, p'⟩ :: busy⟩ :=
      @Step.go _ [] busy ⟨x, q⟩ p' d' rfl move fun sets => absurd sets balance
    exact ⟨_, .step so step, old.trans (List.suffix_cons _ _)⟩

/-- Whether all that goes on changes the store only as listed from there on. -/
def Sound (w : World) : Prop :=
  ∀ task ∈ w.busy, task.rest.Within (fun _ => True) task.activity.Changes fun _ => True

variable {w w' : World} {earlier : List World}

/-- A move of something that goes on is a step of its activity. -/
theorem Sound.move (sound : w.Sound) {before after : List Task} {task : Task}
    {p : Program Desk Unit} {d : Desk} (busy : w.busy = before ++ task :: after)
    (move : Program.Move (task.rest, w.desk) (p, d)) :
    p.Within (fun _ => True) task.activity.Changes (fun _ => True) ∧
      task.activity.Changes w.desk d := by
  have mine := sound task (by simp [busy])
  exact mine.move (fun _ _ => ⟨.refl, fun _ => .rests rfl⟩) move

theorem Step.sound (h : Step w w') (sound : w.Sound) :
    w'.Sound ∧ Store.Changes w.desk.store w'.desk.store := by
  cases h with
  | begin config x => exact ⟨List.forall_mem_cons.mpr ⟨x.within config, sound⟩, .refl⟩
  | @go before after task p d busy move range =>
    obtain ⟨mine, changes⟩ := sound.move busy move
    rw [Sound, busy] at sound
    obtain ⟨front, rest⟩ := List.forall_mem_append.mp sound
    obtain ⟨-, back⟩ := List.forall_mem_cons.mp rest
    exact ⟨List.forall_mem_append.mpr ⟨front, List.forall_mem_cons.mpr ⟨mine, back⟩⟩,
      (changes range).1⟩
  | leave busy =>
    rw [Sound, busy] at sound
    obtain ⟨front, rest⟩ := List.forall_mem_append.mp sound
    exact ⟨List.forall_mem_append.mpr ⟨front, (List.forall_mem_cons.mp rest).2⟩, .refl⟩
  | tick clock => exact ⟨sound, .refl⟩
  | reopen config clock => exact ⟨by simp [Sound, opening], .single .initialise⟩

theorem History.sound (h : History (w :: earlier)) : w.Sound := by
  generalize eq : w :: earlier = worlds at h
  induction h generalizing w earlier with
  | start config clock =>
    cases eq
    simp [Sound, opening]
  | step _ step ih =>
    cases eq
    exact (step.sound (ih rfl)).1

/-- What every change of the store keeps, and holds of an empty one, holds of the store in every
world that comes about. -/
theorem History.store {I : Store → Prop} (empty : I .empty)
    (change : ∀ {s s'}, I s → Store.Change s s' → I s') (h : History (w :: earlier)) :
    I w.desk.store := by
  generalize eq : w :: earlier = worlds at h
  induction h generalizing w earlier with
  | start config clock =>
    cases eq
    exact change empty .initialise
  | step h step ih =>
    cases eq
    rcases Relation.reflGen_iff .. |>.mp (step.sound h.sound).2 with same | changed
    · exact same ▸ ih rfl
    · exact change (ih rfl) changed

/-- Balances are in range in every world that comes about. -/
theorem History.inRange (h : History (w :: earlier)) : w.desk.store.InRange :=
  h.store (by intro user coins found; cases found) fun range change => change.inRange range

/-- Whatever every change of the store relates, the store of an earlier world and that of a later
one are in that relation. -/
theorem History.related {R : Store → Store → Prop} (refl : ∀ s, R s s)
    (trans : ∀ {s t u}, R s t → R t u → R s u)
    (change : ∀ {s s'}, s.InRange → Store.Change s s' → R s s')
    (h : History (w :: earlier)) : ∀ w' ∈ earlier, R w'.desk.store w.desk.store := by
  generalize eq : w :: earlier = worlds at h
  induction h generalizing w earlier with
  | start config clock =>
    cases eq
    simp
  | @step v v' before h step ih =>
    cases eq
    have last : R v.desk.store v'.desk.store := by
      rcases Relation.reflGen_iff .. |>.mp (step.sound h.sound).2 with same | changed
      · exact same ▸ refl _
      · exact change h.inRange changed
    exact List.forall_mem_cons.mpr ⟨last, fun w' old => trans (ih rfl w' old) last⟩

end World
end SignalDesk
