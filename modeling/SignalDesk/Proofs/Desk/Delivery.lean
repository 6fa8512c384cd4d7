import SignalDesk.Proofs.Desk.Serving
import SignalDesk.Proofs.Run.Commitment
import SignalDesk.Proofs.Service.Intake

namespace SignalDesk

/-- The trades for the candle of a key, whoever they are of. -/
def Store.tradesFor (s : Store) (k : SignalKey) : List TradeIdentity :=
  s.made.filter fun t =>
    t.script == k.script && t.timeframe == k.timeframe && t.candleTime.same k.candle

/-- No run commits itself for the candle of a signal that was handed on. -/
theorem Run.Commits.spares {config : Config} {a : Activation} {gate : Gate}
    {signal : Signal Real64} {now : String} {s s' : Store} {candle : Option Figure} {r : Reserved}
    {k : SignalKey} {id : Int} (commits : Commits config a gate signal now s candle r s')
    (handed : s.HandedOn k id) (apart : s.SignalsApart) : s'.tradesFor k = s.tradesFor k := by
  obtain ⟨t, p, -, rfl, names, known⟩ := commits.trade
  have other : (t.script == k.script && t.timeframe == k.timeframe &&
      t.candleTime.same k.candle) = false := by
    apply Bool.eq_false_iff.mpr
    intro mine
    simp only [Bool.and_eq_true, beq_iff_eq] at mine
    obtain ⟨⟨script, timeframe⟩, same⟩ := mine
    have processed := commits.unprocessed
    rw [known, isHandedOn_eq names, script, timeframe, handed.isProcessed apart same] at processed
    cases processed
  change ((s.trades ++ [t]).map Trade.identity).filter _ = _
  simp only [Store.tradesFor, Store.made, List.map_append, List.filter_append, List.map_cons,
    List.map_nil, Trade.identity, List.filter_cons, List.filter_nil, other]
  simp

theorem Desk.Works.spares {d d' : Desk} {k : SignalKey} {id : Int} (works : d.Works d')
    (handed : d.store.HandedOn k id) (apart : d.store.SignalsApart) :
    d'.store.tradesFor k = d.store.tradesFor k := by
  cases works with
  | rests same => rw [show d'.store = d.store from same]
  | changes change made => rw [Store.tradesFor, made, Store.tradesFor]
  | commits config a gate signal =>
    simp only [Run.commitOn]
    split
    · rfl
    · rename_i committed
      obtain ⟨candle, commits⟩ := Run.commit_commits committed
      exact commits.spares handed apart

namespace World

variable {w w' : World} {worlds earlier : List World} {k : SignalKey} {id : Int}

theorem History.apart (h : History (w :: earlier)) : w.desk.store.SignalsApart :=
  h.store .empty fun apart change => apart.change change

/-- Whether a signal is marked, for the first time, from one world to the next. -/
def Marks (id : Int) (w w' : World) : Prop :=
  ∃ now, w.desk.store.markProcessed id now = (true, w'.desk.store)

/-- Whether a signal is marked in the world after those of `old`. -/
def MarkedAfter (worlds : List World) (id : Int) (old : List World) : Prop :=
  ∃ newer w' w rest, old = w :: rest ∧ worlds = newer ++ w' :: old ∧ Marks id w w'

theorem Marks.marked (h : Marks id w w') : w'.desk.store.Marked id := by
  obtain ⟨now, marks⟩ := h
  exact Store.marked_of_marks marks

theorem Marks.not_marked (h : Marks id w w') (apart : w.desk.store.SignalsApart) :
    ¬w.desk.store.Marked id := by
  intro marked
  obtain ⟨now, marks⟩ := h
  have again := marked.not_marked apart now
  rw [marks] at again
  cases again

theorem History.stays_marked (h : History (w :: earlier)) {v : World} (old : v ∈ w :: earlier)
    (marked : v.desk.store.Marked id) : w.desk.store.Marked id :=
  (h.reaches v old).keeps (Store.Marked · id) Store.Marked.change marked

/-- A marked signal was marked in one of the worlds before. -/
theorem History.marked_after (h : History (w :: earlier)) (marked : w.desk.store.Marked id) :
    ∃ old, MarkedAfter (w :: earlier) id old := by
  generalize eq : w :: earlier = worlds at h
  induction h generalizing w earlier with
  | start config clock =>
    cases eq
    obtain ⟨r, mem, -⟩ := marked
    cases mem
  | @step v v' before h step ih =>
    cases eq
    have sooner (marked : v.desk.store.Marked id) :
        ∃ old, MarkedAfter (v' :: v :: before) id old := by
      obtain ⟨old, newer, w', u, rest, same, split, marks⟩ := ih marked rfl
      exact ⟨old, v' :: newer, w', u, rest, same, by rw [split, List.cons_append], marks⟩
    rcases Relation.reflGen_iff .. |>.mp (step.sound h.sound).2 with same | change
    · exact sooner (same ▸ marked)
    · rcases change.marks marked with marked | marks
      · exact sooner marked
      · exact ⟨_, [], v', v, _, rfl, rfl, marks⟩

/-- Who marks a signal does so no later than anyone else. -/
theorem MarkedAfter.length_le {old old' : List World} (h : History worlds)
    (first : MarkedAfter worlds id old) (second : MarkedAfter worlds id old') :
    old'.length ≤ old.length := by
  obtain ⟨newer, w', w, rest, rfl, split, marks⟩ := first
  obtain ⟨newer', v', v, rest', rfl, split', marks'⟩ := second
  by_contra later
  have known : w' :: w :: rest <:+ worlds := ⟨newer, split.symm⟩
  have so : v :: rest' <:+ worlds := ⟨newer' ++ [v'], by simp [split']⟩
  have since : w' :: w :: rest <:+ v :: rest' :=
    List.suffix_of_suffix_length_le known so (by simp only [List.length_cons] at later ⊢; omega)
  have history := h.of_suffix so
  exact marks'.not_marked history.apart
    (history.stays_marked (since.mem List.mem_cons_self) marks.marked)

/-- A marked signal was marked once. -/
theorem History.marked_once (h : History (w :: earlier)) (marked : w.desk.store.Marked id) :
    ∃! old, MarkedAfter (w :: earlier) id old := by
  obtain ⟨old, after⟩ := h.marked_after marked
  refine ⟨old, after, ?_⟩
  intro old' after'
  have same := Nat.le_antisymm (after.length_le h after') (after'.length_le h after)
  obtain ⟨newer, w', -, -, -, split, -⟩ := after
  obtain ⟨newer', v', -, -, -, split', -⟩ := after'
  have known : old <:+ w :: earlier := ⟨newer ++ [w'], by simp [split]⟩
  have known' : old' <:+ w :: earlier := ⟨newer' ++ [v'], by simp [split']⟩
  exact (List.suffix_of_suffix_length_le known' known (by omega)).eq_of_length same

end World

theorem Service.respond_run {ν : Type} {service : Service} {authorization : Json} {route : Route}
    {w : Desk × ν} {c : Caller} (around : Surroundings Desk ν)
    (known : service.callerFor authorization route w.1.store = .ok c) :
    (service.respond authorization route).run around w = (service.handle c route).run around w := by
  simp only [respond, Program.monad_bind_eq, Program.run_bind, Program.run_read, known]

/-- A post that is answered as handed on was, whatever others do meanwhile. -/
theorem Service.respond_amid (service : Service) {body : Body} {k : SignalKey} (key : HasKey body k)
    (authorization : Json) {d : Desk} (apart : d.store.SignalsApart) :
    (service.respond authorization (.ingestSignal (.object body))).Amid Desk.Reaches
      (fun reply d' => ∀ id results, reply = ok (dispatchedForm id results) →
        d'.store.HandedOn k id ∧ fitsWord id = true ∧ fitsWord k.time = true) d := by
  simp only [respond, Program.monad_bind_eq, Program.read, Program.bind]
  intro d₁ reached₁
  cases known : service.callerFor authorization (.ingestSignal (.object body)) d₁.store with
  | error e =>
    simp only [known]
    intro _ _ _ _ told
    cases told
  | ok c =>
    simp only [known]
    exact service.ingestSignal_amid key (reached₁.apart apart)

/-- What nothing can do any more in a world in which the signal for a key was handed on. -/
structure World.SignalSettled (w : World) (k : SignalKey) (id : Int) : Prop where
  handedOn : w.desk.store.HandedOn k id
  marked : ∀ now, (w.desk.store.markProcessed id now).1 = false
  posted : ∀ (service : Service) {body : Service.Body}, Service.HasKey body k →
    ∀ {ν : Type} (around : Surroundings Desk ν) (n : ν),
      (service.ingestSignal body).run around (w.desk, n) =
          (Service.repeated body, (w.desk, n)) ∧
        (service.ingestSignal body).requests around (w.desk, n) = []
  dispatched : ∀ (config : Config) {ν : Type} (around : Surroundings Desk ν) (n : ν),
    (Sweep.dispatch config (.int id)).run around (w.desk, n) = (.ok [], (w.desk, n)) ∧
      (Sweep.dispatch config (.int id)).requests around (w.desk, n) = []
  traded : ∀ {before after : List Task} {task : Task} {p : Program Desk Unit} {d : Desk},
    w.busy = before ++ task :: after → ¬task.activity.IsStatement →
    Program.Move (task.rest, w.desk) (p, d) → (task.activity.SetsBalance → d.store.InRange) →
    d.store.tradesFor k = w.desk.store.tradesFor k

/-- **Signals are handed on once.** Once a post is answered as handed on, its signal is marked, and
was marked once, in every world that comes about: a post for its candle whose offer can be kept is
answered as a duplicate, a dispatch of its number runs nothing, both ask and change nothing, and no
move of a run makes a trade for its candle. -/
theorem signals_handed_on_once {service : Service} {authorization : Json} {body : Service.Body}
    {k : SignalKey} {id : Int} {results : List Json} {w v : World} {earlier since : List World}
    (key : Service.HasKey body k)
    (served : World.Serving service authorization (.ingestSignal (.object body)) (w :: earlier)
      (.done (Service.ok (Service.dispatchedForm id results))))
    (h : World.History (v :: since)) (later : w :: earlier <:+ v :: since) :
    v.SignalSettled k id ∧ ∃! old, World.MarkedAfter (v :: since) id old := by
  have answered := served.amid fun h => service.respond_amid key authorization h.apart
  obtain ⟨handed, number, time⟩ := answered w.desk (.refl _) id results rfl
  replace handed := (h.reaches w (later.mem List.mem_cons_self)).handedOn handed
  refine ⟨?_, h.marked_once handed.marked⟩
  constructor
  case handedOn => exact handed
  case marked => exact handed.marked.not_marked h.apart
  case posted =>
    intro service body key ν around n
    exact service.ingestSignal_kept around key time handed.keeps
  case dispatched =>
    intro config ν around n
    exact Sweep.dispatch_marked config around (v.desk, n) handed.marked h.apart number
  case traded =>
    intro before after task p d busy unsaid move range
    have works := ((h.sound.move busy move).2 range).2 unsaid
    exact works.spares handed h.apart

namespace World.Sample

def token : Arguments :=
  [("token", .text "root"), ("user_id", .text "root"), ("role", .text "admin")]

/-- The desk that knows the token. -/
def trusting : Desk :=
  Activity.perform .sample "settings" "create_api_token" token (.start .sample .empty 0)

theorem trusting_history : ∃ w earlier, History (w :: earlier) ∧ w.desk = trusting := by
  have created := (History.start .sample 0).perform .sample "settings" "create_api_token" token
    fun sets => absurd sets.1 (by decide)
  exact ⟨_, _, created, rfl⟩

open Service.Sample in
/-- The post is handed on. -/
theorem post_served : ∃ w earlier results,
    Serving service (.text "Bearer root") (.ingestSignal (.object post)) (w :: earlier)
      (.done (Service.ok (Service.dispatchedForm 1 results))) := by
  obtain ⟨w, earlier, so, desk⟩ := trusting_history
  have known : ∃ c, service.callerFor (.text "Bearer root") (.ingestSignal (.object post))
      w.desk.store = .ok c := by
    rw [desk]
    apply exists_of_isOk
    decide +kernel
  obtain ⟨c, known⟩ := known
  have quiet : Run.Sample.silent.Within fun d d' : Desk => d' = d := ⟨fun _ _ => rfl, fun _ => rfl⟩
  have balance : ∀ user body, Route.ingestSignal (.object post) ≠ .adjustCoins user body := nofun
  obtain ⟨w', later, served⟩ := Serving.alone so quiet balance ()
  rw [Service.respond_run Run.Sample.silent known] at served
  obtain ⟨offer, read, named⟩ := Service.Sample.post_read
  obtain ⟨row, -, offers, fresh⟩ :=
    Service.offers_new (d := w.desk) read Service.Sample.post_key rfl named (by rw [desk]; rfl)
  have number : row.id = 1 := by
    rw [fresh.next, desk]
    rfl
  have listed : w.desk.store.activations? row.script row.timeframe = .ok [] := by
    rw [desk]
    rfl
  obtain ⟨results, dispatched⟩ := service.ingestSignal_dispatched Run.Sample.silent
    (w := (w.desk, ())) offers fresh (by rw [number]; rfl) listed
  rw [number] at dispatched
  exact ⟨w', later, results, dispatched ▸ served⟩

end World.Sample

theorem sample_signal_done : ∃ w earlier, World.History (w :: earlier) ∧
    w.SignalSettled Service.Sample.candle 1 ∧ ∃! old, World.MarkedAfter (w :: earlier) 1 old := by
  obtain ⟨w, earlier, results, served⟩ := World.Sample.post_served
  exact ⟨w, earlier, served.history, signals_handed_on_once Service.Sample.post_key served
    served.history (List.suffix_refl _)⟩

end SignalDesk
