import SignalDesk.Network.Together
import SignalDesk.Proofs.Network.Rely

/-!
# Turns

A company goes on from one stop of a member to the next. What every turn of a member keeps holds
when all of them have ended, by whatever judgement goes over from programs to one after the other
(`Company.RuleOf.together`). So members that count on each other for no more than each of them keeps
to all reach their goals (`Program.Keeps.together`).
-/

namespace SignalDesk

variable {κ σ τ α : Type} {t : Terms σ}

/-- What is said of a program that goes on from somewhere, by what is to hold at its end. -/
abbrev Program.Judgement (σ τ : Type) := ∀ {α : Type}, Program σ α → (α → τ → Prop) → τ → Prop

namespace Program

/-- Whether a judgement goes over from programs to one after the other. -/
structure Judgement.Sequential (C : Judgement σ τ) : Prop where
  done : ∀ {α : Type} {a : α} {Q : α → τ → Prop} {s : τ}, Q a s → C (.done a) Q s
  bind : ∀ {α β : Type} {p : Program σ α} {g : α → Program σ β} {Q : α → τ → Prop}
    {Q' : β → τ → Prop} {s : τ}, C p Q s → (∀ a s', Q a s' → C (g a) Q' s') → C (p.bind g) Q' s

namespace Judgement.Sequential

variable {β : Type} {C : Judgement σ τ} (sequential : C.Sequential) {p : Program σ α}
  {Q : α → τ → Prop} {s : τ}

include sequential

theorem mono {Q' : α → τ → Prop} (h : C p Q s) (hQ : ∀ a s', Q a s' → Q' a s') : C p Q' s := by
  have ended := sequential.bind h fun a s' ha => sequential.done (hQ a s' ha)
  rwa [bind_done] at ended

theorem map {f : α → β} {Q' : β → τ → Prop} (h : C p (fun a => Q' (f a)) s) : C (p.map f) Q' s :=
  sequential.bind h fun _ _ ha => sequential.done ha

end Judgement.Sequential

/-- To keep terms is such a judgement. -/
theorem Keeps.sequential (t : Terms σ) :
    Judgement.Sequential (σ := σ) (τ := σ) fun p Q s => p.Keeps t Q s :=
  ⟨fun ha => ha, fun h hg => h.bind hg⟩

end Program

/-- Whether a program that waits for its turn goes on by its terms, whenever it does. -/
def Program.Waits (t : Terms σ) (Q : α → σ → Prop) (p : Program σ α) (s : σ) : Prop :=
  ∀ s', t.rely s s' → p.Keeps t Q s'

/-- Whether a program that came to a stop goes on by its terms, or has ended by them. -/
def Stop.Keeps (t : Terms σ) (Q : α → σ → Prop) : Stop σ α → σ → Prop
  | .ended a, s => Q a s
  | .gaveWay p, s => p.Waits t Q s
  | .silence p, s => p.Waits t Q s

/-- Whether programs on the same terms can count on each other. -/
structure Terms.Mutual (t : Terms σ) : Prop where
  refl : ∀ s, t.rely s s
  trans : ∀ {s s' s''}, t.rely s s' → t.rely s' s'' → t.rely s s''
  own : ∀ {s s'}, t.makes s s' → t.rely s s'

/-- Whether what holds of a state goes on to hold, whatever the others do. -/
def Terms.Stable (t : Terms σ) (J : σ → Prop) : Prop := ∀ s s', t.rely s s' → J s → J s'

namespace Program

variable {Q : α → σ → Prop} {p : Program σ α} {s s' : σ}

theorem Waits.later (peers : t.Mutual) (h : p.Waits t Q s) (later : t.rely s s') :
    p.Waits t Q s' :=
  fun _ after => h _ (peers.trans later after)

theorem Keeps.toStop (trans : ∀ {s s' s''}, t.rely s s' → t.rely s' s'' → t.rely s s'')
    (h : p.Keeps t Q s) : p.toStop.Keeps t (Stop.Keeps t Q) s := by
  induction p generalizing s with
  | done a => exact h
  | ask r k ih =>
    simp only [Program.toStop]
    refine ⟨h.1, fun reply heard s' later => ?_⟩
    cases reply with
    | silence => exact fun s'' after => h.2 .silence heard s'' (trans later after)
    | answer status body => exact ih _ (h.2 _ heard s' later)
    | fault f => exact ih _ (h.2 _ heard s' later)
  | pause p ih => exact fun s' later => ih (h s' later)
  | turn p ih => exact h
  | act f k ih => exact ⟨h.1, ih s h.2⟩

/-- A program among others on the same terms leads only to states that they count on. -/
theorem Keeps.later (peers : t.Mutual) (h : p.Keeps t Q s) :
    p.Keeps t (fun a s' => Q a s' ∧ t.rely s s') s := by
  refine h.frame (J := t.rely s) (peers.refl s) (fun _ _ heard => heard) ?_ (fun _ sent => sent)
    ?_
  · exact fun _ _ before after => ⟨after, peers.trans before after⟩
  · exact fun _ _ before made => ⟨made, peers.trans before (peers.own made)⟩

end Program

/-- The members that programs make up, by their places. -/
def membersOf (programs : List (κ × Program σ α)) : List (Member κ σ α) :=
  programs.zipIdx.map fun x => ⟨x.2, x.1.1, x.1.2⟩

/-- What is left of a member that came to a stop. -/
def Stop.left (m : Member κ σ α) : Stop σ α → List (Member κ σ α)
  | .ended _ => []
  | .gaveWay p => [{ m with program := p }]
  | .silence p => [{ m with program := p }]

/-- The result of a member that came to a stop, if it has ended. -/
def Stop.told (m : Member κ σ α) : Stop σ α → List (Nat × α)
  | .ended a => [(m.place, a)]
  | .gaveWay _ => []
  | .silence _ => []

namespace Company

/-- The members that have not ended. -/
def live (c : Company κ σ α) : List (Member κ σ α) := c.ready ++ c.silent ++ c.outside

theorem takeFirst_perm {p : Member κ σ α → Bool} {ms rest : List (Member κ σ α)}
    {m : Member κ σ α} (h : takeFirst p ms = some (m, rest)) : (m :: rest).Perm ms := by
  induction ms generalizing rest with
  | nil => simp [takeFirst] at h
  | cons n ns ih =>
    simp only [takeFirst] at h
    split at h
    · cases h
      exact .refl _
    · obtain ⟨⟨m', rest'⟩, found, eq⟩ := Option.map_eq_some_iff.mp h
      cases eq
      exact (List.Perm.swap n _ rest').trans ((ih found).cons n)

variable {admits : List κ → κ → Bool} {c : Company κ σ α} {m : Member κ σ α} {stop : Stop σ α}

theorem live_letIn : (c.letIn admits).live.Perm c.live := by
  unfold letIn
  split
  · rename_i m outside found
    have moved : (c.ready ++ [m] ++ c.silent ++ outside).Perm
        (c.ready ++ c.silent ++ (m :: outside)) := by
      have last : (m :: (c.silent ++ outside)).Perm (c.silent ++ m :: outside) :=
        List.perm_middle.symm
      simp only [List.append_assoc]
      exact last.append_left c.ready
    exact moved.trans ((takeFirst_perm found).append_left _)
  · exact .refl _

/-- Nobody comes or goes while a member has its turn. -/
theorem live_after : (c.after admits m stop).live.Perm (stop.left m ++ c.live) := by
  cases stop with
  | ended a => exact live_letIn
  | gaveWay p =>
    change (c.ready ++ [_] ++ c.silent ++ c.outside).Perm (_ :: (c.ready ++ c.silent ++ c.outside))
    simp only [List.append_assoc]
    exact List.perm_middle
  | silence p =>
    change (c.ready ++ (c.silent ++ [_]) ++ c.outside).Perm
      (_ :: (c.ready ++ c.silent ++ c.outside))
    rw [← List.append_assoc, List.append_assoc _ [_]]
    exact List.perm_middle

theorem results_letIn : (c.letIn admits).results = c.results := by
  unfold letIn
  split <;> rfl

theorem results_after : (c.after admits m stop).results = stop.told m ++ c.results := by
  cases stop with
  | ended a => exact results_letIn
  | gaveWay p => rfl
  | silence p => rfl

section Judgements

variable {C : Program.Judgement σ τ} {J : List (Member κ σ α) → Company κ σ α → τ → Prop}
  {K : List (Member κ σ α) → List (Nat × α) → τ → Prop} {s : τ}

/-- What a judgement says of a company and those that are still to come before and after every turn
(`J`), and of those that have not ended and the results when turns are over (`K`). -/
structure RuleOf (C : Program.Judgement σ τ) (admits : List κ → κ → Bool)
    (J : List (Member κ σ α) → Company κ σ α → τ → Prop)
    (K : List (Member κ σ α) → List (Nat × α) → τ → Prop) : Prop where
  enter : ∀ {m ms c s}, J (m :: ms) c s → admits c.running m.key = true →
    C m.program.toStop (fun stop s => J ms (c.after admits m stop) s) s
  stay : ∀ {m ms c s}, J (m :: ms) c s → admits c.running m.key = false →
    J ms { c with outside := c.outside ++ [m] } s
  ready : ∀ {m rest c s}, J [] c s → c.ready = m :: rest →
    C m.program.toStop (fun stop s => J [] ({ c with ready := rest }.after admits m stop) s) s
  silent : ∀ {m rest c s}, J [] c s → c.ready = [] → c.silent = m :: rest →
    C m.program.toStop (fun stop s => J [] ({ c with silent := rest }.after admits m stop) s) s
  close : ∀ {c s}, J [] c s → K c.live c.results s
  last : ∀ {m ms results s}, K (m :: ms) results s →
    C m.program (fun a s => K ms (results ++ [(m.place, a)]) s) s

namespace RuleOf

theorem gather (rule : RuleOf C admits J K) (sequential : C.Sequential)
    {ms : List (Member κ σ α)} (h : J ms c s) : C (c.gather admits ms) (J []) s := by
  induction ms generalizing c s with
  | nil => exact sequential.done h
  | cons m ms ih =>
    simp only [Company.gather]
    split
    · rename_i admitted
      exact sequential.bind (rule.enter h admitted) fun stop s' h' => ih h'
    · rename_i refused
      exact ih (rule.stay h (Bool.eq_false_iff.mpr refused))

theorem goOn (rule : RuleOf C admits J K) (sequential : C.Sequential) {stops : Nat}
    (h : J [] c s) : C (Company.goOn admits stops c) (J []) s := by
  induction stops generalizing c s with
  | zero => exact sequential.done h
  | succ stops ih =>
    simp only [Company.goOn]
    split
    · rename_i ready
      exact sequential.bind (rule.ready h ready) fun stop s' h' => ih h'
    · rename_i ready silent
      exact sequential.bind (rule.silent h ready silent) fun stop s' h' => ih h'
    · exact sequential.done h

theorem inTurn (rule : RuleOf C admits J K) (sequential : C.Sequential)
    {ms : List (Member κ σ α)} {results : List (Nat × α)} (h : K ms results s) :
    C (Program.inTurn (ms.map fun m => m.program.map (m.place, ·)))
      (fun more s => K [] (results ++ more) s) s := by
  induction ms generalizing results s with
  | nil =>
    apply sequential.done
    rwa [List.append_nil]
  | cons m ms ih =>
    have told : C (m.program.map (m.place, ·)) (fun r s => K ms (results ++ [r]) s) s :=
      sequential.map (rule.last h)
    apply sequential.bind told
    intro r s' h'
    apply sequential.bind (ih h')
    intro more s'' h''
    apply sequential.done
    rwa [List.append_assoc] at h''

/-- What holds before every turn holds at the end, and the results are those of the members. -/
theorem together (rule : RuleOf C admits J K) (sequential : C.Sequential) {stops : Nat}
    {programs : List (κ × Program σ α)} (start : J (membersOf programs) .empty s) :
    C (Program.together admits stops programs)
      (fun results s => ∃ told, K [] told s ∧
        results = (told.mergeSort fun a b => decide (a.1 ≤ b.1)).map (·.2)) s := by
  apply sequential.bind (sequential.bind (rule.gather sequential start) fun c s' h =>
    rule.goOn sequential h)
  intro c s' h
  apply sequential.bind (rule.inTurn sequential (rule.close h))
  intro more s'' h''
  exact sequential.done ⟨c.results ++ more, h'', rfl⟩

end RuleOf

/-- What a judgement says of members that have not ended, in whatever order, and of the results, when
every turn of one of them keeps it. -/
structure KeptBy (C : Program.Judgement σ τ)
    (K : List (Member κ σ α) → List (Nat × α) → τ → Prop) : Prop where
  perm : ∀ {live live' results s}, K live results s → live'.Perm live → K live' results s
  turn : ∀ {m live results s}, K (m :: live) results s →
    C m.program.toStop (fun stop s' => K (stop.left m ++ live) (stop.told m ++ results) s') s
  last : ∀ {m live results s}, K (m :: live) results s →
    C m.program (fun a s' => K live (results ++ [(m.place, a)]) s') s

/-- What turns keep holds before and after every turn, whoever is let in. -/
theorem KeptBy.rule (kept : KeptBy C K) (sequential : C.Sequential) (admits : List κ → κ → Bool) :
    RuleOf C admits (fun ms c s => K (c.live ++ ms) c.results s) K := by
  constructor
  case enter =>
    intro m ms c s h _
    apply sequential.mono (kept.turn (kept.perm h List.perm_middle.symm))
    intro stop s' h
    rw [results_after]
    apply kept.perm h
    rw [← List.append_assoc]
    exact live_after.append_right ms
  case stay =>
    intro m ms c s h _
    apply kept.perm h
    simp [live]
  case ready =>
    intro m rest c s h ready
    simp only [live, ready, List.append_nil, List.cons_append] at h ⊢
    apply sequential.mono (kept.turn h)
    intro stop s' h
    rw [results_after]
    exact kept.perm h live_after
  case silent =>
    intro m rest c s h ready silent
    simp only [live, ready, silent, List.append_nil, List.nil_append, List.cons_append] at h ⊢
    apply sequential.mono (kept.turn h)
    intro stop s' h
    rw [results_after]
    apply kept.perm h
    apply live_after.trans
    simp [live]
  case close =>
    intro c s h
    rwa [List.append_nil] at h
  case last => exact fun h => kept.last h

end Judgements

variable {J : List (Member κ σ α) → Company κ σ α → σ → Prop}
  {K : List (Member κ σ α) → List (Nat × α) → σ → Prop}

/-- What holds of a company and those that are still to come before and after every turn (`J`), and
of those that have not ended and the results when turns are over (`K`). -/
structure Rule (t : Terms σ) (admits : List κ → κ → Bool)
    (J : List (Member κ σ α) → Company κ σ α → σ → Prop)
    (K : List (Member κ σ α) → List (Nat × α) → σ → Prop) : Prop where
  enter : ∀ {m ms c s}, J (m :: ms) c s → admits c.running m.key = true →
    m.program.toStop.Keeps t (fun stop s => J ms (c.after admits m stop) s) s
  stay : ∀ {m ms c s}, J (m :: ms) c s → admits c.running m.key = false →
    J ms { c with outside := c.outside ++ [m] } s
  ready : ∀ {m rest c s}, J [] c s → c.ready = m :: rest →
    m.program.toStop.Keeps t (fun stop s => J [] ({ c with ready := rest }.after admits m stop) s) s
  silent : ∀ {m rest c s}, J [] c s → c.ready = [] → c.silent = m :: rest →
    m.program.toStop.Keeps t (fun stop s => J [] ({ c with silent := rest }.after admits m stop) s)
      s
  close : ∀ {c s}, J [] c s → K c.live c.results s
  last : ∀ {m ms results s}, K (m :: ms) results s →
    m.program.Keeps t (fun a s => K ms (results ++ [(m.place, a)]) s) s

/-- What holds before every turn holds at the end, and the results are those of the members. -/
theorem Rule.together (rule : Rule t admits J K) {s : σ} {stops : Nat}
    {programs : List (κ × Program σ α)} (start : J (membersOf programs) .empty s) :
    (Program.together admits stops programs).Keeps t
      (fun results s => ∃ told, K [] told s ∧
        results = (told.mergeSort fun a b => decide (a.1 ≤ b.1)).map (·.2)) s :=
  RuleOf.together ⟨rule.enter, rule.stay, rule.ready, rule.silent, rule.close, rule.last⟩
    (Program.Keeps.sequential t) start

/-- What holds of members that have not ended, in whatever order, and of the results, and is kept by
every turn of one of them. -/
structure Kept (t : Terms σ) (K : List (Member κ σ α) → List (Nat × α) → σ → Prop) : Prop where
  perm : ∀ {live live' results s}, K live results s → live'.Perm live → K live' results s
  turn : ∀ {m live results s}, K (m :: live) results s →
    m.program.toStop.Keeps t (fun stop s' => K (stop.left m ++ live) (stop.told m ++ results) s') s
  last : ∀ {m live results s}, K (m :: live) results s →
    m.program.Keeps t (fun a s' => K live (results ++ [(m.place, a)]) s') s

/-- What turns keep holds before and after every turn, whoever is let in. -/
theorem Kept.rule (kept : Kept t K) (admits : List κ → κ → Bool) :
    Rule t admits (fun ms c s => K (c.live ++ ms) c.results s) K := by
  have keeps : KeptBy (fun p Q s => p.Keeps t Q s) K := ⟨kept.perm, kept.turn, kept.last⟩
  have rule := keeps.rule (Program.Keeps.sequential t) admits
  exact ⟨rule.enter, rule.stay, rule.ready, rule.silent, rule.close, rule.last⟩

end Company

section Goals

variable {Goal : Nat → σ → Prop} {s : σ} {n : Nat}

/-- Whether members that have not ended are on the way to the goals of their places, and the goals
of all other places are reached. -/
structure OnTheWay (t : Terms σ) (Goal : Nat → σ → Prop) (n : Nat) (live : List (Member κ σ α))
    (s : σ) : Prop where
  waits : ∀ m ∈ live, m.program.Waits t (fun _ => Goal m.place) s
  reached : ∀ i < n, (∃ m ∈ live, m.place = i) ∨ Goal i s

namespace OnTheWay

variable {live live' : List (Member κ σ α)} {m : Member κ σ α}

theorem perm (h : OnTheWay t Goal n live s) (same : live'.Perm live) :
    OnTheWay t Goal n live' s where
  waits m hm := h.waits m (same.mem_iff.mp hm)
  reached i hi := (h.reached i hi).imp_left fun ⟨m, hm, place⟩ => ⟨m, same.mem_iff.mpr hm, place⟩

/-- Others on the same terms do not turn members from their way. -/
theorem later (peers : t.Mutual) (stable : ∀ i, t.Stable (Goal i))
    {s' : σ} (h : OnTheWay t Goal n live s) (later : t.rely s s') : OnTheWay t Goal n live s' where
  waits m hm := (h.waits m hm).later peers later
  reached i hi := (h.reached i hi).imp_right (stable i s s' later)

/-- A member that has reached its goal leaves the others on their way. -/
theorem ended (h : OnTheWay t Goal n (m :: live) s) (reached : Goal m.place s) :
    OnTheWay t Goal n live s := by
  refine ⟨fun x hx => h.waits x (List.mem_cons_of_mem _ hx), fun i hi => ?_⟩
  rcases h.reached i hi with ⟨x, hx, rfl⟩ | before
  · rcases List.mem_cons.mp hx with rfl | hx
    · exact .inr reached
    · exact .inl ⟨x, hx, rfl⟩
  · exact .inr before

theorem turn (peers : t.Mutual) (stable : ∀ i, t.Stable (Goal i))
    (h : OnTheWay t Goal n (m :: live) s) :
    m.program.toStop.Keeps t (fun stop s' => OnTheWay t Goal n (stop.left m ++ live) s') s := by
  have mine := h.waits m List.mem_cons_self s (peers.refl s)
  refine ((mine.toStop peers.trans).later peers).mono fun stop s' ⟨stopped, later⟩ => ?_
  have h := h.later peers stable later
  have others := fun x (hx : x ∈ live) => h.waits x (List.mem_cons_of_mem _ hx)
  cases stop with
  | ended a => exact h.ended stopped
  | gaveWay p =>
    refine ⟨List.forall_mem_cons.mpr ⟨stopped, others⟩, fun i hi => ?_⟩
    simpa [Stop.left] using h.reached i hi
  | silence p =>
    refine ⟨List.forall_mem_cons.mpr ⟨stopped, others⟩, fun i hi => ?_⟩
    simpa [Stop.left] using h.reached i hi

end OnTheWay

/-- Turns keep members that count on each other on their way. -/
theorem OnTheWay.kept (peers : t.Mutual) (stable : ∀ i, t.Stable (Goal i)) :
    Company.Kept (κ := κ) (α := α) t fun live _ s => OnTheWay t Goal n live s where
  perm h same := h.perm same
  turn h := h.turn peers stable
  last {m live results s} h := by
    have mine := h.waits m List.mem_cons_self s (peers.refl s)
    exact (mine.later peers).mono fun a s' ⟨reached, later⟩ =>
      (h.later peers stable later).ended reached

/-- Members that count on each other all reach their goals, in whatever order they go on. -/
theorem Program.Keeps.together (Goal : Nat → σ → Prop) {admits : List κ → κ → Bool} {stops : Nat}
    {programs : List (κ × Program σ α)} (peers : t.Mutual)
    (stable : ∀ i, t.Stable (Goal i))
    (h : ∀ x ∈ programs.zipIdx, x.1.2.Waits t (fun _ => Goal x.2) s) :
    (Program.together admits stops programs).Keeps t
      (fun _ s' => ∀ i < programs.length, Goal i s') s := by
  have start : OnTheWay t Goal programs.length (membersOf programs) s := by
    constructor
    case waits =>
      intro m hm
      obtain ⟨x, hx, rfl⟩ := List.mem_map.mp hm
      exact h x hx
    case reached =>
      intro i hi
      have here : (programs[i], i) ∈ programs.zipIdx :=
        List.mem_zipIdx_iff_getElem?.mpr (List.getElem?_eq_getElem hi)
      exact .inl ⟨_, List.mem_map_of_mem here, rfl⟩
  have rule := (OnTheWay.kept (α := α) (n := programs.length) peers stable).rule admits
  refine (rule.together (by simpa [Company.empty, Company.live] using start)).mono
    fun results s' ⟨told, h, _⟩ i hi => ?_
  exact (h.reached i hi).resolve_left (by simp)

end Goals
end SignalDesk
