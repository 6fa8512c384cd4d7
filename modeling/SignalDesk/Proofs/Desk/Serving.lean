import SignalDesk.Proofs.Desk.World
import SignalDesk.Proofs.Sweep.Dispatch

namespace SignalDesk
namespace World

/-- What is left of answering a request. -/
def answering (service : Service) (authorization : Json) (route : Route)
    (p : Program Desk Service.Reply) : Task :=
  ⟨.request service.connected authorization route, p.map fun _ => ()⟩

/-- Worlds, the latest first, in which a request was sent, and what is left of answering it. -/
inductive Serving (service : Service) (authorization : Json) (route : Route) :
    List World → Program Desk Service.Reply → Prop where
  | sent {w : World} {earlier : List World} (h : History (w :: earlier)) :
      Serving service authorization route
        (⟨w.desk, answering service authorization route (service.respond authorization route) ::
          w.busy⟩ :: w :: earlier) (service.respond authorization route)
  | goes {w : World} {earlier : List World} {before after : List Task}
      {p p' : Program Desk Service.Reply} {d : Desk}
      (h : Serving service authorization route (w :: earlier) p)
      (busy : w.busy = before ++ answering service authorization route p :: after)
      (move : Program.Move (p, w.desk) (p', d))
      (range : (∃ user body, route = .adjustCoins user body) → d.store.InRange) :
      Serving service authorization route
        (⟨d, before ++ answering service authorization route p' :: after⟩ :: w :: earlier) p'
  | waits {w w' : World} {earlier : List World} {p : Program Desk Service.Reply}
      (h : Serving service authorization route (w :: earlier) p) (step : Step w w') :
      Serving service authorization route (w' :: w :: earlier) p

variable {service : Service} {authorization : Json} {route : Route} {w w' : World}
  {worlds earlier : List World} {p : Program Desk Service.Reply}

theorem Serving.history (h : Serving service authorization route worlds p) : History worlds := by
  induction h with
  | @sent w earlier h =>
    exact h.step (.begin w service.config (.request service.connected authorization route))
  | @goes w earlier before after p p' d h busy move range ih =>
    refine ih.step (.go busy (move.bind _) fun sets => range ?_)
    cases route with
    | adjustCoins user body => exact ⟨user, body, rfl⟩
    | _ => exact absurd sets id
  | waits h step ih => exact ih.step step

/-- A request may be answered by any number of moves while nothing else goes on. -/
theorem Serving.moves {p' : Program Desk Service.Reply} {d d' : Desk} {busy : List Task}
    (h : Serving service authorization route
      (⟨d, answering service authorization route p :: busy⟩ :: earlier) p)
    (balance : ∀ user body, route ≠ .adjustCoins user body)
    (moves : Relation.ReflTransGen Program.Move (p, d) (p', d')) :
    ∃ between, Serving service authorization route
      (⟨d', answering service authorization route p' :: busy⟩ :: between) p' := by
  generalize eq : (p', d') = reached at moves
  induction moves generalizing p' d' with
  | refl =>
    cases eq
    exact ⟨earlier, h⟩
  | @tail q _ _ move ih =>
    cases eq
    obtain ⟨q, e⟩ := q
    obtain ⟨between, so⟩ := ih rfl
    exact ⟨_, @Serving.goes _ _ _ _ between [] busy q p' d' so rfl move
      fun ⟨user, body, sets⟩ => absurd sets (balance user body)⟩

/-- A request that nobody disturbs comes to its answer. -/
theorem Serving.alone {ν : Type} {around : Surroundings Desk ν} (h : History (w :: earlier))
    (alone : around.Within fun d d' => d' = d)
    (balance : ∀ user body, route ≠ .adjustCoins user body) (n : ν) :
    ∃ w' later, Serving service authorization route (w' :: later)
      (.done ((service.respond authorization route).run around (w.desk, n)).1) := by
  have moves := (service.respond authorization route).run_moves alone (w.desk, n)
  obtain ⟨between, served⟩ := (Serving.sent h).moves balance moves
  exact ⟨_, between, served⟩

theorem Step.reaches (step : Step w w') (sound : w.Sound) : w.desk.Reaches w'.desk :=
  .of_changes (step.sound sound).2

/-- What a program comes to amid any changes of the store, it comes to in every world. -/
theorem Serving.amid {Q : Service.Reply → Desk → Prop}
    (h : Serving service authorization route (w :: earlier) p)
    (start : ∀ {w : World} {earlier : List World}, History (w :: earlier) →
      (service.respond authorization route).Amid Desk.Reaches Q w.desk) :
    p.Amid Desk.Reaches Q w.desk := by
  generalize eq : w :: earlier = worlds at h
  induction h generalizing w earlier with
  | sent h =>
    cases eq
    have begun := start h
    exact begun
  | goes h busy move range ih =>
    cases eq
    exact (ih rfl).move .refl move
  | waits h step ih =>
    cases eq
    exact (ih rfl).later (fun first second => first.trans second) (step.reaches h.history.sound)

theorem History.of_suffix (h : History worlds) (old : w :: earlier <:+ worlds) :
    History (w :: earlier) := by
  induction h with
  | start config clock =>
    rcases List.suffix_cons_iff.mp old with same | none
    · rw [same]
      exact .start config clock
    · exact absurd (List.suffix_nil.mp none) (List.cons_ne_nil _ _)
  | @step v v' before h step ih =>
    rcases List.suffix_cons_iff.mp old with same | old
    · rw [same]
      exact h.step step
    · exact ih old

/-- What happened since an earlier world are changes of the store. -/
theorem History.reaches (h : History (w :: earlier)) :
    ∀ w' ∈ w :: earlier, w'.desk.Reaches w.desk := by
  have before := h.related (R := Relation.ReflTransGen Store.Change) (fun _ => .refl) .trans
    fun _ change => .single change
  exact List.forall_mem_cons.mpr ⟨.refl _, before⟩

end World
end SignalDesk
