import SignalDesk.Proofs.Run.Answers
import SignalDesk.Proofs.Store.Apart

namespace SignalDesk
namespace Run

variable {config : Config} {replies : Request → Reply} {a : Activation} {as : List Activation}
  {found : Except Ending (Signal Real64)} {placed : Signal Real64 → Order → Keys → Run}
  {user other : String} {d d' : Desk} {s s' : Store}

theorem passGates_alike (alike : s.AlikeBut user s') (apart : a.user.stored ≠ some user)
    (flags : Option Flags) : passGates a flags s = passGates a flags s' := by
  cases owner : a.user.stored with
  | none => simp only [passGates, gateOf, owner, alike.flags, Option.bind_eq_bind, Option.bind_none]
  | some other =>
    have other_ne : other ≠ user := fun same => apart (same ▸ owner)
    have gated : gateOf a s = gateOf a s' := by
      simp only [gateOf, owner, Option.bind_eq_bind, Option.bind_some, alike.gates other other_ne]
    simp only [passGates, owner, Option.bind_some, gated, alike.flags,
      alike.profiles other other_ne]

/-- A run of another user commits in two stores alike, or is refused alike. -/
theorem commit_alike (alike : s.AlikeBut user s') (owner : a.user.stored = some other)
    (apart : other ≠ user) (config : Config) (gate : Gate) (signal : Signal Real64)
    (now now' : String) :
    (∃ ending, commit config a gate signal now s = .error ending ∧
      commit config a gate signal now' s' = .error ending) ∨
      ∃ trade trade' order keys t t',
        commit config a gate signal now s = .ok (⟨trade, order, keys⟩, t) ∧
          commit config a gate signal now' s' = .ok (⟨trade', order, keys⟩, t') ∧
            t.AlikeBut user t' := by
  have traded : ∀ time, hasTrade a time s = hasTrade a time s' := by
    intro time
    simp only [hasTrade, owner, Option.bind_eq_bind, Option.bind_some, alike.trades other apart]
  have handedOn : ∀ time, isHandedOn a time s = isHandedOn a time s' := by
    intro time
    simp only [isHandedOn, alike.processed]
  simp only [commit, traded, handedOn, owner, Option.bind_some, alike.keys other apart]
  split
  · exact .inl ⟨_, rfl, rfl⟩
  split
  · exact .inl ⟨_, rfl, rfl⟩
  · exact .inl ⟨_, rfl, rfl⟩
  split
  · exact .inl ⟨_, rfl, rfl⟩
  split
  · exact .inl ⟨_, rfl, rfl⟩
  split
  · exact .inl ⟨_, rfl, rfl⟩
  rename_i keys _
  have owns : (reservation a signal (quantityOf config a signal)).user.stored = some other := owner
  rcases alike.reserve owns apart now now' with
    ⟨e, left, right⟩ | ⟨id, id', t, t', left, right, alike⟩
  · rw [← quantityOf, left, right]
    left
    cases e <;> exact ⟨_, rfl, rfl⟩
  · rw [← quantityOf, left, right]
    exact .inr ⟨id, id', _, keys, t, t', rfl, rfl, alike⟩

/-- The result of a run, and the store in which it leaves the others to commit, when all that it
finds is the store `s`, its evaluation comes to `found` and its order to what `placed` tells. -/
def alone (config : Config) (found : Except Ending (Signal Real64))
    (placed : Signal Real64 → Order → Keys → Run) (a : Activation) (s : Store) : Run × Store :=
  match passGates a none s with
  | .error r => (r, s)
  | .ok gate =>
    match found with
    | .error ending => (Sweep.settle a ending, s)
    | .ok signal =>
      match commit config a gate signal "" s with
      | .error ending => (Sweep.settle a ending, s)
      | .ok (r, t) => (placed signal r.order r.keys, t)

/-- Whether `placed` tells what becomes of the orders of an activation. -/
def Places (config : Config) (replies : Request → Reply) (a : Activation)
    (placed : Signal Real64 → Order → Keys → Run) : Prop :=
  ∀ signal order keys, (placed signal order keys).user = a.user ∧
    ∀ t : Terms Desk, t.Answered replies → (∀ d d', Desk.Marks d d' → t.makes d d') → ∀ trade d,
      ((place config a signal ⟨trade, order, keys⟩).map (Sweep.settle a)).Keeps t
        (fun r _ => r.unnumbered = placed signal order keys) d

theorem Places.sure (h : Places config replies a placed) (signal : Signal Real64) (r : Reserved) :
    ((place config a signal r).map (Sweep.settle a)).Sure (.answered replies) Desk.Marks
      fun x => x.unnumbered = placed signal r.order r.keys :=
  fun d => (h signal r.order r.keys).2 _ ⟨fun _ => trivial, fun _ _ heard => heard⟩
    (fun _ _ marks => marks) r.trade d

/-- Whether activations find at a desk what others than `user` find in the store `s`. -/
structure Beside (user : String) (as : List Activation) (s : Store) (d : Desk) : Prop where
  faithful : d.Faithful
  listed : ∀ a ∈ as, a.Listed d.store
  alike : d.store.AlikeBut user s

theorem Beside.later (h : Beside user as s d) (later : d.Later d')
    (alike : d'.store.AlikeBut user s') : Beside user as s' d' :=
  ⟨later.2 h.faithful, fun a ha => (h.listed a ha).spent later.1, alike⟩

theorem Beside.rests (h : Beside user as s d) (rests : d.Rests d') : Beside user as s d' :=
  h.later rests.later (rests.1 ▸ h.alike)

theorem Beside.committed (h : Beside user as s d) {gate : Gate} {signal : Signal Real64}
    {r : Reserved} {t : Store}
    (committed : commit config a gate signal d.now d.store = .ok (r, t))
    (alike : t.AlikeBut user s') : Beside user as s' { d with store := t } := by
  obtain ⟨candle, commits⟩ := commit_commits committed
  have spent : d.store.Spent t := .of_reserve commits.reserve
  exact h.later ⟨spent, fun faithful => faithful.of_eq spent.scripts rfl⟩ alike

/-- What becomes of orders, and the time, makes no difference to anybody. -/
theorem Beside.leaves : (Terms.answered replies).Leaves Desk.Marks (Beside user as s) where
  makes _ _ := trivial
  others _ _ time h := h.rests time.rests
  own d d' marks h := by
    refine h.later marks.later ?_
    obtain ⟨trades, made, rfl⟩ := marks
    exact h.alike.of_made made

section Opening

variable (finds : Finds config (fun r => replies r.unsigned) a found)
  (places : Places config replies a placed)
  (replied : ∀ r, r.method = .get → replies r ≠ .silence)
  (beside : Beside user as s d) (member : a ∈ as)

include finds places replied beside member

end Opening

end Run
end SignalDesk
