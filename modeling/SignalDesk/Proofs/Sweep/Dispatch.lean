import SignalDesk.Proofs.Desk.Programs
import SignalDesk.Proofs.Network.Moves
import SignalDesk.Proofs.Store.Signals

namespace SignalDesk

/-- Whether the store of a desk goes on from that of another one by any number of changes. -/
def Desk.Reaches (d d' : Desk) : Prop := Relation.ReflTransGen Store.Change d.store d'.store

namespace Desk.Reaches

variable {d d' d'' : Desk}

theorem refl (d : Desk) : d.Reaches d := Relation.ReflTransGen.refl

theorem trans (first : d.Reaches d') (second : d'.Reaches d'') : d.Reaches d'' :=
  Relation.ReflTransGen.trans first second

theorem of_changes (h : Desk.Changes d d') : d.Reaches d' := by
  rcases Relation.reflGen_iff .. |>.mp h with same | change
  · unfold Reaches
    rw [same]
  · exact .single change

/-- What every change of the store keeps holds from there on. -/
theorem keeps (I : Store → Prop) (change : ∀ {s s'}, I s → Store.Change s s' → I s')
    (h : d.Reaches d') (start : I d.store) : I d'.store := by
  unfold Reaches at h
  generalize d'.store = s' at h
  induction h with
  | refl => exact start
  | tail _ last ih => exact change ih last

theorem keepsSignal {k : SignalKey} {id : Int} (h : d.Reaches d')
    (kept : d.store.KeepsSignal k id) : d'.store.KeepsSignal k id :=
  h.keeps (Store.KeepsSignal · k id) Store.KeepsSignal.change kept

theorem handedOn {k : SignalKey} {id : Int} (h : d.Reaches d') (handed : d.store.HandedOn k id) :
    d'.store.HandedOn k id :=
  h.keeps (Store.HandedOn · k id) Store.HandedOn.change handed

theorem apart (h : d.Reaches d') (apart : d.store.SignalsApart) : d'.store.SignalsApart :=
  h.keeps Store.SignalsApart Store.SignalsApart.change apart

end Desk.Reaches

/-- What works on the store as desks do leaves what no change of the store undoes. -/
theorem Program.Sound.amid {α : Type} {p : Program Desk α} (h : p.Sound) (d : Desk) :
    p.Amid Desk.Reaches (fun _ d' => d.Reaches d') d := by
  have reaches := Program.Amid.of_within (R := Desk.Reaches) h
    (fun first second => first.trans second) (fun _ _ works => .of_changes works.changed) (.refl d)
  exact reaches.mono fun _ _ ended => ended.2

namespace Sweep

variable {s : Store} {k : SignalKey} {id : Int}

/-- The activations of a kept signal are looked up unless it is marked. -/
theorem targets_eq (fits : fitsWord id = true) (s : Store) :
    targets (.int id) s =
      match s.signal? id with
      | none => .ok none
      | some row =>
        if row.processed then .ok none
        else ((s.activations? row.script row.timeframe).mapError DeskError.overrides).map
          fun activations => some ⟨row.id, pushedSignal (.int id) row, activations⟩ := by
  simp only [targets, Store.bound, fits, if_true]
  change (match s.signal? id with
    | none => _
    | some row => _ : Except DeskError (Option Targets)) = _
  cases s.signal? id with
  | none => rfl
  | some row =>
    dsimp only
    split
    · rfl
    · cases s.activations? row.script row.timeframe <;> rfl

theorem fitsWord_of_targets {found : Option Targets} (h : targets (.int id) s = .ok found) :
    fitsWord id = true := by
  by_contra large
  simp only [targets, Store.bound, large] at h
  cases h

/-- Nothing is called for by a kept signal only when it is marked. -/
theorem handedOn_of_targets (kept : s.KeepsSignal k id) (apart : s.SignalsApart)
    (h : targets (.int id) s = .ok none) : s.HandedOn k id := by
  rw [targets_eq (fitsWord_of_targets h)] at h
  obtain ⟨r, mem, rfl, isFor⟩ := kept
  rw [apart.signal? mem] at h
  simp only at h
  split at h
  · rename_i processed
    exact ⟨r, mem, rfl, isFor, processed⟩
  · obtain ⟨_, -, h⟩ := map_ok.mp h
    cases h

theorem id_of_targets {t : Targets} (h : targets (.int id) s = .ok (some t)) : t.id = id := by
  rw [targets_eq (fitsWord_of_targets h)] at h
  split at h
  · cases h
  · rename_i row found
    split at h
    · cases h
    · obtain ⟨activations, -, h⟩ := map_ok.mp h
      cases h
      simpa using List.find?_some found

/-- A marked signal calls for nothing. -/
theorem targets_marked (marked : s.Marked id) (apart : s.SignalsApart)
    (fits : fitsWord id = true) : targets (.int id) s = .ok none := by
  obtain ⟨r, mem, rfl, processed⟩ := marked
  simp only [targets_eq fits, apart.signal? mem, processed, if_true]

/-- **Handing on.** A kept signal was handed on when it comes to results, whatever others do
meanwhile. -/
theorem dispatch_amid (config : Config) {d : Desk} (kept : d.store.KeepsSignal k id)
    (apart : d.store.SignalsApart) :
    (dispatch config (.int id)).Amid Desk.Reaches
      (fun r d' => ∀ results, r = .ok results → d'.store.HandedOn k id ∧ fitsWord id = true) d := by
  simp only [dispatch, Program.monad_bind_eq, Program.read, Program.bind]
  intro d₁ reached₁
  replace kept := reached₁.keepsSignal kept
  replace apart := reached₁.apart apart
  cases found : targets (.int id) d₁.store with
  | error e =>
    simp only [found]
    intro _ _ _ failed
    cases failed
  | ok calls =>
    have fits := fitsWord_of_targets found
    cases calls with
    | none =>
      simp only [found]
      have handed := handedOn_of_targets kept apart found
      exact fun d₂ reached₂ _ _ => ⟨reached₂.handedOn handed, fits⟩
    | some t =>
      simp only [found]
      obtain rfl := id_of_targets found
      have sound : (runAll config none (some t.signal) t.activations).Sound :=
        (Desk.allows_within fun _ _ works => works).runAll config none _ fun _ _ => trivial
      refine (sound.amid d₁).bind .refl ?_
      intro results d₂ reached₂ d₃ reached₃ d₄ reached₄ _ _
      have handed := (reached₃.keepsSignal (reached₂.keepsSignal kept)).mark d₃.now
      exact ⟨reached₄.handedOn handed, fits⟩

/-- **Handed on once.** A marked signal is not handed on again: nothing is asked, and nothing
changes. -/
theorem dispatch_marked {ν : Type} (config : Config) (around : Surroundings Desk ν) (w : Desk × ν)
    (marked : w.1.store.Marked id) (apart : w.1.store.SignalsApart) (fits : fitsWord id = true) :
    (dispatch config (.int id)).run around w = (.ok [], w) ∧
      (dispatch config (.int id)).requests around w = [] := by
  have nothing := targets_marked marked apart fits
  simp only [dispatch, Program.monad_bind_eq, Program.read, Program.bind, Program.run,
    Program.requests, nothing]
  exact ⟨rfl, rfl⟩

end Sweep
end SignalDesk
