import SignalDesk.Proofs.Network.Company
import SignalDesk.Proofs.Run.Parts
import SignalDesk.Proofs.Store.Change
import SignalDesk.Proofs.Store.Columns
import SignalDesk.Run.DryRun
import SignalDesk.Sweep.Basic

/-!
# What runs, sweeps and dry runs do

Sweeps, dispatches and dry runs are put together of runs, of steps that make no trade and turn no
gate and no activation, and of parts that leave the store alone. A property of programs that holds of
all these holds of whatever a desk does on its own (`Desk.Allows`), also if runs have it only of the
activations that desks list. So these programs change the store only as `Store.Change` lists it, and
make no trade but by the commitment of a run, whatever they hear and whatever others do meanwhile
(`Program.Sound`).
-/

namespace SignalDesk

/-- Whether the store changes only as `Store.Change` lists it. -/
def Desk.Changes (d d' : Desk) : Prop := Store.Changes d.store d'.store

/-- A step of what a desk does on its own: it leaves the store alone, changes it as listed without
making a trade, or is the commitment of a run. -/
inductive Desk.Works (d : Desk) : Desk → Prop where
  | rests {d' : Desk} (same : Desk.SameStore d d') : Works d d'
  | changes {d' : Desk} (change : Store.Change d.store d'.store)
      (made : d'.store.made = d.store.made) : Works d d'
  | commits (config : Config) (a : Activation) (gate : Gate) (signal : Signal Real64) :
      Works d (Run.commitOn config a gate signal d).2

theorem Run.commitOn_changes (config : Config) (a : Activation) (gate : Gate)
    (signal : Signal Real64) (d : Desk) :
    Desk.Changes d (commitOn config a gate signal d).2 := by
  simp only [commitOn]
  split
  · exact .refl
  · rename_i committed
    obtain ⟨_, reserved⟩ := commit_ok committed
    exact .single (.reserve reserved)

theorem Desk.Works.changed {d d' : Desk} (h : d.Works d') : Desk.Changes d d' := by
  cases h with
  | rests same => rw [Desk.Changes, show d'.store = d.store from same]
  | changes change => exact .single change
  | commits => exact Run.commitOn_changes ..

/-- A step that changes the store at most as listed, makes and closes no trade, and turns no gate and
no activation. -/
structure Desk.Minor (d d' : Desk) : Prop extends Store.Minor d.store d'.store where
  register : d.store.SameRegister d'.store
  answers : d.store.Answers d'.store

theorem Desk.Minor.of_same {d d' : Desk} (same : d.SameStore d') : d.Minor d' := by
  have same : d'.store = d.store := same
  constructor
  · rw [same]
    exact .refl _
  · rw [same]
    exact .refl _
  · exact .of_eq (congrArg Store.trades same)

theorem Desk.Works.of_minor {d d' : Desk} (h : d.store.Minor d'.store) : d.Works d' := by
  rcases Relation.reflGen_iff .. |>.mp h.changed with same | change
  · exact .rests same
  · exact .changes change h.made

/-- Whether a property of programs holds of what leaves the store alone and of minor steps, and of
what is put together of programs that have it. -/
structure Desk.AllowsMinor (C : Program.Property Desk) : Prop where
  composes : Program.Composes C
  same : ∀ {α : Type} {Q : α → Prop} {p : Program Desk α},
    p.Within (fun _ => True) Desk.SameStore Q → C Q p
  minor : ∀ {α : Type} {step : Desk → α × Desk}, (∀ d, Desk.Minor d (step d).2) →
    C (fun _ => True) (Program.atomically step)

/-- Whether all activations that a desk lists are such as `A` says. -/
def Desk.Lists (A : Activation → Prop) (d : Desk) : Prop :=
  ∀ script timeframe as, d.store.activations? script timeframe = .ok as → ∀ a ∈ as, A a

/-- Whether a property of programs holds of the runs of all activations of `A` as well, which are
those that desks of `J` list, and so of all that a desk does on its own as long as it is one of
`J`. -/
structure Desk.Allows (J : Desk → Prop) (A : Activation → Prop) (C : Program.Property Desk) : Prop
    extends Desk.AllowsMinor C where
  lists : ∀ d, J d → d.Lists A
  reads : ∀ {α : Type} (f : Desk → α), C (fun a => ∃ d, J d ∧ a = f d) (Program.read f)
  run : ∀ (config : Config) (a : Activation) (flags : Option Flags)
    (signal : Option (Signal Real64)), A a → C (fun _ => True) (Run.run config a flags signal)

/-- A property of all runs holds of all that a desk does on its own. -/
theorem Desk.AllowsMinor.allows {C : Program.Property Desk} (minor : Desk.AllowsMinor C)
    (run : ∀ (config : Config) (a : Activation) (flags : Option Flags)
      (signal : Option (Signal Real64)), C (fun _ => True) (Run.run config a flags signal)) :
    Desk.Allows (fun _ => True) (fun _ => True) C where
  toAllowsMinor := minor
  lists _ _ _ _ _ _ _ _ := trivial
  reads _ := minor.same fun d => ⟨rfl, d, trivial, rfl⟩
  run config a flags signal _ := run config a flags signal

theorem Market.get_same {α : Type} (m : Market) (path : String)
    (params : List (String × ParamValue)) (parse : Json → Payload.Read α) :
    (m.get path params parse : Program Desk _).Within (fun _ => True) Desk.SameStore
      fun _ => True :=
  (m.get_within path params parse).mono (fun _ _ => trivial) (fun _ _ h => h) fun _ h => h

theorem Sweep.wait_within (seconds : Nat) :
    (wait seconds).Within (fun _ => True) Desk.SameStore fun _ => True := by
  induction seconds with
  | zero => trivial
  | succ seconds ih =>
    refine fun d => ⟨rfl, ?_⟩
    dsimp only
    split
    · exact ih
    · trivial

namespace Desk.AllowsMinor

variable {C : Program.Property Desk} {α β : Type} {p : Program Desk α}

section Parts

variable (allows : Desk.AllowsMinor C)

include allows

theorem done (a : α) : C (fun _ => True) (Program.done a) := allows.composes.done trivial

theorem bind {g : α → Program Desk β} (h : C (fun _ => True) p)
    (hg : ∀ a, C (fun _ => True) (g a)) : C (fun _ => True) (p.bind g) :=
  allows.composes.bind h fun a _ => hg a

theorem map {f : α → β} (h : C (fun _ => True) p) : C (fun _ => True) (p.map f) :=
  allows.composes.map h fun _ _ => trivial

theorem read (f : Desk → α) : C (fun _ => True) (Program.read f) :=
  allows.same fun _ => ⟨rfl, trivial⟩

theorem modify {f : Desk → Desk} (h : ∀ d, Desk.Minor d (f d)) :
    C (fun _ => True) (Program.modify f) :=
  have step : C (fun _ => True) (Program.atomically fun d => ((), f d)) := allows.minor h
  step

end Parts

theorem markRefused (trade : Int) (e : OrderError) (message : String) (d : Desk) :
    Desk.Minor d (Run.markRefused trade e message d) := by
  cases e with
  | rateLimited =>
    exact ⟨⟨.single (.markCancelled ..), Store.made_changeTrade fun _ => rfl, rfl, rfl⟩,
      ⟨rfl, rfl, rfl⟩, Store.markCancelled_answers ..⟩
  | _ =>
    exact ⟨⟨.single (.markFailed ..), Store.made_changeTrade fun _ => rfl, rfl, rfl⟩,
      ⟨rfl, rfl, rfl⟩, Store.markFailed_answers ..⟩

theorem markFilled (r : Run.Reserved) (order : String) (price : Real64) (d : Desk) :
    Desk.Minor d (Run.markFilled r order price d) :=
  ⟨⟨.single (.markOpen ..), Store.made_changeTrade fun _ => rfl, rfl, rfl⟩, ⟨rfl, rfl, rfl⟩,
    Store.markOpen_answers ..⟩

section Programs

variable (allows : Desk.AllowsMinor C) (config : Config)

include allows

/-- Placing the order of a trade that is reserved. -/
theorem place (a : Activation) (signal : Signal Real64) (r : Run.Reserved) :
    C (fun _ => True) (Run.place config a signal r) := by
  have order := (Run.placeMarket_within config r).changes fun _ _ same => same
  refine allows.bind (allows.same order) fun answer => ?_
  rcases Run.markFor answer with fault | ⟨e, message⟩ | ⟨order, price⟩
  · exact allows.done _
  · exact allows.bind (allows.modify (markRefused r.trade e message)) fun _ => allows.done _
  · refine allows.bind (allows.modify (markFilled r order price)) fun _ => ?_
    have legs := (Run.placeProtective_within (config.exchange r.keys) r.order).changes
      fun _ _ same => same
    exact allows.bind (allows.same legs) fun _ => allows.done _

/-- A run, if the property holds of its commitments. -/
theorem run (a : Activation) (flags : Option Flags) (signal : Option (Signal Real64))
    (commits : ∀ gate signal, C (fun _ => True)
      (Program.atomically (Run.commitOn config a gate signal))) :
    C (fun _ => True) (Run.run config a flags signal) := by
  rw [Run.run_eq]
  refine allows.bind (allows.read _) fun gates => ?_
  cases gates with
  | error r => exact allows.done _
  | ok gate =>
    have search := (Run.signalFor_within config a signal).changes fun _ _ same => same
    refine allows.bind (allows.same search) fun found => ?_
    cases found with
    | error ending => exact allows.done _
    | ok signal =>
      refine allows.bind (commits gate signal) fun made => ?_
      cases made with
      | error ending => exact allows.done _
      | ok reserved => exact allows.place config a signal reserved

theorem wait (seconds : Nat) : C (fun _ => True) (Sweep.wait seconds) :=
  allows.same (Sweep.wait_within seconds)

theorem currentPrice (symbol : String) (candles : List (Candle Real64)) :
    C (fun _ => True) (DryRun.currentPrice config symbol candles) := by
  refine allows.bind (allows.same (Market.get_same ..)) fun ticker => ?_
  split <;> exact allows.done _

theorem evaluate (strategy : Strategy Binary64) (symbol : Text) (timeframe : Json)
    (limit : Int) : C (fun _ => True) (DryRun.evaluate config strategy symbol timeframe limit) := by
  simp only [DryRun.evaluate]
  split
  · exact allows.done _
  · refine allows.bind (allows.same (Market.get_same ..)) fun candles => ?_
    split
    · exact allows.done _
    · split
      · exact allows.done _
      · refine allows.bind (allows.currentPrice config _ _) fun price => ?_
        split <;> exact allows.done _

/-- The dry run of a saved script. -/
theorem script (id timeframe user : Json) :
    C (fun _ => True) (DryRun.script config id timeframe user) := by
  refine allows.bind (allows.read _) fun found => ?_
  split
  · exact allows.done _
  · refine allows.bind (allows.minor fun d => .of_same rfl) fun strategy => ?_
    split
    · exact allows.done _
    · exact allows.bind (allows.evaluate config _ _ _ _) fun _ => allows.done _

/-- The dry run of a script that is given as a text. -/
theorem content (text symbol timeframe : Json) :
    C (fun _ => True) (DryRun.content config text symbol timeframe) := by
  simp only [DryRun.content]
  split
  · exact allows.done _
  · exact allows.done _
  · exact allows.evaluate config _ _ _ _

theorem snapshot (symbol timeframe : Json) :
    C (fun _ => True) (DryRun.snapshot config symbol timeframe) := by
  simp only [DryRun.snapshot]
  split
  · exact allows.done _
  · refine allows.bind (allows.same (Market.get_same ..)) fun candles => ?_
    split
    · exact allows.done _
    · refine allows.bind (allows.currentPrice config _ _) fun price => ?_
      split <;> exact allows.done _

end Programs
end Desk.AllowsMinor

/-- The activations that a kept signal calls for are listed. -/
theorem Sweep.targets_listed {id : Json} {s : Store} {t : Targets}
    (h : targets id s = .ok (some t)) :
    ∃ script timeframe, s.activations? script timeframe = .ok t.activations := by
  obtain ⟨label, -, h⟩ := bind_ok.mp h
  split at h
  · cases h
  rename_i row _
  split at h
  · cases h
  · obtain ⟨activations, listed, h⟩ := bind_ok.mp h
    cases h
    exact ⟨row.script, row.timeframe, mapError_ok.mp listed⟩

namespace Desk.Allows

variable {J : Desk → Prop} {A : Activation → Prop} {C : Program.Property Desk}
  (allows : Desk.Allows J A C) (config : Config)

include allows

theorem together {α : Type} (slots : Option Int) {runs : List (Activation × Program Desk α)}
    (h : ∀ r ∈ runs, C (fun _ => True) r.2) : C (fun _ => True) (Sweep.together slots runs) := by
  have each : ∀ x ∈ runs.map fun r => (r.1.key, r.2), C (fun _ => True) x.2 :=
    List.forall_mem_map.mpr h
  exact allows.composes.mono (allows.composes.together each) fun _ _ => trivial

theorem runAll (slots : Option Int) (signal : Option (Signal Real64))
    {activations : List Activation} (fit : ∀ a ∈ activations, A a) :
    C (fun _ => True) (Sweep.runAll config slots signal activations) :=
  allows.together slots (List.forall_mem_map.mpr fun a member =>
    allows.map (allows.run config a none signal (fit a member)))

theorem sweep : C (fun _ => True) (Sweep.sweep config) := by
  refine allows.composes.bind (allows.reads _) fun found ⟨d, holds, read⟩ => ?_
  obtain ⟨startedAt, activations⟩ := found
  cases activations with
  | error fault => exact allows.done _
  | ok activations =>
    have fit := allows.lists d holds "" "" activations (congrArg Prod.snd read).symm
    refine allows.bind (allows.runAll config _ none fit) fun results => ?_
    exact allows.bind (allows.minor fun d => .of_same rfl) fun _ => allows.done _

theorem cycles (interval : Nat) (maxCycles : Int) (fuel : Nat) (cycle : Int) :
    C (fun _ => True) (Sweep.cycles config interval maxCycles fuel cycle) := by
  induction fuel generalizing cycle with
  | zero => exact allows.done _
  | succ fuel ih =>
    refine allows.bind (allows.sweep config) fun report => ?_
    split
    · exact allows.done _
    · refine allows.bind (allows.wait interval) fun _ => ?_
      refine allows.bind (allows.read _) fun running => ?_
      split
      · exact allows.bind (ih (cycle + 1)) fun _ => allows.done _
      · exact allows.done _

theorem loop (interval : Option Int) (maxCycles : Int) (fuel : Nat) :
    C (fun _ => True) (Sweep.loop config interval maxCycles fuel) := by
  have running (now : Bool) :
      C (fun _ => True) (Program.modify fun d : Desk => { d with running := now }) :=
    allows.modify fun _ => .of_same rfl
  exact allows.bind (running true) fun _ => allows.bind (allows.cycles config ..) fun _ =>
    allows.bind (running false) fun _ => allows.done _

theorem dispatch (id : Json) : C (fun _ => True) (Sweep.dispatch config id) := by
  refine allows.composes.bind (allows.reads _) fun found ⟨d, holds, read⟩ => ?_
  rcases found with e | _ | t
  · exact allows.done _
  · exact allows.done _
  · obtain ⟨script, timeframe, listed⟩ := Sweep.targets_listed read.symm
    have fit := allows.lists d holds script timeframe t.activations listed
    have marked : C (fun _ => True) (Program.modify fun d : Desk =>
        { d with store := (d.store.markProcessed t.id d.now).2 }) :=
      allows.modify fun _ =>
        ⟨⟨.single (.markProcessed ..), rfl, rfl, rfl⟩, ⟨rfl, rfl, rfl⟩, .of_eq rfl⟩
    exact allows.bind (allows.runAll config none _ fit) fun _ =>
      allows.bind marked fun _ => allows.done _

end Desk.Allows

/-- Whether a program works on the store as desks do. -/
def Program.Sound {α : Type} (p : Program Desk α) : Prop :=
  p.Within (fun _ => True) Desk.Works fun _ => True

theorem Desk.allowsMinor_sound :
    Desk.AllowsMinor (Program.Within (fun _ => True) Desk.Works) where
  composes := Program.Within.composes _ _
  same h := h.mono (fun _ h => h) (fun _ _ => .rests) fun _ h => h
  minor h := .atomically fun d => ⟨.of_minor (h d).toMinor, trivial⟩

theorem Run.run_sound (config : Config) (a : Activation) (flags : Option Flags)
    (signal : Option (Signal Real64)) : (run config a flags signal).Sound :=
  Desk.allowsMinor_sound.run config a flags signal fun gate signal =>
    .atomically fun _ => ⟨.commits config a gate signal, trivial⟩

/-- **What a desk does on its own.** Runs, sweeps and dispatches change the store only as listed, and
make trades by commitments only. -/
theorem Desk.allows_within {R : Desk → Desk → Prop} (works : ∀ d d', Desk.Works d d' → R d d') :
    Desk.Allows (fun _ => True) (fun _ => True) (Program.Within (fun _ => True) R) :=
  have minor : Desk.AllowsMinor (Program.Within (fun _ => True) R) :=
    { composes := Program.Within.composes _ _
      same := fun h => h.mono (fun _ h => h) (fun d d' same => works d d' (.rests same)) fun _ h => h
      minor := fun h => .atomically fun d => ⟨works d _ (.of_minor (h d).toMinor), trivial⟩ }
  minor.allows fun config a flags signal =>
    (Run.run_sound config a flags signal).mono (fun _ h => h) works fun _ h => h

end SignalDesk
