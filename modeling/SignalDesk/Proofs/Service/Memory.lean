import SignalDesk.Proofs.Desk.Memory
import SignalDesk.Service.Routes

namespace SignalDesk
namespace Service

variable {texts : List String} {looping : Prop} (service : Service)

theorem setGateFor_onStore (c : Caller) (script : Json) (enabled : Bool) :
    Desk.OnStore (service.setGateFor c script enabled) := by
  rintro ⟨store, clock⟩ ⟨_, _⟩ rfl rfl
  simp only [setGateFor, setGate, Desk.now]
  split
  · rfl
  split
  · rfl
  split
  · rfl
  split <;> rfl

theorem setGateFor_keeps (c : Caller) (script : Json) (enabled : Bool) (d : Desk) :
    d.store.KeepsSetup (service.setGateFor c script enabled d).2.store := by
  simp only [setGateFor]
  split
  · exact .refl _
  split
  · exact .refl _
  simp only [setGate]
  split
  · exact .refl _
  split
  · exact .refl _
  · rename_i store profiled
    have kept : d.store.KeepsSetup store := by
      split at profiled
      · exact .of_ensureProfile profiled
      · cases profiled
        exact .refl _
    exact ⟨kept.scripts, kept.flags⟩

theorem closeTrade_onStore (c : Caller) (id : Json) (body : Body) :
    Desk.OnStore (closeTrade c id body) := by
  rintro ⟨store, clock⟩ ⟨_, _⟩ rfl rfl
  simp only [closeTrade, Desk.now]
  split
  · rfl
  split
  · rfl
  · rfl
  split <;> rfl

theorem closeTrade_keeps (c : Caller) (id : Json) (body : Body) (d : Desk) :
    d.store.KeepsSetup (closeTrade c id body d).2.store := by
  simp only [closeTrade]
  split
  · exact .refl _
  split
  · exact .refl _
  · exact .refl _
  split
  · exact .refl _
  · rename_i store closed
    obtain rfl := congrArg Prod.snd closed
    exact ⟨rfl, rfl⟩

theorem adjustCoins_onStore (admin : Caller) (user : Json) (body : Body) :
    Desk.OnStore (adjustCoins admin user body) := by
  rintro ⟨store, clock⟩ ⟨_, _⟩ rfl rfl
  simp only [adjustCoins, Desk.now]
  split
  · rfl
  split
  · rfl
  · rfl
  split <;> rfl

theorem adjustCoins_keeps (admin : Caller) (user : Json) (body : Body) (d : Desk) :
    d.store.KeepsSetup (adjustCoins admin user body d).2.store := by
  simp only [adjustCoins]
  split
  · exact .refl _
  split
  · exact .refl _
  · exact .refl _
  split
  · exact .refl _
  · exact .refl _
  · rename_i adjusted
    exact .of_adjust adjusted

theorem keepSignal_onStore (offer : SignalOffer) : Desk.OnStore (keepSignal offer) := by
  rintro ⟨store, clock⟩ ⟨_, _⟩ rfl rfl
  simp only [keepSignal, Desk.now]
  split <;> rfl

theorem keepSignal_keeps (offer : SignalOffer) (d : Desk) :
    d.store.KeepsSetup (keepSignal offer d).2.store := by
  simp only [keepSignal]
  split
  · exact .refl _
  · rename_i added
    exact .of_addSignal added

theorem liveActivation_known {c : Caller} {id : Label} {timeframe : Json} {e : Evaluation}
    {script : SavedScript} {s : Store} (known : s.Knows texts) (content : script.content ∈ texts)
    {a : Activation} (h : liveActivation c id timeframe e script s = .ok a) :
    a.content ∈ texts := by
  obtain ⟨found, searched, rfl⟩ := map_ok.mp h
  obtain ⟨_, -, searched⟩ := bind_ok.mp searched
  obtain ⟨_, -, searched⟩ := bind_ok.mp searched
  obtain ⟨as, listed, searched⟩ := bind_ok.mp searched
  obtain rfl := pure_ok.mp searched
  cases first : as.find? fun a => some a.user == Label.ofJson? (.text c.user) with
  | none => exact content
  | some a =>
    exact known.activations (mapError_ok.mp listed) a (List.mem_of_find?_eq_some first)

section Apart

variable (apart : StrategyCache.DigestsApart texts)

include apart

theorem ingestSignal_oblivious (body : Body) :
    (service.ingestSignal body).Oblivious (Desk.Alike texts looping) fun _ => True := by
  simp only [ingestSignal]
  split
  · exact trivial
  rename_i offer _
  refine ((keepSignal_onStore offer).oblivious (keepSignal_keeps offer)).bind fun added _ => ?_
  split
  · exact trivial
  · exact trivial
  · refine (Sweep.dispatch_oblivious apart _ _).bind fun results _ => ?_
    split <;> exact trivial

theorem evaluateSaved_oblivious (c : Caller) (id : Label) (timeframe : Json) (dryRun : Bool) :
    (service.evaluateSaved c id timeframe dryRun).Oblivious (Desk.Alike texts looping)
      fun _ => True := by
  refine (DryRun.script_oblivious apart _ _ _ _).bind fun evaluated content => ?_
  split
  · exact trivial
  rename_i script evaluation
  dsimp only
  split
  · exact trivial
  have reads : (Program.read fun d : Desk =>
      liveActivation c id timeframe evaluation script d.store).Oblivious (Desk.Alike texts looping)
        fun found => ∀ a, found = .ok a → a.content ∈ texts := by
    refine .read fun d d' alike => ⟨by rw [alike.store], fun a found => ?_⟩
    exact liveActivation_known alike.known (content _ rfl) found
  refine reads.bind fun found known => ?_
  split
  · exact trivial
  · refine (Run.run_oblivious apart _ (known _ rfl) _ _).bind fun ended _ => ?_
    split <;> exact trivial

theorem evaluateScript_oblivious (c : Caller) (body : Body) :
    (service.evaluateScript c body).Oblivious (Desk.Alike texts looping) fun _ => True := by
  simp only [evaluateScript]
  split
  · exact trivial
  have reads : (Program.read fun d : Desk =>
      scriptFor c (Json.fieldOrNull body "scriptId") d.store).Oblivious (Desk.Alike texts looping)
        fun _ => True := .read fun d d' alike => ⟨by rw [alike.store], trivial⟩
  refine reads.bind fun found _ => ?_
  split
  · exact trivial
  · exact service.evaluateSaved_oblivious apart _ _ _ _

end Apart

theorem evaluateContent_oblivious (body : Body) :
    (service.evaluateContent body).Oblivious (Desk.Alike texts looping) fun _ => True := by
  simp only [evaluateContent]
  split
  · exact trivial
  · exact (DryRun.content_oblivious ..).map

theorem indicatorsFor_oblivious (body symbol timeframe : Json) :
    (service.indicatorsFor body symbol timeframe).Oblivious (Desk.Alike texts looping)
      fun _ => True := by
  simp only [indicatorsFor]
  split
  · exact trivial
  simp only [indicators]
  split
  · exact trivial
  · exact (DryRun.snapshot_oblivious ..).map

theorem execute_oblivious (apart : StrategyCache.DigestsApart texts) (c : Caller)
    (action body symbol timeframe : Json) :
    (service.execute c action body symbol timeframe).Oblivious (Desk.Alike texts looping)
      fun _ => True := by
  simp only [execute]
  split
  · split <;> exact trivial
  · split
    · exact trivial
    · exact service.evaluateContent_oblivious _
  · exact service.indicatorsFor_oblivious ..
  · split
    · exact trivial
    · exact service.evaluateScript_oblivious apart c _
  · split
    · exact trivial
    · exact (Sweep.sweep_oblivious apart _).map
  · exact trivial
  · exact trivial

/-- Requests are answered the same way whatever is kept in memory, unless they ask for it. -/
theorem respond_oblivious (apart : StrategyCache.DigestsApart texts) (authorization : Json)
    {r : Route} (other : r ≠ .status) :
    (service.respond authorization r).Oblivious (Desk.Alike texts looping) fun _ => True := by
  have looks : ∀ {α : Type} (f : Store → α), (Program.read fun d : Desk => f d.store).Oblivious
      (Desk.Alike texts looping) fun _ => True :=
    fun f => .read fun d d' alike => ⟨by rw [alike.store], trivial⟩
  refine (looks (service.callerFor authorization r)).bind fun found _ => ?_
  split
  · exact trivial
  rename_i c
  cases r with
  | health => exact trivial
  | status => exact absurd rfl other
  | execute => exact service.execute_oblivious apart ..
  | ingestSignal body =>
    cases body with
    | object fields => exact service.ingestSignal_oblivious apart fields
    | _ => exact trivial
  | setGate script enabled =>
    exact (service.setGateFor_onStore c script enabled).oblivious
      (service.setGateFor_keeps c script enabled)
  | trades limit status script => exact looks (Service.trades c limit status script)
  | closeTrade id body =>
    exact (closeTrade_onStore c id _).oblivious (closeTrade_keeps c id _)
  | keyStatus => exact looks (Service.keyStatus c)
  | coins => exact looks (Service.coins c)
  | adjustCoins user body =>
    exact (adjustCoins_onStore c user _).oblivious (adjustCoins_keeps c user _)

end Service
end SignalDesk
