import SignalDesk.Proofs.Network.Turns
import SignalDesk.Proofs.Run.Parts
import SignalDesk.Proofs.Store.Listing
import SignalDesk.Proofs.Strategy.Kept

namespace SignalDesk

/-- Whether what is kept compiled of the scripts in the store is what their texts say. -/
def Desk.Faithful (d : Desk) : Prop :=
  ∀ id script s, d.store.script? id = some script →
    ((⟨.text id, Script.digest script.content⟩ : ScriptKey), s) ∈ d.cache.entries →
      Script.parse script.content = .ok s

theorem Desk.Faithful.of_eq {d d' : Desk} (h : d.Faithful)
    (scripts : d'.store.scripts = d.store.scripts)
    (entries : d'.cache.entries = d.cache.entries) : d'.Faithful := by
  intro id script s found kept
  rw [entries] at kept
  simp only [Store.script?, scripts] at found
  exact h id script s found kept

namespace Run

end Run

/-- Whether programs on some terms may ask the market, and hear a settled reply to each request. -/
structure Terms.Asks {σ : Type} (t : Terms σ) (replies : Request → Reply) : Prop where
  sends : ∀ r, r.method = .get → t.sends r
  hears : ∀ r reply, r.method = .get → t.hears r reply → reply = replies r

section Asking

variable {σ α : Type}

theorem Hosts.askFrom_settled (replies : Request → Reply) {request : String → Request}
    {parse : Json → Payload.Read α} (gets : ∀ host, (request host).method = .get)
    (failures : List HostFailure) (hosts : List String) :
    ∃ found, ∀ t : Terms σ, t.Asks replies → ∀ s,
      (askFrom request parse failures hosts).Keeps t (fun x _ => x = found) s := by
  induction hosts generalizing failures with
  | nil => exact ⟨_, fun _ _ _ => rfl⟩
  | cons host hosts ih =>
    simp only [askFrom]
    cases judged : judge parse (replies (request host)) with
    | accept a =>
      refine ⟨.ok a, fun t asks s => ⟨asks.sends _ (gets host), fun reply heard s' _ => ?_⟩⟩
      obtain rfl := asks.hears _ _ (gets host) heard
      simp only [judged, Program.Keeps]
    | abort e =>
      refine ⟨.error e, fun t asks s => ⟨asks.sends _ (gets host), fun reply heard s' _ => ?_⟩⟩
      obtain rfl := asks.hears _ _ (gets host) heard
      simp only [judged, Program.Keeps]
    | pass fault =>
      obtain ⟨found, settled⟩ := ih (⟨host, fault⟩ :: failures)
      refine ⟨found, fun t asks s => ⟨asks.sends _ (gets host), fun reply heard s' _ => ?_⟩⟩
      obtain rfl := asks.hears _ _ (gets host) heard
      simp only [judged]
      exact settled t asks s'

theorem Market.get_settled (m : Market) (replies : Request → Reply) (path : String)
    (params : List (String × ParamValue)) (parse : Json → Payload.Read α) :
    ∃ found, ∀ t : Terms σ, t.Asks replies → ∀ s,
      (m.get path params parse).Keeps t (fun x _ => x = found) s :=
  Hosts.askFrom_settled replies (fun _ => rfl) [] m.hosts

end Asking

namespace Run

/-- Whether a run that ends so tells of the user of an activation, if it tells anything. -/
def Tells (a : Activation) : Ending → Prop
  | .ok r => r.user = a.user
  | .error _ => True

theorem Unplaced.tells {a : Activation} {ending : Ending} (h : Unplaced a ending) :
    Tells a ending := by
  cases h with
  | fault e => trivial
  | result other reason signal => rfl

/-- Whether `found` is what the evaluation of an activation comes to, where the market replies as
told. -/
structure Finds (config : Config) (replies : Request → Reply) (a : Activation)
    (found : Except Ending (Signal Real64)) : Prop where
  opened : ∀ signal, found = .ok signal → ∃ n, signal.candleTime = .int n
  tells : ∀ ending, found = .error ending → Tells a ending
  keeps : ∀ t : Terms Desk, t.Asks replies → ∀ d : Desk, d.Faithful → a.Listed d.store →
    t.makes d (compile a.script a.content d).2 →
      (evaluate config a).Keeps t (fun x _ => x = found) d

section Terms

variable {config : Config} {replies : Request → Reply} {a : Activation}
  {found : Except Ending (Signal Real64)} {t : Terms Desk} {Q : Ending → Desk → Prop} {d : Desk}

end Terms

end Run
end SignalDesk
