import SignalDesk.Strategy.Cache

namespace SignalDesk
namespace StrategyCache

variable {c : StrategyCache} {key : ScriptKey} {s : Strategy Binary64}
  {entry : ScriptKey × Strategy Binary64} {script other : Label} {text text' : String}

theorem find?_mem (h : c.find? key = some s) : (key, s) ∈ c.entries := by
  obtain ⟨before, after, split, -⟩ := List.lookup_eq_some_iff.mp h
  rw [split]
  exact List.mem_append_right _ List.mem_cons_self

theorem mem_touch (h : entry ∈ (c.touch key s).entries) :
    entry ∈ c.entries ∨ entry = (key, s) := by
  rcases List.mem_append.mp h with old | new
  · exact .inl (List.mem_filter.mp old).1
  · exact .inr (List.mem_singleton.mp new)

theorem mem_add (h : entry ∈ (c.add key s).entries) :
    entry ∈ c.entries ∨ entry = (key, s) := by
  have all : entry ∈ c.entries ++ [(key, s)] := by
    simp only [add] at h
    split at h
    · exact List.mem_of_mem_drop h
    · exact h
  rcases List.mem_append.mp all with old | new
  · exact .inl old
  · exact .inr (List.mem_singleton.mp new)

/-- Whether a script, if it is kept compiled, is what its text says. -/
def KeepsAs (script : Label) (text : String) (c : StrategyCache) : Prop :=
  ∀ entry ∈ c.entries, entry.1 = ⟨script.key, Script.digest text⟩ →
    Script.parse text = .ok entry.2

theorem keepsAs_ofSize (script : Label) (text : String) (size : Int) :
    (ofSize size).KeepsAs script text := by
  intro entry kept
  cases kept

theorem KeepsAs.get (keeps : c.KeepsAs script text) :
    (c.get script text).1 = Script.parse text := by
  simp only [StrategyCache.get]
  cases found : c.find? ⟨script.key, Script.digest text⟩ with
  | some s => exact (keeps _ (find?_mem found) rfl).symm
  | none => cases Script.parse text <;> rfl

/-- What is added or moved by a call for a script is what its text says. -/
theorem KeepsAs.mem_get (keeps : c.KeepsAs script text)
    (kept : entry ∈ (c.get script text).2.entries) :
    entry ∈ c.entries ∨
      entry.1 = ⟨script.key, Script.digest text⟩ ∧ Script.parse text = .ok entry.2 := by
  simp only [StrategyCache.get] at kept
  cases found : c.find? ⟨script.key, Script.digest text⟩ with
  | some s =>
    simp only [found] at kept
    rcases mem_touch kept with old | rfl
    · exact .inl old
    · exact .inr ⟨rfl, keeps _ (find?_mem found) rfl⟩
  | none =>
    simp only [found] at kept
    cases parsed : Script.parse text with
    | error e =>
      simp only [parsed] at kept
      exact .inl kept
    | ok s =>
      simp only [parsed] at kept
      rcases mem_add kept with old | rfl
      · exact .inl old
      · exact .inr ⟨rfl, rfl⟩

/-- Calls for a script leave other scripts, and other texts of it, as they say. -/
theorem KeepsAs.after_get (keeps : c.KeepsAs script text) (keeps' : c.KeepsAs other text')
    (apart : script.key = other.key → Script.digest text = Script.digest text' → text = text') :
    (c.get script text).2.KeepsAs other text' := by
  intro entry kept key
  rcases keeps.mem_get kept with old | ⟨key', parsed⟩
  · exact keeps' entry old key
  · obtain ⟨scripts, digests⟩ := ScriptKey.mk.inj (key'.symm.trans key)
    exact apart scripts digests ▸ parsed

end StrategyCache
end SignalDesk
