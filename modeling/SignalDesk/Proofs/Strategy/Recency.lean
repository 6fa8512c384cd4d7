import Mathlib.Data.List.Basic
import SignalDesk.Proofs.Results
import SignalDesk.Strategy.Cache

namespace SignalDesk

section Latest

variable {β : Type} [BEq β] [LawfulBEq β] {x : β} {xs : List β} {n : Nat}

theorem filter_eraseDups (p : β → Bool) (xs : List β) :
    (xs.filter p).eraseDups = xs.eraseDups.filter p := by
  induction h : xs.length using Nat.strongRecOn generalizing xs with
  | _ n ih =>
    cases xs with
    | nil => rfl
    | cons x xs =>
      subst h
      have others : (xs.filter fun y => !y == x).length < (x :: xs).length :=
        Nat.lt_succ_of_le (List.length_filter_le _ _)
      rw [List.eraseDups_cons, List.filter_cons, List.filter_cons, ← ih _ others _ rfl]
      split
      · rw [List.eraseDups_cons, List.filter_filter, List.filter_filter]
        simp only [Bool.and_comm]
      · rename_i out
        rw [List.filter_filter]
        refine congrArg List.eraseDups (List.filter_congr fun y _ => ?_)
        by_cases same : y = x
        · simp [same, out]
        · simp [same]

theorem eraseDups_cons_eq : (x :: xs).eraseDups = x :: xs.eraseDups.filter (· != x) := by
  rw [List.eraseDups_cons, filter_eraseDups]
  rfl

theorem nodup_eraseDups (xs : List β) : xs.eraseDups.Nodup := by
  induction xs with
  | nil => exact List.nodup_nil
  | cons x xs ih =>
    rw [eraseDups_cons_eq]
    exact List.nodup_cons.mpr ⟨by simp, ih.filter _⟩

/-- Among the first of distinct values, one that is taken out makes room for the next. -/
theorem take_filter_of_mem (distinct : xs.Nodup) (h : x ∈ xs.take (n + 1)) :
    (xs.filter (· != x)).take n = (xs.take (n + 1)).filter (· != x) := by
  induction xs generalizing n with
  | nil => simp at h
  | cons y ys ih =>
    obtain ⟨absent, distinct⟩ := List.nodup_cons.mp distinct
    by_cases same : y = x
    · subst same
      have apart : ys.filter (· != y) = ys :=
        List.filter_eq_self.mpr fun z hz => by simpa using ne_of_mem_of_not_mem hz absent
      have apart' : (ys.take n).filter (· != y) = ys.take n :=
        List.filter_eq_self.mpr fun z hz => by
          simpa using ne_of_mem_of_not_mem (List.mem_of_mem_take hz) absent
      simp [apart, apart']
    · rw [List.take_succ_cons, List.mem_cons] at h
      replace h := h.resolve_left (Ne.symm same)
      cases n with
      | zero => simp at h
      | succ n => simp [same, ih distinct h]

theorem take_filter_of_not_mem (h : x ∉ xs.take n) :
    (xs.filter (· != x)).take n = xs.take n := by
  have first : (xs.take n).filter (· != x) = xs.take n :=
    List.filter_eq_self.mpr fun y hy => by simpa using ne_of_mem_of_not_mem hy h
  conv_lhs => rw [← List.take_append_drop n xs, List.filter_append, first]
  rcases Nat.le_total n xs.length with full | short
  · exact List.take_left' (by simp [full])
  · simp [List.drop_eq_nil_of_le short, List.take_take]

end Latest

namespace StrategyCache

/-- What a cache is called for. -/
inductive Call
  | get (script : Label) (text : String)
  | clear
deriving DecidableEq

/-- A script by its id and its text; ids that are equal as keys are one. -/
abbrev Source := Label × String

namespace Source

def key (x : Source) : ScriptKey := ⟨x.1, Script.digest x.2⟩

/-- What a cache is to hold of a script. -/
def entry (x : Source) : ScriptKey × Except ScriptError (Strategy Binary64) :=
  (x.key, Script.parse x.2)

end Source

/-- The cache after calls. -/
def after (c : StrategyCache) : List Call → StrategyCache
  | [] => c
  | .get script text :: earlier => ((c.after earlier).get script text).2
  | .clear :: earlier => (c.after earlier).clear

/-- The text that a call asks for. -/
def Call.text? : Call → Option String
  | get _ text => some text
  | clear => none

/-- The texts that calls ask for. -/
def texts (calls : List Call) : List String := calls.filterMap Call.text?

/-- How many calls ask for a script. -/
def gets (calls : List Call) : Nat := (texts calls).length

/-- The scripts that calls asked for since the last clear, those that could be compiled. -/
def asked : List Call → List Source
  | [] => []
  | .get script text :: earlier =>
    if (Script.parse text).isOk then (script.key, text) :: asked earlier else asked earlier
  | .clear :: _ => []

/-- The distinct scripts asked for last, as many as there is room for. -/
def latest (room : Nat) (calls : List Call) : List Source := (asked calls).eraseDups.take room

/-- How many calls asked for one of the scripts that were the latest then. -/
def hitsOf (room : Nat) : List Call → Nat
  | [] => 0
  | .get script text :: earlier =>
    hitsOf room earlier + if (script.key, text) ∈ latest room earlier then 1 else 0
  | .clear :: earlier => hitsOf room earlier

/-- Whether no two of some texts have the same digest. -/
def DigestsApart (texts : List String) : Prop :=
  ∀ t ∈ texts, ∀ t' ∈ texts, Script.digest t = Script.digest t' → t = t'

instance (texts : List String) : Decidable (DigestsApart texts) :=
  inferInstanceAs (Decidable (∀ t ∈ texts, ∀ t' ∈ texts, _))

theorem DigestsApart.mono {ts ts' : List String} (h : DigestsApart ts) (fewer : ts' ⊆ ts) :
    DigestsApart ts' :=
  fun t ht t' ht' => h t (fewer ht) t' (fewer ht')

/-- Scripts that were asked for could be compiled, and their texts are among those of the calls. -/
theorem mem_asked {calls : List Call} :
    ∀ x ∈ asked calls, x.2 ∈ texts calls ∧ ∃ s, Script.parse x.2 = .ok s := by
  induction calls with
  | nil => simp [asked]
  | cons call earlier ih =>
    cases call with
    | get script text =>
      have before : ∀ x ∈ asked earlier,
          x.2 ∈ texts (.get script text :: earlier) ∧ ∃ s, Script.parse x.2 = .ok s :=
        fun x hx => ⟨List.mem_cons_of_mem _ (ih x hx).1, (ih x hx).2⟩
      simp only [asked]
      split
      · rename_i compiled
        exact List.forall_mem_cons.mpr ⟨⟨List.mem_cons_self, exists_of_isOk compiled⟩, before⟩
      · exact before
    | clear => simp [asked]

theorem mem_latest {room : Nat} {calls : List Call} {x : Source} (h : x ∈ latest room calls) :
    x.2 ∈ texts calls ∧ ∃ s, Script.parse x.2 = .ok s :=
  mem_asked x (List.mem_eraseDups.mp (List.mem_of_mem_take h))

/-- Whether a cache holds just some scripts, the latest first, each as its text says. -/
def Holds (c : StrategyCache) (sources : List Source) : Prop :=
  (c.entries.map fun (key, s) => (key, Except.ok s)) = sources.reverse.map Source.entry

/-- Whether keys tell a script from all others on a list. -/
def KeyApart (x : Source) (sources : List Source) : Prop :=
  ∀ y ∈ sources, y.key = x.key → y = x

section Holds

variable {c : StrategyCache} {sources : List Source} {x : Source} {s : Strategy Binary64}

theorem Holds.mem_entries (h : c.Holds sources) {key : ScriptKey} (kept : (key, s) ∈ c.entries) :
    ∃ x ∈ sources, x.key = key ∧ Script.parse x.2 = .ok s := by
  have told : (key, Except.ok s) ∈ sources.reverse.map Source.entry := by
    rw [← show _ = _ from h]
    exact List.mem_map.mpr ⟨_, kept, rfl⟩
  obtain ⟨x, member, eq⟩ := List.mem_map.mp told
  exact ⟨x, List.mem_reverse.mp member, congrArg Prod.fst eq, congrArg Prod.snd eq⟩

theorem Holds.length (h : c.Holds sources) : c.entries.length = sources.length := by
  simpa using congrArg List.length h

/-- A look-up finds a script that is held, as its text says. -/
theorem Holds.find?_of_mem (h : c.Holds sources) (apart : KeyApart x sources) (held : x ∈ sources) :
    ∃ s, c.find? x.key = some s ∧ Script.parse x.2 = .ok s := by
  have told : x.entry ∈ c.entries.map fun (key, s) => (key, Except.ok s) := by
    rw [show _ = _ from h]
    exact List.mem_map.mpr ⟨x, List.mem_reverse.mpr held, rfl⟩
  obtain ⟨⟨key, s⟩, kept, eq⟩ := List.mem_map.mp told
  obtain rfl : key = x.key := congrArg Prod.fst eq
  cases found : c.find? x.key with
  | none =>
    have absent := List.lookup_eq_none_iff.mp found _ kept
    simp at absent
  | some s' =>
    obtain ⟨before, rest, split, -⟩ := List.lookup_eq_some_iff.mp found
    have kept : (x.key, s') ∈ c.entries := by simp [split]
    obtain ⟨y, member, same, parsed⟩ := h.mem_entries kept
    rw [apart y member same] at parsed
    exact ⟨s', rfl, parsed⟩

theorem Holds.find?_of_not_mem (h : c.Holds sources) (apart : KeyApart x sources)
    (absent : x ∉ sources) : c.find? x.key = none := by
  refine List.lookup_eq_none_iff.mpr fun entry kept => ?_
  obtain ⟨key, s⟩ := entry
  obtain ⟨y, member, same, -⟩ := h.mem_entries kept
  simp only [bne_iff_ne, ne_eq]
  intro eq
  exact absent (apart y member (same.trans eq.symm) ▸ member)

/-- A script that is used again becomes the latest. -/
theorem Holds.touch (h : c.Holds sources) (apart : KeyApart x sources)
    (parsed : Script.parse x.2 = .ok s) :
    (c.touch x.key s).Holds (x :: sources.filter (· != x)) := by
  have others : ((c.entries.filter (·.1 != x.key)).map fun (key, s) => (key, Except.ok s)) =
      (sources.filter (· != x)).reverse.map Source.entry :=
    calc ((c.entries.filter (·.1 != x.key)).map fun (key, s) => (key, Except.ok s))
        = (c.entries.map fun (key, s) => (key, Except.ok s)).filter (·.1 != x.key) := by
          rw [List.filter_map]
          rfl
      _ = (sources.reverse.map Source.entry).filter (·.1 != x.key) := by rw [show _ = _ from h]
      _ = (sources.reverse.filter fun y => y.key != x.key).map Source.entry := by
          rw [List.filter_map]
          rfl
      _ = (sources.filter (· != x)).reverse.map Source.entry := by
          rw [← List.filter_reverse]
          refine congrArg _ (List.filter_congr fun y member => ?_)
          rw [Bool.eq_iff_iff, bne_iff_ne, bne_iff_ne]
          exact not_congr ⟨apart y (List.mem_reverse.mp member), fun same => same ▸ rfl⟩
  simp only [Holds, StrategyCache.touch, List.map_append, others, List.reverse_cons]
  simp [Source.entry, parsed]

/-- A new script becomes the latest; where there is no room for it, the one used longest ago
goes. -/
theorem Holds.add (h : c.Holds sources) (fits : sources.length ≤ c.capacity)
    (parsed : Script.parse x.2 = .ok s) :
    (c.add x.key s).Holds ((x :: sources).take c.capacity) := by
  have all : (c.entries ++ [(x.key, s)]).map (fun (key, s) => (key, Except.ok s)) =
      (x :: sources).reverse.map Source.entry := by
    rw [List.map_append, show _ = _ from h, List.reverse_cons, List.map_append]
    simp [Source.entry, parsed]
  have length : (c.entries ++ [(x.key, s)]).length = (x :: sources).length := by
    simp [h.length]
  simp only [Holds, StrategyCache.add]
  split
  · rename_i full
    rw [List.map_drop, all, ← List.map_drop, List.drop_reverse]
    rw [length] at full
    have beyond : (x :: sources).length = c.capacity + 1 := by
      simp only [List.length_cons] at full ⊢
      omega
    rw [beyond]
    rfl
  · rename_i room
    rw [all, List.take_of_length_le (by omega)]

end Holds

section Steps

variable {c : StrategyCache} {room : Nat} {calls : List Call} {script : Label} {text : String}

theorem latest_of_hit {s : Strategy Binary64} (parsed : Script.parse text = .ok s)
    (hit : (script.key, text) ∈ latest room calls) :
    latest room (.get script text :: calls) =
      (script.key, text) :: (latest room calls).filter (· != (script.key, text)) := by
  cases room with
  | zero => simp [latest] at hit
  | succ room =>
    simp only [latest, asked, parsed, Except.isOk, Except.toBool, if_true, eraseDups_cons_eq,
      List.take_succ_cons] at hit ⊢
    rw [take_filter_of_mem (nodup_eraseDups _) hit]

theorem latest_of_miss {s : Strategy Binary64} (positive : 0 < room)
    (parsed : Script.parse text = .ok s) (miss : (script.key, text) ∉ latest room calls) :
    latest room (.get script text :: calls) =
      ((script.key, text) :: latest room calls).take room := by
  obtain ⟨room, rfl⟩ := Nat.exists_eq_succ_of_ne_zero (Nat.ne_of_gt positive)
  have before : (script.key, text) ∉ (asked calls).eraseDups.take room := fun h =>
    miss (List.take_subset_take_left _ (Nat.le_succ room) h)
  simp only [latest, asked, parsed, Except.isOk, Except.toBool, if_true, eraseDups_cons_eq,
    List.take_succ_cons]
  rw [take_filter_of_not_mem before, List.take_take, Nat.min_eq_left (Nat.le_succ room)]

theorem latest_of_failure {e : ScriptError} (failed : Script.parse text = .error e) :
    latest room (.get script text :: calls) = latest room calls := by
  simp [latest, asked, failed, Except.isOk, Except.toBool]

end Steps

/-- What is so of a cache with room after some calls. -/
structure Follows (room : Nat) (calls : List Call) (c : StrategyCache) : Prop where
  capacity : c.capacity = room
  holds : c.Holds (latest room calls)
  hits : c.hits = hitsOf room calls
  counts : c.hits + c.misses = gets calls

/-- What a call for a script gives and leaves, to a cache that follows the calls before. -/
structure Serves (room : Nat) (earlier : List Call) (script : Label) (text : String)
    (c : StrategyCache) : Prop where
  gives : (c.get script text).1 = Script.parse text
  fails : ∀ e, Script.parse text = .error e → (c.get script text).2.entries = c.entries
  hits : (c.get script text).2.hits =
    c.hits + if (script.key, text) ∈ latest room earlier then 1 else 0
  misses : (c.get script text).2.misses =
    c.misses + if (script.key, text) ∈ latest room earlier then 0 else 1

theorem DigestsApart.keyApart {script : Label} {text : String} {room : Nat} {earlier : List Call}
    (apart : DigestsApart (texts (.get script text :: earlier))) :
    KeyApart (script.key, text) (latest room earlier) := by
  intro y member same
  have digests : Script.digest y.2 = Script.digest text := congrArg ScriptKey.digest same
  have scripts : y.1 = script.key := congrArg ScriptKey.script same
  exact Prod.ext scripts
    (apart _ (List.mem_cons_of_mem _ (mem_latest member).1) _ List.mem_cons_self digests)

section Calls

variable {room : Nat} {earlier : List Call} {c : StrategyCache} {script : Label} {text : String}

theorem gets_get : gets (.get script text :: earlier) = gets earlier + 1 := rfl

theorem Follows.get_hit {s : Strategy Binary64} (h : Follows room earlier c)
    (keys : KeyApart (script.key, text) (latest room earlier))
    (found : c.find? ⟨script.key, Script.digest text⟩ = some s)
    (parsed : Script.parse text = .ok s) (member : (script.key, text) ∈ latest room earlier) :
    Follows room (.get script text :: earlier) (c.get script text).2 ∧
      Serves room earlier script text c := by
  obtain ⟨capacity, holds, hits, counts⟩ := h
  have step : c.get script text =
      (.ok s, { c.touch ⟨script.key, Script.digest text⟩ s with hits := c.hits + 1 }) := by
    simp only [StrategyCache.get, found]
  refine ⟨⟨?_, ?_, ?_, ?_⟩, ⟨?_, ?_, ?_, ?_⟩⟩
  · rw [step]
    exact capacity
  · rw [step, latest_of_hit parsed member]
    exact holds.touch keys parsed
  · simp only [step, hitsOf, if_pos member, hits]
  · simp only [step, gets_get, ← counts, StrategyCache.touch]
    omega
  · rw [step, parsed]
  · intro e failed
    rw [parsed] at failed
    exact nomatch failed
  · simp only [step, if_pos member]
  · simp only [step, if_pos member, StrategyCache.touch, Nat.add_zero]

/-- A script that does not compile is not kept. -/
theorem Follows.get_failure {e : ScriptError} (h : Follows room earlier c)
    (absent : c.find? ⟨script.key, Script.digest text⟩ = none)
    (parsed : Script.parse text = .error e) (member : (script.key, text) ∉ latest room earlier) :
    Follows room (.get script text :: earlier) (c.get script text).2 ∧
      Serves room earlier script text c := by
  obtain ⟨capacity, holds, hits, counts⟩ := h
  have step : c.get script text = (.error e, { c with misses := c.misses + 1 }) := by
    simp only [StrategyCache.get, absent, parsed]
  refine ⟨⟨?_, ?_, ?_, ?_⟩, ⟨?_, ?_, ?_, ?_⟩⟩
  · rw [step]
    exact capacity
  · rw [step, latest_of_failure parsed]
    exact holds
  · simp only [step, hitsOf, if_neg member, hits, Nat.add_zero]
  · simp only [step, gets_get, ← counts]
    omega
  · rw [step, parsed]
  · exact fun _ _ => by rw [step]
  · simp only [step, if_neg member, Nat.add_zero]
  · simp only [step, if_neg member]

theorem Follows.get_miss {s : Strategy Binary64} (h : Follows room earlier c)
    (positive : 0 < room) (absent : c.find? ⟨script.key, Script.digest text⟩ = none)
    (parsed : Script.parse text = .ok s) (member : (script.key, text) ∉ latest room earlier) :
    Follows room (.get script text :: earlier) (c.get script text).2 ∧
      Serves room earlier script text c := by
  obtain ⟨capacity, holds, hits, counts⟩ := h
  have step : c.get script text = (.ok s,
      { c with misses := c.misses + 1 }.add ⟨script.key, Script.digest text⟩ s) := by
    simp only [StrategyCache.get, absent, parsed]
  refine ⟨⟨?_, ?_, ?_, ?_⟩, ⟨?_, ?_, ?_, ?_⟩⟩
  · rw [step]
    exact capacity
  · have fits : (latest c.capacity earlier).length ≤ c.capacity := List.length_take_le _ _
    have holds : { c with misses := c.misses + 1 }.Holds (latest c.capacity earlier) :=
      capacity ▸ holds
    rw [step, latest_of_miss positive parsed member, ← capacity]
    exact holds.add (x := (script.key, text)) fits parsed
  · simp only [step, hitsOf, if_neg member, hits, Nat.add_zero, StrategyCache.add]
  · simp only [step, gets_get, ← counts, StrategyCache.add]
    omega
  · rw [step, parsed]
  · intro e failed
    rw [parsed] at failed
    exact nomatch failed
  · simp only [step, if_neg member, Nat.add_zero, StrategyCache.add]
  · simp only [step, if_neg member, StrategyCache.add]

/-- A call for a script keeps what is so of a cache. -/
theorem Follows.get (h : Follows room earlier c) (positive : 0 < room)
    (apart : DigestsApart (texts (.get script text :: earlier))) :
    Follows room (.get script text :: earlier) (c.get script text).2 ∧
      Serves room earlier script text c := by
  have keys : KeyApart (script.key, text) (latest room earlier) := apart.keyApart
  by_cases member : (script.key, text) ∈ latest room earlier
  · obtain ⟨s, found, parsed⟩ := h.holds.find?_of_mem keys member
    exact h.get_hit keys found parsed member
  · have absent : c.find? ⟨script.key, Script.digest text⟩ = none :=
      h.holds.find?_of_not_mem keys member
    cases parsed : Script.parse text with
    | error e => exact h.get_failure absent parsed member
    | ok s => exact h.get_miss positive absent parsed member

end Calls

/-- A cache follows its calls as long as no two of their texts have the same digest. -/
theorem follows (size : Int) {calls : List Call} (apart : DigestsApart (texts calls)) :
    Follows (max 1 size.toNat) calls ((ofSize size).after calls) := by
  induction calls with
  | nil => exact ⟨rfl, by simp [Holds, latest, asked, after, ofSize], rfl, rfl⟩
  | cons call earlier ih =>
    cases call with
    | get script text =>
      have before := ih (apart.mono (List.subset_cons_self _ _))
      exact (before.get (by omega) apart).1
    | clear =>
      obtain ⟨capacity, -, hits, counts⟩ := ih apart
      exact ⟨capacity, by simp [Holds, latest, asked, after, clear], hits, counts⟩

/-- **The scripts used last.** After any calls, where no two texts have the same digest, a cache
holds the distinct scripts that were asked for last and could be compiled, as many as it has room
for, and has counted its hits and misses. Each call for a script gave what compiling its text gives,
counted as a hit just when the script was among those held, and left them alone when it failed. -/
theorem keeps_latest_scripts (size : Int) (calls : List Call)
    (apart : DigestsApart (texts calls)) :
    let room := max 1 size.toNat
    Follows room calls ((ofSize size).after calls) ∧
      ((ofSize size).after calls).entries.length ≤ room ∧
      ∀ script text earlier, .get script text :: earlier <:+ calls →
        Serves room earlier script text ((ofSize size).after earlier) := by
  intro room
  have now := follows size apart
  refine ⟨now, ?_, fun script text earlier before => ?_⟩
  · rw [now.holds.length]
    exact List.length_take_le _ _
  · have apart := apart.mono (before.filterMap Call.text?).subset
    have since := follows size (apart.mono (List.subset_cons_self _ _))
    exact (since.get (by omega) apart).2

/-- A cache for one script compiles a script, finds it again under a number that is the same key,
fails on an empty text, gives way to another script, and is cleared at the end. -/
theorem sample_latest_scripts :
    let calls : List Call :=
      [.clear, .get "b" "a", .get (.bool true) "", .get (.bool true) "a", .get (.int 1) "a"]
    DigestsApart (texts calls) ∧
      latest 1 (calls.drop 1) = [(.text "b", "a")] ∧ hitsOf 1 calls = 1 ∧ gets calls = 4 ∧
      Follows 1 calls ((ofSize 1).after calls) := by
  have told : Script.digest "a" ≠ Script.digest "" := by decide +kernel
  have two : DigestsApart ["a", ""] := by simp [DigestsApart, told, told.symm]
  have apart : DigestsApart (texts [.clear, .get "b" "a", .get (.bool true) "",
      .get (.bool true) "a", .get (.int 1) "a"]) := two.mono (by decide)
  exact ⟨apart, by decide +kernel, by decide +kernel, rfl,
    (keeps_latest_scripts 1 _ apart).1⟩

end StrategyCache
end SignalDesk
