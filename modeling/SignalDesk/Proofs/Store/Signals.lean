import SignalDesk.Proofs.Store.Figures
import SignalDesk.Proofs.Store.Change
import SignalDesk.Proofs.Store.Spending

namespace SignalDesk

/-- What a signal is kept for: a candle of a script and a timeframe. -/
structure SignalKey where
  script : String
  timeframe : String
  time : Int
deriving DecidableEq, Repr

/-- The time of the candle as rows have it. -/
def SignalKey.candle (k : SignalKey) : Figure := .number (.whole k.time)

/-- Whether a row is for the candle of a key. -/
structure StoredSignal.IsFor (r : StoredSignal) (k : SignalKey) : Prop where
  script : r.script = k.script
  timeframe : r.timeframe = k.timeframe
  candle : r.candleTime = k.candle

namespace Store

variable {s s' : Store} {k : SignalKey} {id : Int} {r : StoredSignal}

/-- An offer that is admitted makes a row that was not handed on. -/
theorem row_ok {o : SignalOffer} {now : String} (h : o.row? id now = .ok (some r)) :
    r.id = id ∧ r.processed = false ∧ cell o.script = .ok (some r.script) ∧
      cell o.timeframe = .ok (some r.timeframe) ∧
      figure? o.candleTime = .ok (some r.candleTime) := by
  simp only [SignalOffer.row?, bind_ok, pure_ok] at h
  obtain ⟨script, hs, symbol, -, timeframe, ht, time, hc, h⟩ := h
  simp only [bind, Option.bind_eq_some_iff] at h
  obtain ⟨script, rfl, side, -, symbol, rfl, timeframe, rfl, price, -, stop, -, target, -, time,
    rfl, row⟩ := h
  cases row
  exact ⟨rfl, rfl, hs, ht, hc⟩

/-- A row of the next number, for a candle that no row was for. -/
structure Fresh (s : Store) (row : StoredSignal) : Prop where
  next : row.id = nextId (s.signals.map (·.id))
  only : s.signals.any (isSignalFor row.script row.timeframe row.candleTime) = false
  new : row.processed = false

theorem addSignal_ok {o : SignalOffer} {now : String} {found : Option Int}
    (h : s.addSignal o now = .ok (found, s')) :
    found = none ∧ s' = s ∨ ∃ row, o.row? (nextId (s.signals.map (·.id))) now = .ok (some row) ∧
      s.Fresh row ∧ found = some row.id ∧ s' = { s with signals := s.signals ++ [row] } := by
  obtain ⟨row, made, h⟩ := map_ok.mp h
  cases row with
  | none =>
    cases h
    exact .inl ⟨rfl, rfl⟩
  | some row =>
    obtain ⟨next, new, -⟩ := row_ok made
    simp only at h
    split at h
    · cases h
      exact .inl ⟨rfl, rfl⟩
    · rename_i only
      cases h
      exact .inr ⟨row, made, ⟨next, by simpa using only, new⟩, by rw [next], rfl⟩

theorem ensureProfile_signals {user : Option String} {coins : Figure} {subscription : Int}
    {now : String} (h : s.ensureProfile user coins subscription now = .ok s') :
    s'.signals = s.signals := by
  simp only [ensureProfile] at h
  split at h
  · cases h
  · split at h <;> cases h <;> rfl

/-- The only ways in which signals change. -/
theorem Change.signals (h : Change s s') :
    s'.signals = s.signals ∨ (∃ row, s.Fresh row ∧ s'.signals = s.signals ++ [row]) ∨
      ∃ id now, s' = (s.markProcessed id now).2 := by
  cases h with
  | markProcessed id now => exact .inr (.inr ⟨id, now, rfl⟩)
  | addSignal adds =>
    rcases addSignal_ok adds with ⟨-, rfl⟩ | ⟨row, -, fresh, -, rfl⟩
    · exact .inl rfl
    · exact .inr (.inl ⟨row, fresh, rfl⟩)
  | enroll enrolls => exact .inl (ensureProfile_signals enrolls)
  | enable script enrolls =>
    left
    have kept := ensureProfile_signals enrolls
    exact kept
  | adjust adjusts =>
    obtain ⟨e, adjusted⟩ := adjust_ok adjusts
    rw [adjusted.store]
    exact .inl rfl
  | reserve reserves =>
    obtain ⟨t, p, -, -, rfl⟩ := reserve_ok reserves
    exact .inl rfl
  | createToken creates =>
    simp only [Store.createToken] at creates
    split at creates <;> cases creates
    exact .inl rfl
  | initialise | subscribe | markOpen | markFailed | markCancelled | close | saveScript | activate
  | deactivate | setGate | setFlag | saveKeys => exact .inl rfl

theorem mem_markProcessed (mem : r ∈ s.signals) (processed : r.processed = true) (id : Int)
    (now : String) : r ∈ (s.markProcessed id now).2.signals := by
  apply List.mem_map.mpr
  exact ⟨r, mem, by simp [processed]⟩

theorem marked_mem_markProcessed (mem : r ∈ s.signals) (waiting : r.processed = false)
    (now : String) :
    { r with processed := true, processedAt := some now } ∈
      (s.markProcessed r.id now).2.signals := by
  apply List.mem_map.mpr
  exact ⟨r, mem, by simp [waiting]⟩

/-- A row that was handed on stays as it is. -/
theorem Change.keeps_processed (h : Change s s') (mem : r ∈ s.signals)
    (processed : r.processed = true) : r ∈ s'.signals := by
  rcases h.signals with same | ⟨row, -, added⟩ | ⟨id, now, rfl⟩
  · exact same ▸ mem
  · exact added ▸ List.mem_append_left _ mem
  · exact mem_markProcessed mem processed id now

/-- Whether signals stand in the order of their numbers, and no two of them are for one candle. -/
structure SignalsApart (s : Store) : Prop where
  ordered : s.signals.Pairwise fun r q => r.id < q.id
  once : s.signals.Pairwise fun r q => isSignalFor q.script q.timeframe q.candleTime r = false

theorem SignalsApart.empty : Store.empty.SignalsApart := by
  constructor <;> simp [Store.empty]

theorem SignalsApart.of_signals (h : s.SignalsApart) (same : s'.signals = s.signals) :
    s'.SignalsApart := by
  constructor <;> rw [same]
  · exact h.ordered
  · exact h.once

theorem SignalsApart.keep (h : s.SignalsApart) (fresh : s.Fresh r)
    (added : s'.signals = s.signals ++ [r]) : s'.SignalsApart := by
  constructor <;> rw [added] <;> apply List.pairwise_append.mpr
  · refine ⟨h.ordered, List.pairwise_singleton _ _, fun q hq row new => ?_⟩
    rw [List.mem_singleton.mp new, fresh.next]
    exact lt_nextId (List.mem_map_of_mem hq)
  · refine ⟨h.once, List.pairwise_singleton _ _, fun q hq row new => ?_⟩
    rw [List.mem_singleton.mp new]
    exact Bool.eq_false_iff.mpr (List.any_eq_false.mp fresh.only q hq)

/-- Marking a signal leaves all that tells it apart. -/
theorem SignalsApart.mark (h : s.SignalsApart) (id : Int) (now : String) :
    (s.markProcessed id now).2.SignalsApart := by
  constructor
  · refine List.pairwise_map.mpr (h.ordered.imp fun {r q} below => ?_)
    split <;> split <;> exact below
  · refine List.pairwise_map.mpr (h.once.imp fun {r q} apart => ?_)
    split <;> split <;> exact apart

theorem SignalsApart.change (h : s.SignalsApart) (change : Change s s') : s'.SignalsApart := by
  rcases change.signals with same | ⟨row, fresh, added⟩ | ⟨id, now, rfl⟩
  · exact h.of_signals same
  · exact h.keep fresh added
  · exact h.mark id now

/-- A signal is found by its number. -/
theorem SignalsApart.signal? (h : s.SignalsApart) (mem : r ∈ s.signals) :
    s.signal? r.id = some r := by
  obtain ⟨before, after, split⟩ := List.append_of_mem mem
  have ordered := h.ordered
  rw [split, List.pairwise_append] at ordered
  refine List.find?_eq_some_iff_append.mpr ⟨by simp, before, after, split, fun q hq => ?_⟩
  have below := ordered.2.2 q hq r List.mem_cons_self
  simp only [Bool.not_eq_true', beq_eq_false_iff_ne]
  omega

/-- Whether a signal is kept for a key, by what number. -/
def KeepsSignal (s : Store) (k : SignalKey) (id : Int) : Prop :=
  ∃ r ∈ s.signals, r.id = id ∧ r.IsFor k

/-- Whether a signal for a key was handed on, by what number. -/
def HandedOn (s : Store) (k : SignalKey) (id : Int) : Prop :=
  ∃ r ∈ s.signals, r.id = id ∧ r.IsFor k ∧ r.processed = true

theorem HandedOn.keeps (h : s.HandedOn k id) : s.KeepsSignal k id := by
  obtain ⟨r, mem, number, isFor, -⟩ := h
  exact ⟨r, mem, number, isFor⟩

theorem KeepsSignal.change (h : s.KeepsSignal k id) (change : Change s s') :
    s'.KeepsSignal k id := by
  obtain ⟨r, mem, number, isFor⟩ := h
  rcases change.signals with same | ⟨row, -, added⟩ | ⟨other, now, rfl⟩
  · exact ⟨r, same ▸ mem, number, isFor⟩
  · exact ⟨r, added ▸ List.mem_append_left _ mem, number, isFor⟩
  · refine ⟨_, List.mem_map_of_mem mem, ?_⟩
    split
    · exact ⟨number, isFor.script, isFor.timeframe, isFor.candle⟩
    · exact ⟨number, isFor⟩

theorem HandedOn.change (h : s.HandedOn k id) (change : Change s s') : s'.HandedOn k id := by
  obtain ⟨r, mem, number, isFor, processed⟩ := h
  exact ⟨r, change.keeps_processed mem processed, number, isFor, processed⟩

/-- Marking a kept signal hands it on. -/
theorem KeepsSignal.mark (h : s.KeepsSignal k id) (now : String) :
    (s.markProcessed id now).2.HandedOn k id := by
  obtain ⟨r, mem, rfl, isFor⟩ := h
  cases processed : r.processed with
  | true => exact ⟨r, mem_markProcessed mem processed r.id now, rfl, isFor, processed⟩
  | false =>
    refine ⟨_, marked_mem_markProcessed mem processed now, rfl, ?_, rfl⟩
    exact ⟨isFor.script, isFor.timeframe, isFor.candle⟩

/-- Whether a signal is marked, by its number. -/
def Marked (s : Store) (id : Int) : Prop := ∃ r ∈ s.signals, r.id = id ∧ r.processed = true

theorem HandedOn.marked (h : s.HandedOn k id) : s.Marked id := by
  obtain ⟨r, mem, number, -, processed⟩ := h
  exact ⟨r, mem, number, processed⟩

theorem Marked.change (h : s.Marked id) (change : Change s s') : s'.Marked id := by
  obtain ⟨r, mem, number, processed⟩ := h
  exact ⟨r, change.keeps_processed mem processed, number, processed⟩

theorem marked_of_marks {now : String} (h : s.markProcessed id now = (true, s')) :
    s'.Marked id := by
  obtain ⟨marks, rfl⟩ := Prod.mk.inj h
  obtain ⟨r, mem, found⟩ := List.any_eq_true.mp marks
  obtain ⟨rfl, waiting⟩ : r.id = id ∧ r.processed = false := by simpa using found
  exact ⟨_, marked_mem_markProcessed mem waiting now, rfl, rfl⟩

/-- A marked signal is not marked again. -/
theorem Marked.not_marked (h : s.Marked id) (apart : s.SignalsApart) (now : String) :
    (s.markProcessed id now).1 = false := by
  obtain ⟨r, mem, rfl, processed⟩ := h
  apply List.any_eq_false.mpr
  intro q hq
  by_cases same : q.id = r.id
  · have found := apart.signal? hq
    rw [same, apart.signal? mem] at found
    cases found
    simp [processed]
  · simp [same]

/-- A signal that is marked was so before, or is the one that the change marks. -/
theorem Change.marks (h : Change s s') (marked : s'.Marked id) :
    s.Marked id ∨ ∃ now, s.markProcessed id now = (true, s') := by
  obtain ⟨r, mem, rfl, processed⟩ := marked
  rcases h.signals with same | ⟨row, fresh, added⟩ | ⟨other, now, rfl⟩
  · exact .inl ⟨r, same ▸ mem, rfl, processed⟩
  · rw [added] at mem
    rcases List.mem_append.mp mem with old | new
    · exact .inl ⟨r, old, rfl, processed⟩
    · rw [List.mem_singleton.mp new, fresh.new] at processed
      cases processed
  · obtain ⟨q, old, changed⟩ := List.mem_map.mp mem
    by_cases marks : (q.id == other && !q.processed) = true
    · rw [if_pos marks] at changed
      obtain ⟨number, -⟩ : q.id = other ∧ q.processed = false := by simpa using marks
      right
      refine ⟨now, Prod.ext ?_ ?_⟩
      · exact List.any_eq_true.mpr ⟨q, old, by simpa [← changed, number] using marks⟩
      · simp only [← changed, number]
    · rw [if_neg marks] at changed
      subst changed
      exact .inl ⟨q, old, rfl, processed⟩

/-- For the candle of a kept signal no other is kept. -/
theorem KeepsSignal.addSignal (h : s.KeepsSignal k id) {o : SignalOffer} {now : String}
    {row : StoredSignal} (isFor : row.IsFor k)
    (made : o.row? (nextId (s.signals.map (·.id))) now = .ok (some row)) :
    s.addSignal o now = .ok (none, s) := by
  obtain ⟨r, mem, -, own⟩ := h
  have taken : s.signals.any (isSignalFor row.script row.timeframe row.candleTime) = true := by
    apply List.any_eq_true.mpr
    refine ⟨r, mem, ?_⟩
    simp [isSignalFor, own.script, own.timeframe, own.candle, isFor.script, isFor.timeframe,
      isFor.candle, SignalKey.candle, Figure.same, Amount.same]
  simp only [Store.addSignal, made, Except.map, taken, if_true]

/-- Runs know of a signal that was handed on, by whatever they call the time of its candle. -/
theorem HandedOn.isProcessed (h : s.HandedOn k id) (apart : s.SignalsApart) {time : Figure}
    (same : time.same k.candle = true) :
    s.isProcessed k.script k.timeframe time = true := by
  obtain ⟨r, mem, -, own, processed⟩ := h
  have matching : isSignalFor k.script k.timeframe time r = true := by
    simp only [isSignalFor, own.script, own.timeframe, own.candle, beq_self_eq_true,
      Bool.true_and]
    rw [Figure.same_comm]
    exact same
  cases found : s.signals.find? (isSignalFor k.script k.timeframe time) with
  | none => exact absurd matching (by simpa using List.find?_eq_none.mp found r mem)
  | some q =>
    obtain ⟨matched, before, after, split, others⟩ := List.find?_eq_some_iff_append.mp found
    have first : q = r := by
      rw [split] at mem
      rcases List.mem_append.mp mem with early | late
      · exact absurd matching (by simpa using others r early)
      rcases List.mem_cons.mp late with rfl | late
      · rfl
      · -- an earlier row that matches would be for the same candle
        have once := apart.once
        rw [split, List.pairwise_append, List.pairwise_cons] at once
        have differs := once.2.1.1 r late
        simp only [isSignalFor, Bool.and_eq_true, beq_iff_eq] at matched
        obtain ⟨⟨script, timeframe⟩, candle⟩ := matched
        have equal := Figure.same_whole candle same
        simp [isSignalFor, own.script, own.timeframe, own.candle, script, timeframe, equal,
          SignalKey.candle] at differs
    simp only [Store.isProcessed, found, first, Option.map_some, processed, Option.getD_some]

end Store
end SignalDesk
