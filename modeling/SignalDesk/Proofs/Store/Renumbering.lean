import Mathlib.Logic.Equiv.Basic
import SignalDesk.Proofs.Store.Apart

namespace SignalDesk

/-- A trade with another number. -/
def Trade.numbered (t : Trade) (id : Int) : Trade := { t with id }

theorem Trade.numbered_of_eq {t : Trade} {id : Int} (number : t.id = id) : t.numbered id = t := by
  rw [← number]
  rfl

def Trade.renumber (ρ : Equiv.Perm Int) (t : Trade) : Trade := t.numbered (ρ t.id)

def LedgerEntry.renumber (ρ σ : Equiv.Perm Int) (e : LedgerEntry) : LedgerEntry :=
  { e with id := σ e.id, trade := e.trade.map ρ }

namespace Store

/-- Whether two stores that both add rows to a third are the same, but for the numbers of the trades
and the entries of the ledger that they add. -/
structure SameButNumbers (base : Store) (ρ σ : Equiv.Perm Int) (s s' : Store) : Prop where
  others : s' = { s with trades := s'.trades, ledger := s'.ledger }
  trades : ∃ new new', s.trades = base.trades ++ new ∧ s'.trades = base.trades ++ new' ∧
    new'.Perm (new.map (·.renumber ρ))
  ledger : ∃ new new', s.ledger = base.ledger ++ new ∧ s'.ledger = base.ledger ++ new' ∧
    new'.Perm (new.map (·.renumber ρ σ))
  oldTrades : ∀ t ∈ base.trades, ρ t.id = t.id
  oldLedger : ∀ e ∈ base.ledger, σ e.id = e.id

/-- What only adds rows to a store is the same as itself. -/
theorem sameButNumbers_self {base s : Store} (trades : base.trades <+: s.trades)
    (ledger : base.ledger <+: s.ledger) :
    base.SameButNumbers (Equiv.refl Int) (Equiv.refl Int) s s := by
  obtain ⟨newTrades, trades⟩ := trades
  obtain ⟨newEntries, ledger⟩ := ledger
  have sameTrades : newTrades.map (·.renumber (Equiv.refl Int)) = newTrades := List.map_id _
  have sameEntries : newEntries.map (·.renumber (Equiv.refl Int) (Equiv.refl Int)) = newEntries := by
    refine (List.map_congr_left fun e _ => ?_).trans (List.map_id _)
    simp [LedgerEntry.renumber]
  constructor
  case others => rfl
  case trades => exact ⟨newTrades, newTrades, trades.symm, trades.symm, sameTrades.symm ▸ .refl _⟩
  case ledger =>
    exact ⟨newEntries, newEntries, ledger.symm, ledger.symm, sameEntries.symm ▸ .refl _⟩
  case oldTrades => exact fun _ _ => rfl
  case oldLedger => exact fun _ _ => rfl

theorem sameButNumbers_charged (base : Store) (t : Trade) (left : Amount) (reason now : String) :
    base.SameButNumbers (Equiv.refl Int) (Equiv.refl Int) (base.charged t left reason now)
      (base.charged t left reason now) :=
  sameButNumbers_self (List.prefix_append ..) (List.prefix_append ..)

theorem nextId_append (ids : List Int) : nextId (ids ++ [nextId ids]) = nextId ids + 1 := by
  simp only [nextId, List.foldl_append, List.foldl_cons, List.foldl_nil]
  omega

variable {s : Store} {t u : Trade} {left left' : Amount} {reason reason' now now' : String}

/-- The number that the next trade gets. -/
def nextTrade (s : Store) : Int := nextId (s.trades.map (·.id))

/-- The number that the next entry of the ledger gets. -/
def nextEntry (s : Store) : Int := nextId (s.ledger.map (·.id))

theorem nextTrade_charged (number : t.id = s.nextTrade) :
    (s.charged t left reason now).nextTrade = s.nextTrade + 1 := by
  have ids : (s.charged t left reason now).trades.map (·.id) =
      s.trades.map (·.id) ++ [nextId (s.trades.map (·.id))] := by
    rw [← nextTrade, ← number]
    exact List.map_append
  rw [nextTrade, ids, nextId_append, ← nextTrade]

theorem nextEntry_charged (s : Store) (t : Trade) (left : Amount) (reason now : String) :
    (s.charged t left reason now).nextEntry = s.nextEntry + 1 := by
  have ids : (s.charged t left reason now).ledger.map (·.id) =
      s.ledger.map (·.id) ++ [nextId (s.ledger.map (·.id))] := List.map_append
  rw [nextEntry, ids, nextId_append, ← nextEntry]

/-- A pending trade that was just charged for may become another one right away. -/
theorem charged_changeTrade (number : t.id = s.nextTrade) (pending : t.status = .pending)
    {change : Trade → Trade} (keeps : (change t).identity = t.identity) (left : Amount)
    (reason now : String) :
    (s.charged t left reason now).changeTrade t.id isPending change =
      s.charged (change t) left reason now := by
  have others : s.trades.map (fun x => if x.id == t.id && isPending x then change x else x) =
      s.trades := by
    refine (List.map_congr_left fun x hx => ?_).trans (List.map_id _)
    have below : x.id < s.nextTrade := lt_nextId (List.mem_map_of_mem hx)
    have apart : (x.id == t.id) = false := by
      rw [number]
      simpa using Int.ne_of_lt below
    simp [apart]
  have id : (change t).id = t.id := congrArg TradeIdentity.id keeps
  have user : (change t).user = t.user := congrArg TradeIdentity.user keeps
  have awaits : isPending t = true := by simp [isPending, pending]
  simp only [charged, setCoins, record, changeTrade, List.map_append, List.map_cons, List.map_nil,
    others, awaits, beq_self_eq_true, Bool.and_self, if_true, id, user]

/-- A reservation that is entered in two stores, alike to its user, is the same but for its
number. -/
theorem Reserves.alike {s' : Store} {user : String} {r : Reservation} {t t' : Trade} {p p' : Profile}
    (h : s.Reserves r now t p) (h' : s'.Reserves r now t' p') (alike : s.AlikeBut user s')
    (apart : t.user ≠ user) : t' = t.numbered s'.nextTrade ∧ p' = p := by
  have again := r.trade_renumber s.nextTrade s.nextTrade now now
  have there := r.trade_renumber s.nextTrade s'.nextTrade now now
  have made : r.trade s.nextTrade now = .ok t := h.made
  have made' : r.trade s'.nextTrade now = .ok t' := h'.made
  rw [made] at again there
  rw [made'] at there
  have stamp : t.createdAt = now := congrArg Trade.createdAt (Except.ok.inj again)
  have same : t' = t.numbered s'.nextTrade := by rw [Except.ok.inj there, ← stamp]; rfl
  have profile : s'.profile? t'.user = some p' := h'.profile
  rw [same, show (t.numbered s'.nextTrade).user = t.user from rfl] at profile
  rw [← alike.profiles t.user apart, h.profile] at profile
  exact ⟨same, (Option.some.inj profile).symm⟩

/-- Balances of two users can be set in either order. -/
theorem setCoins_comm (profiles : List Profile) {user user' : String} (apart : user ≠ user')
    (coins coins' : Figure) :
    ((profiles.map fun p => if p.user = some user then { p with coins } else p).map fun p =>
        if p.user = some user' then { p with coins := coins' } else p) =
      (profiles.map fun p => if p.user = some user' then { p with coins := coins' } else p).map
        fun p => if p.user = some user then { p with coins } else p := by
  simp only [List.map_map]
  refine List.map_congr_left fun p _ => ?_
  simp only [Function.comp]
  by_cases mine : p.user = some user
  · simp [mine, apart]
  · by_cases yours : p.user = some user'
    · simp [yours, Ne.symm apart]
    · simp [mine, yours]

/-- The entry that tells of a charge. -/
def debit (t : Trade) (left : Amount) (reason now : String) (id : Int) : LedgerEntry :=
  ⟨id, t.user, left.plus 1, left, "trade_debit", some reason, "engine", some t.id, now⟩

/-- **Charges commute.** The first of two charges has the number that the second one would have had
without it. -/
theorem charged_comm (apart : t.user ≠ u.user) (first : t.id = s.nextTrade)
    (second : u.id = s.nextTrade) :
    s.SameButNumbers (Equiv.swap s.nextTrade (s.nextTrade + 1))
      (Equiv.swap s.nextEntry (s.nextEntry + 1))
      ((s.charged t left reason now).charged (u.numbered (s.nextTrade + 1)) left' reason' now')
      ((s.charged u left' reason' now').charged (t.numbered (s.nextTrade + 1)) left reason
        now) := by
  constructor
  case others =>
    exact congrArg (fun profiles =>
      { (s.charged u left' reason' now').charged (t.numbered (s.nextTrade + 1)) left reason now with
        profiles }) (setCoins_comm s.profiles apart left left').symm
  case trades =>
    refine ⟨[t, u.numbered (s.nextTrade + 1)], [u, t.numbered (s.nextTrade + 1)],
      List.append_assoc .., List.append_assoc .., ?_⟩
    have swapped : [t, u.numbered (s.nextTrade + 1)].map
        (·.renumber (Equiv.swap s.nextTrade (s.nextTrade + 1))) =
          [t.numbered (s.nextTrade + 1), u] := by
      simp only [List.map_cons, List.map_nil, Trade.renumber, Trade.numbered, first,
        Equiv.swap_apply_left, Equiv.swap_apply_right]
      rw [← second]
    rw [swapped]
    exact .swap ..
  case ledger =>
    refine ⟨[debit t left reason now s.nextEntry,
        debit (u.numbered (s.nextTrade + 1)) left' reason' now' (s.nextEntry + 1)],
      [debit u left' reason' now' s.nextEntry,
        debit (t.numbered (s.nextTrade + 1)) left reason now (s.nextEntry + 1)], ?_, ?_, ?_⟩
    · rw [← nextEntry_charged s t left reason now]
      exact List.append_assoc ..
    · rw [← nextEntry_charged s u left' reason' now']
      exact List.append_assoc ..
    · simp only [List.map_cons, List.map_nil, LedgerEntry.renumber, debit, Trade.numbered, first,
        second, Option.map_some, Equiv.swap_apply_left, Equiv.swap_apply_right]
      exact .swap ..
  case oldTrades =>
    intro x hx
    have below : x.id < s.nextTrade := lt_nextId (List.mem_map_of_mem hx)
    exact Equiv.swap_apply_of_ne_of_ne (by omega) (by omega)
  case oldLedger =>
    intro x hx
    have below : x.id < s.nextEntry := lt_nextId (List.mem_map_of_mem hx)
    exact Equiv.swap_apply_of_ne_of_ne (by omega) (by omega)

end Store
end SignalDesk
