import SignalDesk.Proofs.Run.Contest

namespace SignalDesk
namespace Contest

/-- Whether a call with a signal comes to reserve the trade `t`, whose values the tables admit. -/
structure Call.Attempts (c : Call) (gate : Gate) (signal : Signal Real64) (d : Desk) (t : Trade) :
    Prop where
  side : signal.side.isNone = false
  room : ∃ candle, Run.timeOf gate signal = .ok (some candle) ∧
    Run.hasTrade c.activation candle d.store = false ∧
      Run.isHandedOn c.activation candle d.store = false
  keys : (c.activation.user.stored.bind d.store.orderKeys?).isSome = true
  admitted : (Run.reservation c.activation signal
    (Run.quantityOf c.config c.activation signal)).trade
      (Store.nextId (d.store.trades.map (·.id))) d.now = .ok t

section Attempts

variable {c : Call} {gate : Gate} {signal : Signal Real64} {d : Desk} {t : Trade}

theorem Call.Attempts.user (h : c.Attempts gate signal d t) :
    c.activation.user.stored = some t.user :=
  (Reservation.trade_ok h.admitted).2.2.1

/-- What comes of an attempt is decided by the profile of its user. -/
theorem Call.Attempts.reserve_eq (h : c.Attempts gate signal d t) :
    d.store.reserve
        (Run.reservation c.activation signal (Run.quantityOf c.config c.activation signal)) d.now =
      ((Run.reservation c.activation signal
        (Run.quantityOf c.config c.activation signal)).verdict false
          (d.store.profile? t.user)).map fun p =>
            (t.id, d.store.charged t (p.coins.amount.plus (-1)) (Run.reservation c.activation signal
              (Run.quantityOf c.config c.activation signal)).ledgerReason d.now) := by
  obtain ⟨-, -, user, script, timeframe, figure, -⟩ := Reservation.trade_ok h.admitted
  obtain ⟨candle, time, untraded, -⟩ := h.room
  have known : candle = some t.candleTime :=
    Except.ok.inj ((Run.timeOf_figure time).symm.trans figure)
  rw [known, Run.hasTrade_eq ⟨user, script, timeframe⟩] at untraded
  rw [Store.reserve_eq_verdict, h.admitted]
  simp only [untraded]

/-- An attempt of a user with a coin takes it and makes its trade. -/
theorem Call.Attempts.commits (h : c.Attempts gate signal d t) {n : Nat} (small : n + 1 < 2 ^ 63)
    (balance : d.store.balance t.user = .number (.whole ((n + 1 : Nat) : Int))) :
    ∃ r s, Run.commit c.config c.activation gate signal d.now d.store = .ok (r, s) ∧
      s.balance t.user = .number (.whole n) := by
  obtain ⟨candle, time, untraded, unprocessed⟩ := h.room
  obtain ⟨keys, found⟩ := Option.isSome_iff_exists.mp h.keys
  have reserve := h.reserve_eq
  cases profile : d.store.profile? t.user with
  | none =>
    simp only [Store.balance, profile, Option.map_none, Option.getD_none, Figure.number.injEq,
      Amount.whole.injEq] at balance
    omega
  | some p =>
    have coins : p.coins = .number (.whole ((n + 1 : Nat) : Int)) := by
      simpa [Store.balance, profile] using balance
    have less : p.coins.amount.plus (-1) = .whole n := by
      rw [coins]
      exact (Amount.plus_whole (fitsWord_iff.mpr ⟨by omega, by omega⟩)).trans (by congr 1; omega)
    have spendable : p.coins.IsSpendable := by
      constructor
      · simp only [coins, Figure.isPositive, Amount.isPositive, decide_eq_true_eq]
        omega
      · rw [less]
        simp [Amount.isNegative]
    rw [profile, Reservation.verdict_ok.mpr ⟨rfl, rfl, spendable⟩] at reserve
    have commits : Run.Commits c.config c.activation gate signal d.now d.store candle
        ⟨t.id, Run.order c.activation signal (Run.quantityOf c.config c.activation signal), keys⟩ _ :=
      ⟨h.side, time, untraded, unprocessed, found, reserve, rfl⟩
    refine ⟨_, _, commits.commit_eq, ?_⟩
    simp [Store.balance, Store.profile?_charged, profile, less]

/-- An attempt of a user without a coin ends for want of one. -/
theorem Call.Attempts.broke (h : c.Attempts gate signal d t)
    (balance : d.store.balance t.user = .number (.whole 0)) :
    ∃ r, Run.commit c.config c.activation gate signal d.now d.store = .error (.ok r) ∧
      r.outcome = .skippedNoBudget := by
  obtain ⟨candle, time, untraded, unprocessed⟩ := h.room
  obtain ⟨keys, found⟩ := Option.isSome_iff_exists.mp h.keys
  have refused : ∀ profile, d.store.profile? t.user = profile →
      ((Run.reservation c.activation signal
        (Run.quantityOf c.config c.activation signal)).verdict false profile) =
        .error (.noCoins c.activation.user) := by
    intro profile here
    cases profile with
    | none => rfl
    | some p =>
      have coins : p.coins = .number (.whole 0) := by simpa [Store.balance, here] using balance
      simp only [Reservation.verdict, coins, Figure.isPositive, Amount.isPositive]
      rfl
  have reserve := h.reserve_eq
  rw [refused _ rfl, Run.quantityOf] at reserve
  simp only [Run.commit, h.side, time, untraded, unprocessed, found, reserve, Except.map,
    Bool.false_eq_true, if_false]
  exact ⟨_, rfl, rfl⟩

/-- A call that makes a trade has attempted it, and takes coins of its user alone. -/
theorem attempts_of_commit {r : Run.Reserved} {s : Store}
    (committed : Run.commit c.config c.activation gate signal d.now d.store = .ok (r, s)) :
    ∃ t, c.Attempts gate signal d t ∧ c.Reserves d { d with store := s } t.identity ∧
      r.trade = t.id ∧ ∀ user, user ≠ t.user → s.balance user = d.store.balance user := by
  obtain ⟨candle, commits⟩ := Run.commit_commits committed
  obtain ⟨t, p, reserves, number, rfl⟩ := Store.reserve_ok commits.reserve
  obtain ⟨-, -, user, script, timeframe, -, -⟩ := Reservation.trade_ok reserves.made
  refine ⟨t, ⟨commits.side, ⟨candle, commits.time, commits.untraded, commits.unprocessed⟩, ?_,
    reserves.made⟩, ⟨user, script, timeframe, ?_, ⟨_, rfl, rfl, rfl⟩⟩, number, fun other apart => ?_⟩
  · rw [commits.keys]
    rfl
  · simp [Store.made, Store.charged, Store.setCoins, Store.record]
  · simp only [Store.balance, Store.profile?_charged, apart, if_false, Option.map_id_fun', id]

/-- A call that is past its gate and has a signal ends there, or makes its trade and goes on to place
its order. -/
theorem commitment_move {p : Program Desk Run.Ending} {d' : Desk}
    (move : Program.Move (c.commitment gate signal, d) (p, d')) :
    (∃ ending, Run.commit c.config c.activation gate signal d.now d.store = .error ending ∧
        Run.tradeOf ending = none ∧ p = .done ending ∧ d' = d) ∨
      ∃ r s, Run.commit c.config c.activation gate signal d.now d.store = .ok (r, s) ∧
        d' = { d with store := s } ∧
          p.Within (fun _ => True) Desk.Marks (Run.EndsWith r.trade) := by
  cases move
  cases committed : Run.commit c.config c.activation gate signal d.now d.store with
  | error ending =>
    have same := Run.commitOn_error committed
    refine .inl ⟨ending, rfl, Run.commit_noTrade _ _ _ _ _ _ ending committed, ?_, ?_⟩
    · simp only [same]
      rfl
    · simp only [same]
  | ok made =>
    obtain ⟨r, s⟩ := made
    have same := Run.commitOn_ok committed
    refine .inr ⟨r, s, rfl, ?_, ?_⟩
    · simp only [same]
    · simp only [same]
      exact Run.place_marks ..

/-- Whether what is left of a call comes to reserve a trade of a user next. -/
def Call.Tries (c : Call) (user : String) (before : Program Desk Run.Ending × Desk) : Prop :=
  ∃ gate signal t, before.1 = c.commitment gate signal ∧ c.Attempts gate signal before.2 t ∧
    t.user = user

/-- A call that comes to reserve a trade makes it for a coin, or ends for want of one. -/
theorem Call.Tries.move {user : String} {p p' : Program Desk Run.Ending} {d' : Desk}
    (h : c.Tries user (p, d)) (move : Program.Move (p, d) (p', d')) {n : Nat} (small : n < 2 ^ 63)
    (balance : d.store.balance user = .number (.whole n)) :
    (n = 0 ∧ d' = d ∧ ∃ r, p' = .done (.ok r) ∧ r.trade = none ∧ r.outcome = .skippedNoBudget) ∨
      ∃ m k, n = m + 1 ∧ c.Reserves d d' k ∧ k.user = user ∧
        d'.store.balance user = .number (.whole m) ∧
          p'.Within (fun _ => True) Desk.Marks (Run.EndsWith k.id) := by
  obtain ⟨gate, signal, t, rfl, attempts, rfl⟩ := h
  cases n with
  | zero =>
    obtain ⟨r, refused, outcome⟩ := attempts.broke balance
    rcases commitment_move move with ⟨ending, same, noTrade, rfl, rfl⟩ | ⟨_, _, committed, -⟩
    · obtain rfl := Except.error.inj (refused.symm.trans same)
      exact .inl ⟨rfl, rfl, r, rfl, noTrade, outcome⟩
    · cases refused.symm.trans committed
  | succ m =>
    obtain ⟨r, s, committed, rest⟩ := attempts.commits small balance
    rcases commitment_move move with ⟨ending, refused, -⟩ | ⟨r', s', same, rfl, within⟩
    · cases refused.symm.trans committed
    · cases committed.symm.trans same
      obtain ⟨t', attempts', reserves, number, -⟩ := attempts_of_commit committed
      obtain rfl : t' = t := Except.ok.inj (attempts'.admitted.symm.trans attempts.admitted)
      rw [number] at within
      exact .inr ⟨m, t'.identity, rfl, reserves, rfl, rest, within⟩

end Attempts

/-- Whether a call is yet to begin, or looks for its signal with the gate that it has read. -/
inductive Call.Seeks (c : Call) : Program Desk Run.Ending → Prop where
  | begins : Seeks c c.program
  | looks (gate : Gate) {p : Program Desk (Except Run.Ending (Signal Real64))}
      (within : p.Within (·.method = .get) Desk.SameStore Run.NoTrade) :
      Seeks c (p.bind (Run.follow c.config c.activation gate))

/-- A call that looks for its signal leaves the store alone and goes on to look for it, ends without
a trade, or is about to commit itself. -/
theorem Call.Seeks.move {c : Call} {p p' : Program Desk Run.Ending} {d d' : Desk} (h : c.Seeks p)
    (move : Program.Move (p, d) (p', d')) :
    (d.SameStore d' ∧ (c.Seeks p' ∨ ∃ ending, p' = .done ending ∧ Run.tradeOf ending = none)) ∨
      ∃ gate signal, p = c.commitment gate signal := by
  cases h with
  | begins =>
    left
    rw [Call.program, Run.run_eq] at move
    cases move
    refine ⟨rfl, ?_⟩
    dsimp only
    cases gates : Run.passGates c.activation c.flags d.store with
    | error r => exact .inr ⟨_, rfl, Run.passGates_noTrade gates⟩
    | ok gate =>
      have within := (Run.signalFor_within c.config c.activation c.given).mono (fun _ h => h)
        (fun _ _ h => h) fun _ unplaced ending ended => (unplaced ending ended).noTrade
      exact .inl (.looks gate within)
  | looks gate within =>
    rcases Program.Move.of_bind move with ⟨q, moved, rfl⟩ | ⟨found, rfl⟩
    · obtain ⟨within, same⟩ := within.move (fun _ => rfl) moved
      exact .inl ⟨same, .inl (.looks gate within)⟩
    · cases found with
      | error ending => cases move
      | ok signal => exact .inr ⟨gate, signal, rfl⟩

end Contest
end SignalDesk
