import Mathlib.Data.List.Nodup
import Mathlib.Data.List.Pairwise
import SignalDesk.Proofs.Desk.World
import SignalDesk.Proofs.Store.Figures

namespace SignalDesk

namespace TradeIdentity

/-- Whether two trades are for the same candle of the same script and timeframe of one user. -/
def sameCandle (k l : TradeIdentity) : Bool :=
  k.user == l.user && k.script == l.script && k.timeframe == l.timeframe &&
    k.candleTime.same l.candleTime

theorem sameCandle_comm (k l : TradeIdentity) : k.sameCandle l = l.sameCandle k := by
  simp only [sameCandle, Figure.same_comm k.candleTime, Bool.beq_comm (a := k.user),
    Bool.beq_comm (a := k.script), Bool.beq_comm (a := k.timeframe)]

end TradeIdentity

namespace Store

/-- Whether the ledger tells of each trade once, in the order in which trades were made. -/
structure Debited (s : Store) : Prop where
  trades : s.made.Pairwise fun k l => k.id < l.id
  ledger : s.ledger.Pairwise fun e f => e.id < f.id
  matching : s.ledger.filterMap (·.trade) = s.made.map (·.id)
  coin : ∀ e ∈ s.ledger, ∀ k ∈ s.made, e.trade = some k.id →
    e.user = k.user ∧ ∃ n : Int, e.before = .number (.whole (n + 1)) ∧ e.after = .number (.whole n)
  once : s.made.Pairwise fun k l => k.sameCandle l = false

variable {s s' : Store}

theorem Debited.empty : Store.empty.Debited := by
  constructor <;> simp [Store.empty, made]

theorem Debited.same (d : s.Debited) (ledger : s'.ledger = s.ledger) (made : s'.made = s.made) :
    s'.Debited := by
  constructor
  all_goals simp only [ledger, made]
  · exact d.trades
  · exact d.ledger
  · exact d.matching
  · exact d.coin
  · exact d.once

/-- An entry with the next number keeps the ledger in order. -/
theorem ledger_append {e : LedgerEntry} (ordered : s.ledger.Pairwise fun e f => e.id < f.id)
    (next : e.id = nextId (s.ledger.map (·.id))) :
    (s.ledger ++ [e]).Pairwise fun e f => e.id < f.id := by
  refine List.pairwise_append.mpr ⟨ordered, List.pairwise_singleton _ _, fun f hf g hg => ?_⟩
  rw [List.mem_singleton.mp hg, next]
  exact lt_nextId (List.mem_map_of_mem hf)

theorem Debited.adjusted {user : String} {e : LedgerEntry} (d : s.Debited)
    (adjusted : s.Adjusted user e s') : s'.Debited := by
  constructor
  all_goals simp only [adjusted.ledger, adjusted.made]
  case trades => exact d.trades
  case ledger => exact ledger_append d.ledger adjusted.next
  case matching => simp [d.matching, adjusted.trade]
  case coin =>
    intro f hf k hk told
    rcases List.mem_append.mp hf with old | new
    · exact d.coin f old k hk told
    · rw [List.mem_singleton.mp new, adjusted.trade] at told
      cases told
  case once => exact d.once

theorem Debited.booked {t : Trade} {coins : Int} {e : LedgerEntry} (d : s.Debited)
    (booked : s.Booked t coins e s') : s'.Debited := by
  have fresh : ∀ k ∈ s.made, k.id < t.id := by
    intro k hk
    rw [booked.fresh, ← made_ids]
    exact lt_nextId (List.mem_map_of_mem hk)
  constructor
  all_goals simp only [booked.ledger, booked.made]
  case trades =>
    refine List.pairwise_append.mpr ⟨d.trades, List.pairwise_singleton _ _, fun k hk l hl => ?_⟩
    rw [List.mem_singleton.mp hl]
    exact fresh k hk
  case ledger => exact ledger_append d.ledger booked.next
  case matching => simp [d.matching, booked.trade, Trade.identity]
  case coin =>
    intro f hf k hk told
    rcases List.mem_append.mp hf with old | new <;> rcases List.mem_append.mp hk with older | newer
    · exact d.coin f old k older told
    · -- an entry from before does not know the number of the new trade
      have known : k.id ∈ s.made.map (·.id) := d.matching ▸ List.mem_filterMap.mpr ⟨f, old, told⟩
      obtain ⟨l, hl, same⟩ := List.mem_map.mp known
      have := fresh l hl
      rw [List.mem_singleton.mp newer] at same
      exact absurd same (Int.ne_of_lt this)
    · -- and the new entry knows no other number
      rw [List.mem_singleton.mp new, booked.trade, Option.some.injEq] at told
      exact absurd told.symm (Int.ne_of_lt (fresh k older))
    · rw [List.mem_singleton.mp new, List.mem_singleton.mp newer]
      exact ⟨booked.holder, coins, booked.before, booked.after⟩
  case once =>
    refine List.pairwise_append.mpr ⟨d.once, List.pairwise_singleton _ _, fun k hk l hl => ?_⟩
    obtain ⟨other, made, rfl⟩ := List.mem_map.mp hk
    rw [List.mem_singleton.mp hl]
    exact Bool.eq_false_iff.mpr fun same => by
      simpa using List.any_eq_false.mp booked.only other made same

theorem Debited.change (d : s.Debited) (range : s.InRange) (h : Change s s') : s'.Debited := by
  rcases h.books range with same | ⟨p, enrolled, -⟩ | ⟨user, e, adjusted, -⟩ | ⟨t, coins, e, booked⟩
  · exact d.same same.ledger same.made
  · exact d.same enrolled.ledger enrolled.made
  · exact d.adjusted adjusted
  · exact d.booked booked

/-- The ledger and the trades that were made only grow. -/
theorem Change.grows (range : s.InRange) (h : Change s s') :
    s.ledger <+: s'.ledger ∧ s.made <+: s'.made := by
  rcases h.books range with same | ⟨p, enrolled, -⟩ | ⟨user, e, adjusted, -⟩ | ⟨t, coins, e, booked⟩
  · exact ⟨same.ledger ▸ List.prefix_refl _, same.made ▸ List.prefix_refl _⟩
  · exact ⟨enrolled.ledger ▸ List.prefix_refl _, enrolled.made ▸ List.prefix_refl _⟩
  · exact ⟨adjusted.ledger ▸ List.prefix_append _ _, adjusted.made ▸ List.prefix_refl _⟩
  · exact ⟨booked.ledger ▸ List.prefix_append _ _, booked.made ▸ List.prefix_append _ _⟩

/-- One debit for each trade, and one trade for each debit. -/
structure DebitsMatch (s : Store) : Prop where
  paid : ∀ t ∈ s.trades, ∃! e, e ∈ s.ledger ∧ e.trade = some t.id
  spent : ∀ e ∈ s.ledger, ∀ id, e.trade = some id → ∃! t, t ∈ s.trades ∧ t.id = id
  coin : ∀ t ∈ s.trades, ∀ e ∈ s.ledger, e.trade = some t.id →
    e.user = t.user ∧ ∃ n : Int, e.before = .number (.whole (n + 1)) ∧ e.after = .number (.whole n)
  trades : (s.trades.map (·.id)).Nodup
  entries : (s.ledger.map (·.id)).Nodup
  once : ∀ t ∈ s.trades, ∀ t' ∈ s.trades, t ≠ t' →
    isTradeFor t.user t.script t.timeframe t.candleTime t' = false

theorem Debited.debitsMatch (d : s.Debited) : s.DebitsMatch := by
  have numbers : (s.trades.map (·.id)).Nodup := by
    rw [← made_ids]
    exact (List.pairwise_map.mpr d.trades).imp fun below => Int.ne_of_lt below
  have apart : s.ledger.Pairwise fun e f =>
      ∀ i, e.trade = some i → ∀ j, f.trade = some j → i ≠ j := by
    rw [← made_ids, ← d.matching] at numbers
    exact List.pairwise_filterMap.mp numbers
  have asMade : ∀ t ∈ s.trades, t.identity ∈ s.made := fun t ht => List.mem_map_of_mem ht
  constructor
  case trades => exact numbers
  case entries => exact (List.pairwise_map.mpr d.ledger).imp fun below => Int.ne_of_lt below
  case paid =>
    intro t ht
    have told : t.id ∈ s.ledger.filterMap (·.trade) := by
      rw [d.matching, made_ids]
      exact List.mem_map_of_mem ht
    obtain ⟨e, he, tells⟩ := List.mem_filterMap.mp told
    refine ⟨e, ⟨he, tells⟩, fun f ⟨hf, alike⟩ => ?_⟩
    by_contra differ
    have : Std.Symm fun e f : LedgerEntry =>
        ∀ i, e.trade = some i → ∀ j, f.trade = some j → i ≠ j :=
      ⟨fun _ _ h i hi j hj => (h j hj i hi).symm⟩
    exact apart.forall hf he differ _ alike _ tells rfl
  case spent =>
    intro e he id tells
    have known : id ∈ s.trades.map (·.id) := by
      rw [← made_ids, ← d.matching]
      exact List.mem_filterMap.mpr ⟨e, he, tells⟩
    obtain ⟨t, ht, rfl⟩ := List.mem_map.mp known
    exact ⟨t, ⟨ht, rfl⟩, fun u ⟨hu, same⟩ => List.inj_on_of_nodup_map numbers hu ht same⟩
  case coin => exact fun t ht e he tells => d.coin e he t.identity (asMade t ht) tells
  case once =>
    intro t ht u hu differ
    have : Std.Symm fun t u : Trade => t.identity.sameCandle u.identity = false :=
      ⟨fun t u h => (TradeIdentity.sameCandle_comm ..).trans h⟩
    exact (List.pairwise_map.mp d.once).forall hu ht (Ne.symm differ)

end Store

theorem World.History.debited {w : World} {earlier : List World} (h : History (w :: earlier)) :
    w.desk.store.Debited := by
  refine (h.store (I := fun s => s.InRange ∧ s.Debited) ⟨?_, .empty⟩ ?_).2
  · intro user coins found
    cases found
  · rintro s s' ⟨range, d⟩ change
    exact ⟨change.inRange range, d.change range change⟩

/-- **Every trade is paid for once.** In every world that comes about, there is one debit for each
trade, a coin of its user, and no other; no two trades are for the same candle. What the ledger told
before it still tells. -/
theorem debits_match_trades {w : World} {earlier : List World} (h : World.History (w :: earlier)) :
    w.desk.store.DebitsMatch ∧
      ∀ w' ∈ earlier, w'.desk.store.ledger <+: w.desk.store.ledger := by
  refine ⟨h.debited.debitsMatch, h.related (R := fun s s' => s.ledger <+: s'.ledger) ?_ ?_ ?_⟩
  · exact fun s => List.prefix_refl _
  · exact fun first second => first.trans second
  · exact fun range change => (change.grows range).1

namespace World.Sample

def level : Json := .real (.finite ⟨false, 100, 0⟩)

def profile : Arguments := [("user_id", .text "ada")]

def trade : Arguments :=
  [("user_id", .text "ada"), ("script_id", .text "cross"), ("symbol", .text "BTCUSDT"),
    ("timeframe", .text "1h"), ("signal_type", .text "BUY"), ("candle_open_time", .int 5),
    ("entry_price", level), ("stop_loss", level), ("take_profit", level)]

def profiling : Activity := .statement "coins" "ensure_profile" profile

def trading : Activity := .statement "trades" "reserve_trade" trade

def funded : Desk :=
  Activity.perform .sample "coins" "ensure_profile" profile (.start .sample .empty 0)

def traded : Desk := Activity.perform .sample "trades" "reserve_trade" trade funded

/-- The last world. -/
def last : World := ⟨traded, [⟨trading, .done ()⟩, ⟨profiling, .done ()⟩]⟩

/-- The worlds before, the latest first. -/
def earlier : List World :=
  [⟨funded, [⟨trading, trading.program .sample⟩, ⟨profiling, .done ()⟩]⟩,
    ⟨funded, [⟨profiling, .done ()⟩]⟩,
    ⟨.start .sample .empty 0, [⟨profiling, profiling.program .sample⟩]⟩,
    .opening .sample .empty 0]

theorem history : History (last :: earlier) := by
  have range : funded.store.InRange :=
    Store.inRange_of_profiles fun p hp => ⟨5, by rw [List.mem_singleton.mp hp]; rfl, by decide⟩
  have profiled := (History.start .sample 0).perform .sample "coins" "ensure_profile" profile
    fun _ => range
  exact profiled.perform .sample "trades" "reserve_trade" trade fun sets =>
    absurd sets.1 (by decide)

end World.Sample

theorem sample_debits_match : World.Sample.traded.store.trades.length = 1 ∧
    World.Sample.traded.store.DebitsMatch :=
  ⟨rfl, (debits_match_trades World.Sample.history).1⟩

end SignalDesk
