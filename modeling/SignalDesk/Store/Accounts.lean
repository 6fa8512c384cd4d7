import SignalDesk.Digest.Sha256
import SignalDesk.Exchange.Basic
import SignalDesk.Store.Basic

namespace SignalDesk

/-- Why a balance is not changed. -/
inductive AdjustError
  | unknownUser
  | store (e : StoreError)
deriving DecidableEq, Repr

/-- What the ledger is to say about a change: what was done, why and by whom. -/
structure LedgerNote where
  action : Json
  reason : Json
  performedBy : Json

/-- The columns of a note; only the reason may be missing. -/
def LedgerNote.columns (n : LedgerNote) : Except StoreError (String × Option String × String) := do
  let action ← Store.cell n.action
  let reason ← Store.cell n.reason
  let performedBy ← Store.cell n.performedBy
  return (← Store.require "coin_ledger.action" action, reason,
    ← Store.require "coin_ledger.performed_by" performedBy)

namespace Store

variable (s : Store)

def profile? (user : String) : Option Profile := s.profiles.find? (·.user == some user)

def balance (user : String) : Figure :=
  ((s.profile? user).map (·.coins)).getD (Amount.whole 0)

/-- Adds a profile unless the user has one or the balance would be negative. -/
def ensureProfile (user : Option String) (coins : Figure) (subscription : Int) (now : String) :
    Except StoreError Store :=
  if !(coins.isTold && fitsWord subscription) then .error .tooLarge
  else if coins.isNegative || (user.bind s.profile?).isSome then .ok s
  else .ok { s with profiles := s.profiles ++ [⟨user, coins, subscription, now⟩] }

def setSubscription (user : String) (subscription : Int) : Store :=
  { s with profiles := s.profiles.map fun p =>
      if p.user = some user then { p with subscription := subscription } else p }

/-- Replaces a balance. -/
def setCoins (user : String) (coins : Figure) : Store :=
  { s with profiles := s.profiles.map fun p =>
      if p.user = some user then { p with coins := coins } else p }

/-- Writes a change of a balance to the ledger. -/
def record (user : String) (before after : Figure) (action : String) (reason : Option String)
    (performedBy : String) (trade : Option Int) (now : String) : Store :=
  let id := nextId (s.ledger.map (·.id))
  { s with ledger := s.ledger ++
      [⟨id, user, before, after, action, reason, performedBy, trade, now⟩] }

/-- What the ledger calls a change that an administrator makes. -/
def adminAction : String := "admin_adjust"

/-- Adds `delta` coins, but not below zero, and notes it. -/
def adjust (user : String) (delta : Amount) (note : LedgerNote) (now : String) :
    Except AdjustError ((Figure × Figure) × Store) :=
  match s.profile? user with
  | none => .error .unknownUser
  | some profile =>
    if !delta.isTold then .error (.store .tooLarge)
    else
      match profile.coins.amount.add? delta, note.columns with
      | none, _ => .error (.store (.notNull "profiles.coins"))
      | some _, .error e => .error (.store e)
      | some sum, .ok (action, reason, performedBy) =>
        let after : Figure := sum.floored
        .ok ((profile.coins, after),
          (s.setCoins user after).record user profile.coins after action reason performedBy none
            now)

/-- The ledger of a user, the newest entry first. -/
def ledgerOf (user : String) (limit : Int) : Except StoreError (List LedgerEntry) :=
  (requireWord limit).map fun _ => limited limit (s.ledger.filter (·.user == user)).reverse

def flags? (name : String) : Option Bool :=
  (s.flags.find? (·.name == some name)).map (·.enabled != 0)

def currentFlags : Flags :=
  ⟨(s.flags? tradingFlag).getD true, (s.flags? paidFlag).getD false⟩

/-- Sets a flag. Each flag without a name is another one. -/
def setFlag (name : Option String) (enabled : Int) : Store :=
  { s with
    flags :=
      upsert (fun f => name.isSome && f.name == name) (fun f => { f with enabled := enabled })
        ⟨name, enabled⟩ s.flags }

def defaultExchange : String := "binance"

def saveKeys (user exchange key secret : String) (now : String) : Store :=
  { s with
    keys :=
      upsert (fun k => k.user == user && k.exchange == exchange)
        (fun k => { k with key := key, secret := secret })
        ⟨user, exchange, key, secret, now⟩ s.keys }

def keys? (user exchange : String) : Option ExchangeKeys :=
  s.keys.find? fun k => k.user == user && k.exchange == exchange

/-- The keys that orders of a user are signed with. -/
def orderKeys? (user : String) : Option Keys :=
  (s.keys? user defaultExchange).map fun k => ⟨k.key, k.secret⟩

/-- Keeps a token in place of one with the same digest. -/
def createToken (token user role : String) (now : String) : Except StoreError Store :=
  match Role.ofName? role with
  | none => .error (.check "role IN ('user', 'admin')")
  | some role =>
    let digest := Sha256.hexDigest token
    .ok { s with tokens := s.tokens.filter (·.digest != digest) ++ [⟨digest, user, role, now⟩] }

/-- The user a token speaks for, and the user's role. -/
def resolveToken? (token : String) : Option (String × Role) :=
  let digest := Sha256.hexDigest token
  (s.tokens.find? (·.digest == digest)).map fun t => (t.user, t.role)

end Store
end SignalDesk
