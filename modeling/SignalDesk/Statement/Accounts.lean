import SignalDesk.Statement.Basic

namespace SignalDesk.Statement

def ensureProfile : Operation :=
  writing "ensure_profile" ["user_id"] ["coins", "subscription_active"] fun c a s => do
    let subscription ← integer (a.getOr "subscription_active" (.bool false))
    let user ← text? (a.get "user_id")
    let coins ← match a.get "coins" with
      | .null => figure? (.int c.startingCoins)
      | v => figure? v
    word subscription
    match coins with
    | some coins => ofStore (s.ensureProfile user coins subscription c.now)
    | none => return s

def setSubscription : Operation :=
  writing "set_subscription" ["user_id", "active"] [] fun _ a s => do
    let active ← integer (a.get "active")
    word active
    let user ← text? (a.get "user_id")
    return (user.map fun user => s.setSubscription user active).getD s

def getProfile : Operation :=
  reading "get_profile" ["user_id"] [] fun a s => do
    return formOrNull Profile.form ((← text? (a.get "user_id")).bind s.profile?)

def getBalance : Operation :=
  reading "get_balance" ["user_id"] [] fun a s => do
    return (((← text? (a.get "user_id")).map s.balance).getD (Amount.whole 0)).form

def adjust : Operation where
  name := "adjust"
  required := ["user_id", "delta", "reason", "performed_by"]
  optional := ["action"]
  perform c a s := do
    let noUser := StatementError.unknownUser (a.get "user_id")
    match ← text? (a.get "user_id") with
    | none => throw noUser
    | some user =>
      if (s.profile? user).isNone then throw noUser
      else
        let delta ← need "profiles.coins" (Figure.amountOf? (← label (a.get "delta")))
        let note : LedgerNote :=
          ⟨a.getOr "action" (.text Store.adminAction), a.get "reason", a.get "performed_by"⟩
        match s.adjust user delta note c.now with
        | .error .unknownUser => throw noUser
        | .error (.store e) => throw (.store e)
        | .ok ((before, after), s) =>
          return (.object [("coins_before", before.form), ("coins_after", after.form)], s)

def getLedger : Operation :=
  reading "get_ledger" ["user_id"] ["limit"] fun a s => do
    let user ← text? (a.get "user_id")
    let limit ← limit (a.getOr "limit" (.int 50))
    match user with
    | none => return .list []
    | some user => return .list ((← ofStore (s.ledgerOf user limit)).map LedgerEntry.form)

def coins : List Operation :=
  [ensureProfile, setSubscription, getProfile, getBalance, adjust, getLedger]

def getFlags : Operation :=
  reading "get_feature_flags" [] [] fun _ s =>
    let flags := s.currentFlags
    return .object
      [("trading_enabled", .bool flags.tradingEnabled), ("paid_mode", .bool flags.paidMode)]

def setFlag : Operation :=
  writing "set_feature_flag" ["name", "enabled"] [] fun _ a s => do
    let enabled ← integer (a.get "enabled")
    let name ← text? (a.get "name")
    word enabled
    return s.setFlag name enabled

def exchangeOf (a : Arguments) : Json := a.getOr "exchange" (.text Store.defaultExchange)

def saveKeys : Operation :=
  writing "save_exchange_keys" ["user_id", "api_key", "api_secret"] ["exchange"] fun c a s => do
    let user ← text? (a.get "user_id")
    let exchange ← text? (exchangeOf a)
    let key ← text? (a.get "api_key")
    let secret ← text? (a.get "api_secret")
    return s.saveKeys (← need "exchange_keys.user_id" user)
      (← need "exchange_keys.exchange" exchange) (← need "exchange_keys.api_key" key)
      (← need "exchange_keys.api_secret" secret) c.now

def getKeys : Operation :=
  reading "get_exchange_credentials" ["user_id"] ["exchange"] fun a s => do
    let user ← text? (a.get "user_id")
    let exchange ← text? (exchangeOf a)
    return formOrNull ExchangeKeys.credentialsForm do s.keys? (← user) (← exchange)

def createToken : Operation :=
  writing "create_api_token" ["token", "user_id"] ["role"] fun c a s => do
    let token ← written (← string (a.get "token"))
    let user ← text? (a.get "user_id")
    let role ← text? (a.get "role")
    ofStore (s.createToken token (← need "api_tokens.user_id" user)
      (role.getD Role.user.name) c.now)

def resolveToken : Operation :=
  reading "resolve_token" ["token"] [] fun a s => do
    return formOrNull (fun (user, role) => .list [.text user, .text (Role.name role)])
      (s.resolveToken? (← written (← string (a.get "token"))))

def settings : List Operation :=
  [getFlags, setFlag, saveKeys, getKeys, createToken, resolveToken]

end SignalDesk.Statement
