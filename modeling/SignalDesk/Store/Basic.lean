import SignalDesk.Activation.Basic
import SignalDesk.Signal.Basic
import SignalDesk.Store.Figure

namespace SignalDesk

/-- Why the store refuses a change. A text that is torn has no bytes. -/
inductive StoreError
  | notNull (column : String)
  | check (rule : String)
  | tooLarge
  | mismatch
  | unsupported (type : String)
  | byteless (text : List Point)
deriving DecidableEq, Repr

def StoreError.message : StoreError → String
  | notNull column => "NOT NULL constraint failed: " ++ column
  | check rule => "CHECK constraint failed: " ++ rule
  | tooLarge => "Python int too large to convert to SQLite INTEGER"
  | mismatch => "datatype mismatch"
  | unsupported type => "type '" ++ type ++ "' is not supported"
  | byteless points => Text.byteless points

/-- What a user has. Any number but zero is an active subscription; a profile of nobody is found by
no name. -/
structure Profile where
  user : Option String
  coins : Figure
  subscription : Int
  createdAt : String
deriving DecidableEq, Repr

/-- A script of an owner; `timeframes` is a document of the owner's making. A script without an id
is never found. -/
structure SavedScript where
  id : Option String
  owner : String
  name : String
  content : String
  symbol : String
  timeframes : String
  createdAt : String
  updatedAt : String
deriving DecidableEq, Repr

/-- The choice of a user to trade a script on a timeframe; `overrides` is a document of the user's
making. -/
structure ActivationRow where
  id : Int
  user : String
  script : String
  timeframe : String
  active : Bool
  overrides : String
  createdAt : String
deriving DecidableEq, Repr

structure GateRow where
  user : String
  script : String
  gate : Gate
  updatedAt : String
deriving DecidableEq, Repr

inductive TradeStatus
  | pending
  | opened
  | closed
  | failed
  | cancelled
deriving DecidableEq, Repr

namespace TradeStatus

def all : List TradeStatus := [pending, opened, closed, failed, cancelled]

def name : TradeStatus → String
  | pending => "PENDING"
  | opened => "OPEN"
  | closed => "CLOSED"
  | failed => "FAILED"
  | cancelled => "CANCELLED"

def ofName? (s : String) : Option TradeStatus := all.find? (·.name == s)

end TradeStatus

/-- A trade is made for one candle of one script and timeframe of one user. -/
structure Trade where
  id : Int
  user : String
  script : String
  symbol : String
  timeframe : String
  side : Side
  candleTime : Figure
  entryPrice : Real64
  exitPrice : Option Real64
  stopLoss : Real64
  takeProfit : Real64
  quantity : Option String
  status : TradeStatus
  error : Option String
  order : Option String
  reason : Option String
  createdAt : String
  openedAt : Option String
  closedAt : Option String
deriving DecidableEq, Repr

/-- A signal from outside; it is handed on once. -/
structure StoredSignal where
  id : Int
  script : String
  side : Side
  symbol : String
  timeframe : String
  price : Real64
  stopLoss : Real64
  takeProfit : Real64
  candleTime : Figure
  processed : Bool
  createdAt : String
  processedAt : Option String
deriving DecidableEq, Repr

/-- A change of a balance; `trade` is the trade it was spent on. -/
structure LedgerEntry where
  id : Int
  user : String
  before : Figure
  after : Figure
  action : String
  reason : Option String
  performedBy : String
  trade : Option Int
  createdAt : String
deriving DecidableEq, Repr

structure ExchangeKeys where
  user : String
  exchange : String
  key : String
  secret : String
  createdAt : String
deriving DecidableEq, Repr

/-- A flag is on unless its number is zero. -/
structure Flag where
  name : Option String
  enabled : Int
deriving DecidableEq, Repr

inductive Role
  | user
  | admin
deriving DecidableEq, Repr

namespace Role

def name : Role → String
  | user => "user"
  | admin => "admin"

def ofName? : String → Option Role
  | "user" => some user
  | "admin" => some admin
  | _ => none

end Role

/-- A token that speaks for a user; only its digest is kept. -/
structure Token where
  digest : String
  user : String
  role : Role
  createdAt : String
deriving DecidableEq, Repr

/-- The tables. `activationSerial` is the last number given to an activation. -/
structure Store where
  profiles : List Profile
  scripts : List SavedScript
  activations : List ActivationRow
  activationSerial : Int
  gates : List GateRow
  trades : List Trade
  signals : List StoredSignal
  ledger : List LedgerEntry
  keys : List ExchangeKeys
  flags : List Flag
  tokens : List Token
deriving DecidableEq, Repr

namespace Store

def tradingFlag : String := "trading_enabled"
def paidFlag : String := "paid_mode"

/-- Adds a flag unless there is one of its name. -/
def addFlag (flag : Flag) (flags : List Flag) : List Flag :=
  if flags.any (·.name == flag.name) then flags else flags ++ [flag]

/-- Makes sure that the flags of the desk exist. -/
def initialised (s : Store) : Store :=
  { s with flags := addFlag ⟨some paidFlag, 0⟩ (addFlag ⟨some tradingFlag, 1⟩ s.flags) }

def empty : Store := ⟨[], [], [], 0, [], [], [], [], [], [], []⟩

/-- The number after all of `ids`. -/
def nextId (ids : List Int) : Int := ids.foldl max 0 + 1

/-- Refuses integers of more than 64 bits. -/
def requireWord (n : Int) : Except StoreError Unit :=
  if fitsWord n then .ok () else .error .tooLarge

/-- A number as a row has it: a NaN is nothing, and a zero has no sign. -/
def stored? : Real64 → Option Real64
  | .nan => none
  | x => some (if x.isZero then .zero else x)

/-- A text as the store takes it, by its bytes. -/
def written : Text → Except StoreError String
  | .whole s => .ok s
  | .torn points _ => .error (.byteless points)

/-- A value as the store takes it; null and a NaN are nothing. -/
def bound : Json → Except StoreError Label
  | .null => .ok .nothing
  | .bool b => .ok (.bool b)
  | .int n => if fitsWord n then .ok (.int n) else .error .tooLarge
  | .real .nan => .ok .nothing
  | .real x => .ok (.real x)
  | .text s => (written s).map .text
  | v => .error (.unsupported v.kind)

/-- A value as a text column takes it. -/
def cell (v : Json) : Except StoreError (Option String) := (bound v).map Label.stored

/-- The value of a column that cannot do without one. -/
def require {α : Type} (column : String) : Option α → Except StoreError α
  | some v => .ok v
  | none => .error (.notNull column)

/-- The text of the rows that a value asks for, empty if it leaves that open. -/
def wantedText (v : Json) : Except StoreError String :=
  if v.isTruthy then (cell v).map (·.getD "") else .ok ""

/-- A value as a column of integers takes it. -/
def figure? (v : Json) : Except StoreError (Option Figure) := (bound v).map Figure.ofLabel?

/-- The number of a row that a value may name. -/
def rowNumber? (v : Json) : Except StoreError (Option Int) := (figure? v).map (·.bind Figure.whole?)

/-- How many rows a value asks for. -/
def rowLimit (v : Json) : Except StoreError Int :=
  (rowNumber? v).bind fun
    | some n => .ok n
    | none => .error .mismatch

/-- The first `limit` rows; below zero all of them. -/
def limited {α : Type} (limit : Int) (rows : List α) : List α :=
  if limit < 0 then rows else rows.take limit.toNat

/-- Replaces the row that `p` holds of by what `update` makes of it; without one adds `row`. -/
def upsert {α : Type} (p : α → Bool) (update : α → α) (row : α) (rows : List α) : List α :=
  if rows.any p then rows.map fun r => if p r then update r else r else rows ++ [row]

end Store
end SignalDesk
