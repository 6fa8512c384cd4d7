import SignalDesk.Digest.Sha256
import SignalDesk.Json.Label
import SignalDesk.Strategy.Script

namespace SignalDesk

structure ScriptKey where
  script : Label
  digest : String
deriving DecidableEq, Repr

def Script.digest (text : String) : String := Sha256.hexDigest text

/-- The entries stand in the order of their last use, the latest at the end. -/
structure StrategyCache where
  capacity : Nat
  entries : List (ScriptKey × Strategy Binary64)
  hits : Nat
  misses : Nat

namespace StrategyCache

/-- An empty cache; it holds one entry at least. -/
def ofSize (size : Int) : StrategyCache := ⟨max 1 size.toNat, [], 0, 0⟩

def clear (c : StrategyCache) : StrategyCache := { c with entries := [] }

def find? (c : StrategyCache) (key : ScriptKey) : Option (Strategy Binary64) :=
  c.entries.lookup key

/-- Moves an entry to the end. -/
def touch (c : StrategyCache) (key : ScriptKey) (s : Strategy Binary64) : StrategyCache :=
  { c with entries := c.entries.filter (·.1 != key) ++ [(key, s)] }

/-- Adds an entry at the end; past the capacity the first one goes. -/
def add (c : StrategyCache) (key : ScriptKey) (s : Strategy Binary64) : StrategyCache :=
  let entries := c.entries ++ [(key, s)]
  { c with entries := if c.capacity < entries.length then entries.drop 1 else entries }

/-- The strategy of a script: the one kept, or else a fresh one. -/
def get (c : StrategyCache) (script : Label) (text : String) :
    Except ScriptError (Strategy Binary64) × StrategyCache :=
  let key : ScriptKey := ⟨script.key, Script.digest text⟩
  match c.find? key with
  | some s => (.ok s, { c.touch key s with hits := c.hits + 1 })
  | none =>
    let c := { c with misses := c.misses + 1 }
    match Script.parse text with
    | .error e => (.error e, c)
    | .ok s => (.ok s, c.add key s)

end StrategyCache
end SignalDesk
