import SignalDesk.Statement.Accounts
import SignalDesk.Statement.Scripts
import SignalDesk.Statement.Trades

namespace SignalDesk.Statement

def operations : List (String × List Operation) :=
  [("scripts", scripts), ("trades", trades), ("coins", coins), ("settings", settings),
    ("signals", signals)]

/-- Does the operation of a name on a part of the store. -/
def perform (part name : String) (c : Scene) (a : Arguments) (s : Store) :
    Except StatementError (Json × Store) :=
  match ((operations.lookup part).getD []).find? (·.name == name) with
  | none => .error .unknown
  | some o => if o.admits a then o.perform c a s else .error .wrongArguments

end SignalDesk.Statement
