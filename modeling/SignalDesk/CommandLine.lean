import SignalDesk.Sweep.Basic

namespace SignalDesk

inductive Mode
  | serve
  | sweep
  | run
deriving DecidableEq, Repr

namespace Mode

def ofName? : String → Option Mode
  | "serve" => some serve
  | "sweep" => some sweep
  | "run" => some run
  | _ => none

end Mode

namespace CommandLine

/-- Why arguments give no mode: help was asked for, or they are wrong. -/
inductive Exit
  | help
  | usage
deriving DecidableEq, Repr

def Exit.code : Exit → Int
  | help => 0
  | usage => 2

inductive Switch
  | help
  | mode
deriving DecidableEq, Repr

/-- The option that a word names; two dashes and the start of a name are enough. -/
def option? (word : String) : Option Switch :=
  let starts (name : String) : Bool :=
    2 < word.length && word.toList.isPrefixOf name.toList
  if word == "-h" || starts "--help" then some .help
  else if starts "--mode" then some .mode
  else none

/-- A word cut at its first equals sign. -/
def cut (word : String) : String × Option String :=
  let cs := word.toList
  let name := cs.takeWhile (· != '=')
  match cs.drop name.length with
  | [] => (word, none)
  | _ :: value => (String.ofList name, some (String.ofList value))

/-- A word of `-h` and letters behind it, perhaps after an equals sign: help is asked for if each of
them asks for it too. -/
def letterRun? (word : String) : Option Exit :=
  let exit (letters : List Char) : Exit :=
    if !letters.isEmpty && letters.all (· == 'h') then .help else .usage
  match word.toList with
  | '-' :: 'h' :: '=' :: letters => some (exit letters)
  | '-' :: 'h' :: c :: letters => some (exit (c :: letters))
  | _ => none

/-- Whether a word can be the value of an option before it. -/
def isValue (word : String) : Bool := !("-".toList.isPrefixOf word.toList) || word == "-"

/-- The mode of a value after an equals sign; two dashes there stand for no mode, which is to
serve. -/
def modeAfterEquals? (value : String) : Option Mode :=
  if value == "--" then some .serve else Mode.ofName? value

/-- Reads arguments from left to right. Words that are no option are wrong, but help that is asked
for after them is still given. -/
def readFrom (mode : Mode) (wrong : Bool) : List String → Except Exit Mode
  | [] => if wrong then .error .usage else .ok mode
  | word :: rest =>
    match letterRun? word, cut word with
    | some exit, _ => .error exit
    | none, (name, some value) =>
      match option? name, modeAfterEquals? value with
      | some .mode, some mode => readFrom mode wrong rest
      | some _, _ => .error .usage
      | none, _ => readFrom mode true rest
    | none, (name, none) =>
      match option? name with
      | some .help => .error .help
      | none => readFrom mode true rest
      | some .mode =>
        match rest with
        | [] => .error .usage
        | value :: rest =>
          match if isValue value then Mode.ofName? value else none with
          | some mode => readFrom mode wrong rest
          | none => .error .usage

/-- A word of two dashes and a value could stand for either option. -/
def isAmbiguous (word : String) : Bool := "--=".toList.isPrefixOf word.toList

/-- Reads arguments. Two dashes end the options; they and what follows are wrong words. -/
def read (arguments : List String) : Except Exit Mode :=
  let options := arguments.takeWhile (· != "--")
  if options.any isAmbiguous then .error .usage
  else readFrom .serve (arguments.contains "--") options

/-- Why a command does not start. -/
inductive StartError
  | exit (e : Exit)
  | config (e : ConfigError)
deriving DecidableEq, Repr

/-- The mode of a command and its configuration, from an environment and a file; the arguments are
looked at first. -/
def start (arguments : List String) (env : Environment) (file : Option String) :
    Except StartError (Mode × Config) :=
  match read arguments with
  | .error e => .error (.exit e)
  | .ok mode =>
    match Config.readWith env file with
    | .error e => .error (.config e)
    | .ok config => .ok (mode, config)

/-- What a command does on its desk: one sweep, or sweeps until it is stopped, `fuel` of them at
most. -/
def activity (config : Config) (fuel : Nat) : Mode → Program Desk (Except DeskError Unit)
  | .sweep => (Sweep.sweep config).map fun r => r.map fun _ => ()
  | .run | .serve => (Sweep.loop config none 0 fuel).map fun _ => .ok ()

end CommandLine
end SignalDesk
