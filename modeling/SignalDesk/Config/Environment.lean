import SignalDesk.Text.Character
import SignalDesk.Text.Search

/-!
# Environments

Variables with texts as values, and files that give them: `NAME=value` on a line, with comments
after a number sign. A value in quotes may go over several lines, and a value may refer to others by
`${NAME}` or `${NAME:-default}`.
-/

namespace SignalDesk

/-- Variables in the order they are looked up. -/
abbrev Environment := List (String × String)

/-- What a file says of a name: its value, or that it has none. -/
structure Binding where
  name : String
  value : Option String
deriving DecidableEq, Repr

/-- A name or a value that no environment can hold. -/
structure EnvironmentFault where
  name : String
deriving DecidableEq, Repr

namespace Binding

def isNewline (c : Char) : Bool := c == '\n'

/-- The blanks up to the end of the line. -/
def isInline (c : Char) : Bool := Text.isBlank c && !isNewline c

def skipInline (cs : List Char) : List Char := cs.dropWhile isInline

def dropLine (cs : List Char) : List Char := (cs.dropWhile (!isNewline ·)).drop 1

/-- The rest after the end of a line, before which a comment may stand. -/
def afterLine? (cs : List Char) : Option (List Char) :=
  match skipInline cs with
  | [] => some []
  | c :: rest =>
    if isNewline c then some rest else if c = '#' then some (dropLine rest) else none

/-- Drops the word `export`, which may stand in front of a name. -/
def dropExport (cs : List Char) : List Char :=
  let rest := cs.drop 6
  if "export".toList.isPrefixOf cs && (rest.head?.map isInline).getD false then skipInline rest
  else cs

/-- A name, which may be quoted, and the rest; none at all before a comment. -/
def name? (cs : List Char) : Option (Option String × List Char) :=
  match cs with
  | '#' :: _ => some (none, cs)
  | '\'' :: rest =>
    let name := rest.takeWhile (· != '\'')
    match rest.drop name.length with
    | _ :: rest => if name.isEmpty then none else some (some (String.ofList name), rest)
    | [] => none
  | cs =>
    let name := cs.takeWhile fun c => c != '=' && c != '#' && !Text.isBlank c
    if name.isEmpty then none else some (some (String.ofList name), cs.drop name.length)

/-- The text up to the closing quote, and the rest. What follows a backslash closes nothing. -/
def quoted? (quote : Char) : List Char → Option (List Char × List Char)
  | [] => none
  | '\\' :: c :: cs => (quoted? quote cs).map fun (value, rest) => ('\\' :: c :: value, rest)
  | c :: cs =>
    if c = quote then some ([], cs)
    else (quoted? quote cs).map fun (value, rest) => (c :: value, rest)

/-- The characters that stand for others after a backslash between double quotes. -/
def escapes : List (Char × Char) :=
  [('\\', '\\'), ('\'', '\''), ('"', '"'), ('a', '\x07'), ('b', '\x08'), ('f', '\x0c'), ('n', '\n'),
    ('r', '\r'), ('t', '\t'), ('v', '\x0b')]

/-- What a character after a backslash stands for. -/
def unescape? (quote c : Char) : Option Char :=
  if quote = '"' then escapes.lookup c else if c = quote || c = '\\' then some c else none

def unescape (quote : Char) : List Char → List Char
  | '\\' :: c :: cs =>
    match unescape? quote c with
    | some d => d :: unescape quote cs
    | none => '\\' :: unescape quote (c :: cs)
  | c :: cs => c :: unescape quote cs
  | [] => []

/-- Drops a comment: a number sign after a blank, and the blanks before it. -/
def dropComment : List Char → List Char
  | [] => []
  | c :: cs =>
    if Text.isBlank c && (cs.dropWhile Text.isBlank).head? = some '#' then []
    else c :: dropComment cs

/-- The value after an equals sign, and the rest. -/
def value? (cs : List Char) : Option (String × List Char) :=
  let quotedValue (quote : Char) (cs : List Char) : Option (String × List Char) :=
    (quoted? quote cs).map fun (value, rest) => (String.ofList (unescape quote value), rest)
  match skipInline cs with
  | '\'' :: rest => quotedValue '\'' rest
  | '"' :: rest => quotedValue '"' rest
  | _ =>
    let line := cs.takeWhile (!isNewline ·)
    some (String.ofList (Text.trim Text.isBlank (dropComment line)), cs.drop line.length)

/-- A binding at the start of a line and the rest after it, or the text from where it goes wrong. -/
def read (cs : List Char) : Except (List Char) (Option Binding × List Char) :=
  let start := dropExport cs
  match name? start with
  | none => .error start
  | some (name, rest) =>
    let finish (value : Option String) (rest : List Char) :=
      match afterLine? rest with
      | some after => .ok (name.map (⟨·, value⟩), after)
      | none => .error rest
    match skipInline rest with
    | '=' :: rest =>
      match value? rest with
      | some (value, rest) => finish (some value) rest
      | none => .error rest
    | rest => finish none rest

/-- The bindings of a text; a line that goes wrong is left out. Each takes at least one
character. -/
def readAll : (fuel : Nat) → List Char → List Binding
  | 0, _ => []
  | fuel + 1, cs =>
    match cs.dropWhile Text.isBlank with
    | [] => []
    | cs =>
      match read cs with
      | .ok (binding, rest) => binding.toList ++ readAll fuel rest
      | .error rest => readAll fuel (dropLine rest)

/-- Ends every line in the same way. -/
def unifyNewlines : List Char → List Char
  | '\r' :: '\n' :: cs => '\n' :: unifyNewlines cs
  | '\r' :: cs => '\n' :: unifyNewlines cs
  | c :: cs => c :: unifyNewlines cs
  | [] => []

/-- The bindings of a file, which may start with a byte order mark. -/
def ofFile (text : String) : List Binding :=
  let cs := match text.toList with
    | '\ufeff' :: cs => cs
    | cs => cs
  readAll cs.length (unifyNewlines cs)

/-- A reference to a variable: the name, the text for when there is no such variable, and how long
the reference is. -/
def reference? (cs : List Char) : Option (String × String × Nat) :=
  match cs with
  | '$' :: '\x7b' :: rest =>
    let name := rest.takeWhile fun c => c != '\x7d' && c != ':'
    match rest.drop name.length with
    | '\x7d' :: _ => some (String.ofList name, "", name.length + 3)
    | ':' :: '-' :: rest =>
      let default := rest.takeWhile (· != '\x7d')
      if default.length < rest.length then
        some (String.ofList name, String.ofList default, name.length + default.length + 5)
      else none
    | _ => none
  | _ => none

/-- Puts in the variables that a text refers to, after `skip` characters. -/
def expandFrom (value : String → String → String) : (skip : Nat) → List Char → List Char
  | _, [] => []
  | skip + 1, _ :: cs => expandFrom value skip cs
  | 0, c :: cs =>
    match reference? (c :: cs) with
    | some (name, default, length) =>
      (value name default).toList ++ expandFrom value (length - 1) cs
    | none => c :: expandFrom value 0 cs

end Binding

namespace Environment

def value? (env : Environment) (name : String) : Option String := env.lookup name

/-- The variable that keeps files from being read. -/
def fileSwitch : String := "PYTHON_DOTENV_DISABLED"

/-- Whether files are read: not when the switch is set to one of a few words, in any case. -/
def readsFiles (env : Environment) : Bool :=
  let value := ((env.value? fileSwitch).getD "").toList
  ["1", "true", "t", "yes", "y"].all fun word => Text.dropWord? word.toList value != some []

/-- The variables of `env`, and of `defaults` those that `env` lacks. -/
def withDefaults (env defaults : Environment) : Environment := env ++ defaults

/-- The value that a reference stands for: the environment's, or else that of the latest binding
before, which is empty if it has none. -/
def referred (env : Environment) (done : List Binding) (name default : String) : String :=
  match env.value? name, done.find? (·.name == name) with
  | some value, _ => value
  | none, some binding => binding.value.getD ""
  | none, none => default

/-- Bindings with their references put in, the latest first. -/
def resolved (env : Environment) (bindings : List Binding) : List Binding :=
  bindings.foldl (fun done b =>
    let expand (value : String) : String :=
      String.ofList (Binding.expandFrom (referred env done) 0 value.toList)
    ⟨b.name, b.value.map expand⟩ :: done) []

/-- Whether an environment can hold a variable. -/
def canHold (name value : String) : Bool :=
  !(name.toList.any fun c => c == '=' || c == '\x00') && !value.toList.contains '\x00'

/-- The variables of `env`, and those of a file that `env` lacks. Of the bindings of one name the
last counts, also when it has no value. -/
def withFile (env : Environment) (text : String) : Except EnvironmentFault Environment := do
  let bindings := env.resolved (Binding.ofFile text)
  let names := (bindings.map (·.name)).eraseDups.filter fun name => (env.value? name).isNone
  let added ← names.filterMapM fun name =>
    match (bindings.find? (·.name == name)).bind (·.value) with
    | none => .ok none
    | some value => if canHold name value then .ok (some (name, value)) else .error ⟨name⟩
  return env.withDefaults added

end Environment
end SignalDesk
