import SignalDesk.Json.Value
import SignalDesk.Text.Quoted

namespace SignalDesk.Json

/-- What stands between items and after a field's name. -/
structure Spacing where
  item : String
  name : String

def Spacing.spaced : Spacing := ⟨", ", ": "⟩
def Spacing.compact : Spacing := ⟨",", ":"⟩

def unitEscape (n : Nat) : List Char := '\\' :: 'u' :: Text.hexDigits 4 n

def escapeChar (c : Char) : List Char :=
  match c with
  | '"' => ['\\', '"']
  | '\\' => ['\\', '\\']
  | '\n' => ['\\', 'n']
  | '\r' => ['\\', 'r']
  | '\t' => ['\\', 't']
  | '\x0c' => ['\\', 'f']
  | '\x08' => ['\\', 'b']
  | c =>
    let n := c.toNat
    if 0x20 ≤ n && n ≤ 0x7e then [c]
    else if n < 0x10000 then unitEscape n
    else unitEscape (0xd800 + (n - 0x10000) / 0x400) ++ unitEscape (0xdc00 + (n - 0x10000) % 0x400)

def escapePoint : Point → List Char
  | .char c => escapeChar c
  | .half n => unitEscape (0xd800 + n)

def writeText (t : Text) : String :=
  String.ofList ('"' :: t.points.flatMap escapePoint ++ ['"'])

def writeReal : Real64 → String
  | .nan => "NaN"
  | .infinite negative => if negative then "-Infinity" else "Infinity"
  | x => x.text

mutual

def write (sp : Spacing) : Json → String
  | .null => "null"
  | .bool b => if b then "true" else "false"
  | .int n => toString n
  | .real x => writeReal x
  | .text s => writeText s
  | .list items => "[" ++ writeItems sp items ++ "]"
  | .object fields => "\x7b" ++ writeFields sp fields ++ "\x7d"

def writeItems (sp : Spacing) : List Json → String
  | [] => ""
  | [v] => write sp v
  | v :: w :: rest => write sp v ++ sp.item ++ writeItems sp (w :: rest)

def writeFields (sp : Spacing) : List (Text × Json) → String
  | [] => ""
  | [(k, v)] => writeText k ++ sp.name ++ write sp v
  | (k, v) :: f :: rest =>
    writeText k ++ sp.name ++ write sp v ++ sp.item ++ writeFields sp (f :: rest)

end

mutual

def shown : Json → String
  | .null => "None"
  | .bool b => if b then "True" else "False"
  | .int n => toString n
  | .real x => x.text
  | .text s => s.shown
  | .list items => "[" ++ shownItems items ++ "]"
  | .object fields => "\x7b" ++ shownFields fields ++ "\x7d"

def shownItems : List Json → String
  | [] => ""
  | [v] => shown v
  | v :: w :: rest => shown v ++ ", " ++ shownItems (w :: rest)

def shownFields : List (Text × Json) → String
  | [] => ""
  | [(k, v)] => k.shown ++ ": " ++ shown v
  | (k, v) :: f :: rest => k.shown ++ ": " ++ shown v ++ ", " ++ shownFields (f :: rest)

end

/-- What messages call the kind of a value. -/
def kind : Json → String
  | .null => "NoneType"
  | .bool _ => "bool"
  | .int _ => "int"
  | .real _ => "float"
  | .text _ => "str"
  | .list _ => "list"
  | .object _ => "dict"

/-- A text as it is, any other value as messages show it. -/
def asText : Json → Text
  | .text s => s
  | v => v.shown

end SignalDesk.Json
