import SignalDesk.Json.Value
import SignalDesk.Number.Numeral
import SignalDesk.Text.Bytes

/-!
# Reading JSON

A document is one value between blanks. Beyond the standard it may hold the numbers `NaN`,
`Infinity` and `-Infinity`; of fields with one name the last wins, in the place of the first. Lists
and objects may stand in each other up to a certain depth.
-/

namespace SignalDesk

/-- Why a text gives no document. -/
inductive ReadFault
  | malformed
  | tooDeep (inObject : Bool)
deriving DecidableEq, Repr

def ReadFault.message : ReadFault → String
  | malformed => "not a document"
  | tooDeep inObject =>
    "maximum recursion depth exceeded while decoding a JSON " ++
      (if inObject then "object" else "array") ++ " from a unicode string"

namespace Json

/-- How many lists and objects may stand in each other. -/
def maxDepth : Nat := 990

def isSpace : Point → Bool
  | .char c => c == ' ' || c == '\t' || c == '\n' || c == '\r'
  | .half _ => false

def skipSpace (ps : List Point) : List Point := ps.dropWhile isSpace

def hexValue? : Point → Option Nat
  | .char c =>
    if c.isDigit then some (c.toNat - 48)
    else if 'a' ≤ c && c ≤ 'f' then some (c.toNat - 87)
    else if 'A' ≤ c && c ≤ 'F' then some (c.toNat - 55)
    else none
  | .half _ => none

def hexUnit? (a b c d : Point) : Option Nat := do
  return (((← hexValue? a) * 16 + (← hexValue? b)) * 16 + (← hexValue? c)) * 16 + (← hexValue? d)

def escape? : Char → Option Char
  | '"' => some '"'
  | '\\' => some '\\'
  | '/' => some '/'
  | 'b' => some '\x08'
  | 'f' => some '\x0c'
  | 'n' => some '\n'
  | 'r' => some '\r'
  | 't' => some '\t'
  | _ => none

/-- What stands in a text up to its closing quote, code points and escaped units, and the rest. -/
def textUnits (done : List (Point ⊕ Nat)) : List Point → Option (List (Point ⊕ Nat) × List Point)
  | [] => none
  | .char '"' :: rest => some (done.reverse, rest)
  | .char '\\' :: .char 'u' :: a :: b :: c :: d :: rest =>
    match hexUnit? a b c d with
    | some n => textUnits (.inr n :: done) rest
    | none => none
  | .char '\\' :: .char c :: rest =>
    match escape? c with
    | some c => textUnits (.inl (.char c) :: done) rest
    | none => none
  | .char '\\' :: _ => none
  | p :: rest => if p.toNat < 0x20 then none else textUnits (.inl p :: done) rest

/-- A text after its opening quote. -/
def readText? (ps : List Point) : Option (Text × List Point) :=
  (textUnits [] ps).map fun (units, rest) => (Text.ofPoints (Text.joinUnits units), rest)

def digitSpan : List Point → List Char × List Point
  | .char c :: rest =>
    if c.isDigit then
      let (digits, rest) := digitSpan rest
      (c :: digits, rest)
    else ([], .char c :: rest)
  | rest => ([], rest)

/-- The digits of an integer: a zero, or digits that do not start with one. -/
def integerSpan : List Point → Option (List Char × List Point)
  | .char '0' :: rest => some (['0'], rest)
  | ps =>
    match digitSpan ps with
    | ([], _) => none
    | span => some span

/-- A point with at least one digit after it. -/
def fractionSpan : List Point → Option (List Char × List Point)
  | .char '.' :: rest =>
    match digitSpan rest with
    | ([], _) => none
    | (ds, rest) => some ('.' :: ds, rest)
  | _ => none

/-- An exponent with at least one digit. -/
def exponentSpan : List Point → Option (List Char × List Point)
  | .char c :: rest =>
    if c == 'e' || c == 'E' then
      let (sign, rest) := match rest with
        | .char '+' :: rest => (['+'], rest)
        | .char '-' :: rest => (['-'], rest)
        | rest => ([], rest)
      match digitSpan rest with
      | ([], _) => none
      | (ds, rest) => some ('e' :: sign ++ ds, rest)
    else none
  | _ => none

/-- The longest number at the start: an integer, unless a fraction or an exponent follows. -/
def readNumber? (ps : List Point) : Option (Json × List Point) :=
  let (sign, ps) := match ps with
    | .char '-' :: rest => (['-'], rest)
    | ps => ([], ps)
  match integerSpan ps with
  | none => none
  | some (whole, rest) =>
    let fraction := fractionSpan rest
    let (fractionPart, rest) := fraction.getD ([], rest)
    let exponent := exponentSpan rest
    let (exponentPart, rest) := exponent.getD ([], rest)
    let written := String.ofList (sign ++ whole ++ fractionPart ++ exponentPart)
    if fraction.isSome || exponent.isSome then
      (Numeral.real? written).map fun x => (.real x, rest)
    else (Numeral.integer? written).map fun n => (.int n, rest)

/-- The rest after a word, when the text starts with it. -/
def dropExact? (word : String) (ps : List Point) : Option (List Point) :=
  if (word.toList.map Point.char).isPrefixOf ps then some (ps.drop word.length) else none

/-- The words that are values. -/
def words : List (String × Json) :=
  [("null", .null), ("true", .bool true), ("false", .bool false), ("NaN", .real .nan),
    ("Infinity", .real (.infinite false)), ("-Infinity", .real (.infinite true))]

def readWord? (ps : List Point) : Option (Json × List Point) :=
  words.findSome? fun (word, v) => (dropExact? word ps).map (v, ·)

/-- The rest of a text after what was read, or why nothing was. -/
abbrev Reading (α : Type) := Except ReadFault (α × List Point)

def Reading.ofOption {α : Type} : Option (α × List Point) → Reading α
  | some r => .ok r
  | none => .error .malformed

mutual

/-- A value at the start of the text and the rest. The first argument bounds the calls, the second
how deep lists and objects may still go. -/
def readValue : Nat → Nat → List Point → Reading Json
  | 0, _, _ => .error .malformed
  | fuel + 1, depth, ps =>
    match ps with
    | .char '"' :: rest => .ofOption ((readText? rest).map fun (s, rest) => (.text s, rest))
    | .char '[' :: rest =>
      match depth with
      | 0 => .error (.tooDeep false)
      | depth + 1 =>
        match skipSpace rest with
        | .char ']' :: rest => .ok (.list [], rest)
        | rest => readItems fuel depth [] rest
    | .char '\x7b' :: rest =>
      match depth with
      | 0 => .error (.tooDeep true)
      | depth + 1 =>
        match skipSpace rest with
        | .char '\x7d' :: rest => .ok (.object [], rest)
        | rest => readFields fuel depth [] rest
    | ps => .ofOption ((readWord? ps).orElse fun _ => readNumber? ps)

/-- The items of a list from the next one on. -/
def readItems : Nat → Nat → List Json → List Point → Reading Json
  | 0, _, _, _ => .error .malformed
  | fuel + 1, depth, done, ps =>
    match readValue fuel depth ps with
    | .error e => .error e
    | .ok (v, rest) =>
      match skipSpace rest with
      | .char ',' :: rest => readItems fuel depth (v :: done) (skipSpace rest)
      | .char ']' :: rest => .ok (.list (v :: done).reverse, rest)
      | _ => .error .malformed

/-- The fields of an object from the next one on. -/
def readFields : Nat → Nat → List (Text × Json) → List Point → Reading Json
  | 0, _, _, _ => .error .malformed
  | fuel + 1, depth, done, ps =>
    match ps with
    | .char '"' :: rest =>
      match readText? rest with
      | none => .error .malformed
      | some (name, rest) =>
        match skipSpace rest with
        | .char ':' :: rest =>
          match readValue fuel depth (skipSpace rest) with
          | .error e => .error e
          | .ok (v, rest) =>
            let done := setField name v done
            match skipSpace rest with
            | .char ',' :: rest => readFields fuel depth done (skipSpace rest)
            | .char '\x7d' :: rest => .ok (.object done, rest)
            | _ => .error .malformed
        | _ => .error .malformed
    | _ => .error .malformed

end

/-- Reads a document from its code points. Each value takes at most two calls and at least one of
them. -/
def readPoints (ps : List Point) : Except ReadFault Json :=
  match readValue (2 * ps.length + 2) maxDepth (skipSpace ps) with
  | .ok (v, rest) => if (skipSpace rest).isEmpty then .ok v else .error .malformed
  | .error e => .error e

/-- Reads a document. -/
def read (s : String) : Except ReadFault Json := readPoints (s.toList.map .char)

def read? (s : String) : Option Json := (read s).toOption

/-- Reads the body of a reply, in whatever encoding it is; a byte order mark in front is skipped. -/
def readBody (body : String) : Except ReadFault Json :=
  match body.toList with
  | '\ufeff' :: rest => readPoints (rest.map .char)
  | _ =>
    match Text.decoded? body with
    | some points => readPoints points
    | none => .error .malformed

end Json
end SignalDesk
