import SignalDesk.Text.Character
import SignalDesk.Text.Search
import SignalDesk.Text.Word

namespace SignalDesk.Pattern

def skipBlank (cs : List Char) : List Char := cs.dropWhile Text.isBlank

/-- Characters of values: those of words, and the point. -/
def isValueChar (c : Char) : Bool := Text.isWord c || c == '.'

/-- Whether a name may start after `before`. -/
def startsName : (before : Option Char) → Bool
  | none => true
  | some c => !isValueChar c

/-- The first position where a name may start and `p` accepts what follows. -/
def search {β : Type} (p : List Char → Option β) : (before : Option Char) → List Char → Option β
  | _, [] => none
  | before, c :: cs =>
    match if startsName before then p (c :: cs) else none with
    | some b => some b
    | none => search p (some c) cs

/-- The rest after an equals sign and the blanks around it. -/
def dropEquals? (cs : List Char) : Option (List Char) :=
  match skipBlank cs with
  | '=' :: rest => some (skipBlank rest)
  | _ => none

/-- The rest after one of the names and an equals sign. -/
def dropName? (names : List String) (cs : List Char) : Option (List Char) :=
  names.findSome? fun name => (Text.dropWord? name.toList cs).bind dropEquals?

/-- The characters at the start that `p` holds of, when there are any. -/
def run? (p : Char → Bool) (cs : List Char) : Option (List Char) :=
  match cs.takeWhile p with
  | [] => none
  | run => some run

/-- A number as written: a run of value characters, perhaps after a minus. -/
def token? : List Char → Option (List Char)
  | '-' :: rest => (run? isValueChar rest).map ('-' :: ·)
  | cs => run? isValueChar cs

/-- The rest after `input(`, `input.int(` or `input.float(`. -/
def dropInput? (cs : List Char) : Option (List Char) :=
  match Text.dropWord? "input".toList cs with
  | none => none
  | some rest =>
    let rest := (Text.dropWord? ".int".toList rest).getD
      ((Text.dropWord? ".float".toList rest).getD rest)
    match skipBlank rest with
    | '(' :: rest => some (skipBlank rest)
    | _ => none

/-- A number, bare or as the first argument of an input. Where no number follows the parenthesis,
the word before it is the value. -/
def number? (cs : List Char) : Option (List Char) :=
  match dropInput? cs with
  | none => token? cs
  | some inner =>
    ((((Text.dropWord? "defval".toList inner).bind dropEquals?).bind token?).or (token? inner)).or
      (token? cs)

def isQuote (c : Char) : Bool := c == '"' || c == '\''

/-- A word, perhaps after a quote. -/
def word? : List Char → Option (List Char)
  | [] => none
  | c :: cs => run? Text.isWord (if isQuote c then cs else c :: cs)

/-- The text between two quotes of either kind, with no quote inside. -/
def quotedText? : List Char → Option (List Char)
  | [] => none
  | c :: cs =>
    if isQuote c && !(cs.dropWhile (!isQuote ·)).isEmpty then some (cs.takeWhile (!isQuote ·))
    else none

/-- What the first assignment to one of the names gives. -/
def assigned? (names : List String) (value : List Char → Option (List Char)) (script : List Char) :
    Option String :=
  (search (fun cs => (dropName? names cs).bind value) none script).map String.ofList

/-- A call of the simple average by its bare name. -/
def callsSma (cs : List Char) : Option Unit :=
  match Text.dropWord? "sma".toList cs with
  | none => none
  | some rest => if (skipBlank rest).head? = some '(' then some () else none

/-- Whether `word` occurs anywhere, in any case. -/
def mentions (word : String) : List Char → Bool
  | [] => false
  | c :: cs => (Text.dropWord? word.toList (c :: cs)).isSome || mentions word cs

/-- Whether the script names the simple average of the library, or calls it by its bare name. -/
def hintsSma (script : List Char) : Bool :=
  mentions "ta.sma" script || (search callsSma none script).isSome

end SignalDesk.Pattern
