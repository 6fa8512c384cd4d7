import SignalDesk.Text.Basic

namespace SignalDesk.Text

/-- Whether `c` is read as `letter`. Anything but a small letter stands for itself only. -/
def reads (letter c : Char) : Bool :=
  if letter.isLower then
    c.toLower == letter || (letter == 's' && c == '\u017f') || (letter == 'k' && c == '\u212a') ||
      (letter == 'i' && (c == '\u0131' || c == '\u0130'))
  else c == letter

/-- The rest of the text after `word`, when the text starts with it in any case. -/
def dropWord? : (word : List Char) → List Char → Option (List Char)
  | [], rest => some rest
  | _ :: _, [] => none
  | w :: ws, c :: cs => if reads w c then dropWord? ws cs else none

/-- Holds when `needle` is a run of consecutive elements of the list. -/
def occursIn {α : Type} [BEq α] (needle : List α) : List α → Bool
  | [] => needle.isEmpty
  | c :: cs => needle.isPrefixOf (c :: cs) || occursIn needle cs

def contains (text needle : String) : Bool := occursIn needle.toList text.toList

/-- Whether a text, torn or not, contains a run of characters. -/
def holds (text : Text) (needle : String) : Bool :=
  match text with
  | whole s => contains s needle
  | torn points _ => occursIn (needle.toList.map Point.char) points

/-- Splits at every `sep`; there is always one part more than separators. -/
def splitOn (sep : Char) : List Char → List (List Char)
  | [] => [[]]
  | c :: cs =>
    match splitOn sep cs with
    | [] => [[c]]
    | part :: parts => if c = sep then [] :: part :: parts else (c :: part) :: parts

end SignalDesk.Text
