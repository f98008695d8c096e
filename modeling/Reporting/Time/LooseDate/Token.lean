import Reporting.Text.Blank
import Reporting.Text.Digit

/-!
# Tokens of loose dates

A text is taken apart where letters, digits and other characters meet. A point may stand inside a
number or a word, and a comma behind two digits or more. If it turns out to be no decimal point, the
token is parted at its points and commas in the end. Null characters are passed over.
-/

namespace Reporting.LooseDate

/-- A word, a number, or a single other character. -/
abbrev Token := List Char

/-- What the token on its way is. -/
inductive Mode
  | nothing
  | word
  | number
  /-- A token with points in it that ends like a word. -/
  | dottedWord
  /-- A token with points in it that ends like a number. -/
  | dottedNumber
  deriving DecidableEq, Repr

/-- Whether a token on its way ends like a word. -/
def Mode.isWordy : Mode → Bool
  | .word | .dottedWord => true
  | _ => false

/-- A reader on its way: the token, last character first, whether something followed a letter in it,
and the finished tokens, last first. -/
structure Lexer where
  mode : Mode
  chars : List Char
  isWordy : Bool
  tokens : List Token

namespace Lexer

/-- A lexer that has read nothing. -/
def start : Lexer := ⟨.nothing, [], false, []⟩

/-- What a token is with one more character, if that belongs to it. -/
def next? (l : Lexer) (c : Char) : Option Mode :=
  let behindPoint := l.chars.head? = some '.'
  match l.mode with
  | .nothing => none
  | .word => if c.isAlpha then some .word else if c = '.' then some .dottedWord else none
  | .number =>
    if Text.isDigit c then some .number
    else if c = '.' ∨ (c = ',' ∧ 2 ≤ l.chars.length) then some .dottedNumber
    else none
  | .dottedWord =>
    if c = '.' ∨ c.isAlpha then some .dottedWord
    else if Text.isDigit c ∧ behindPoint then some .dottedNumber
    else none
  | .dottedNumber =>
    if c = '.' ∨ Text.isDigit c then some .dottedNumber
    else if c.isAlpha ∧ behindPoint then some .dottedWord
    else none

/-- The pieces between points and commas, and those marks themselves. -/
def parted : List Char → List Token
  | [] => []
  | c :: rest =>
    if c = '.' ∨ c = ',' then [c] :: parted rest
    else
      match parted rest with
      | [] => [[c]]
      | piece :: pieces =>
        if piece = ['.'] ∨ piece = [','] then [c] :: piece :: pieces else (c :: piece) :: pieces

/-- The tokens that a finished token makes. A comma left in a number is its decimal point. -/
def pieces (l : Lexer) : List Token :=
  let token := l.chars.reverse
  let isDotted := l.mode = .dottedWord ∨ l.mode = .dottedNumber
  if isDotted
      ∧ (l.isWordy ∨ 1 < token.count '.' ∨ l.chars.head?.any fun c => c = '.' ∨ c = ',') then
    parted token
  else if l.mode = .dottedNumber ∧ ¬ token.contains '.' then
    [token.map fun c => if c = ',' then '.' else c]
  else [token]

/-- Ends the token, if there is one. -/
def emit (l : Lexer) : Lexer :=
  if l.mode = .nothing then l else { start with tokens := l.pieces.reverse ++ l.tokens }

/-- Starts a token. A character that is neither letter nor digit is one of its own; blanks are all
alike. -/
def begin (l : Lexer) (c : Char) : Lexer :=
  if c.isAlpha then { l with mode := .word, chars := [c] }
  else if Text.isDigit c then { l with mode := .number, chars := [c] }
  else { l with tokens := [if Text.isBlank c then ' ' else c] :: l.tokens }

/-- Reads one character. -/
def step (l : Lexer) (c : Char) : Lexer :=
  let l := { l with isWordy := l.isWordy || l.mode.isWordy }
  match l.next? c with
  | some mode => { l with mode, chars := c :: l.chars }
  | none => l.emit.begin c

end Lexer

/-- The tokens of a text. -/
def tokens (cs : List Char) : List Token :=
  ((cs.filter (· ≠ '\x00')).foldl Lexer.step .start).emit.tokens.reverse

/-! ## Numbers -/

/-- The natural number that a token of digits spells. -/
def natural? (t : Token) : Option Nat :=
  if t.isEmpty ∨ ¬ t.all Text.isDigit then none else some (Text.digitsValue t)

/-- The digits in front of the point of a number and those behind it, if it has one. -/
def numberParts? (t : Token) : Option (List Char × List Char) :=
  let whole := t.takeWhile Text.isDigit
  match t.dropWhile Text.isDigit with
  | [] => if whole.isEmpty then none else some (whole, [])
  | '.' :: fraction =>
    if whole.isEmpty ∨ fraction.isEmpty ∨ ¬ fraction.all Text.isDigit then none
    else some (whole, fraction)
  | _ => none

/-- The sixtieths that the digits of a fraction come to, rounded down. -/
def sixtieths (fraction : List Char) : Nat :=
  60 * Text.digitsValue fraction / 10 ^ fraction.length

/-! ## Words -/

/-- A token in lower case, as a text. -/
def spelling (t : Token) : String := String.ofList (t.map Char.toLower)

/-- Words and marks without a meaning of their own. -/
def fillers : List String :=
  [" ", ".", ",", ";", "-", "/", "'", "at", "on", "and", "ad", "m", "t", "of", "st", "nd", "rd",
    "th"]

/-- Whether a token has no meaning of its own. -/
def isFiller (t : Token) : Bool := fillers.contains (spelling t)

/-- The position of the first list that has a word. -/
def positionIn (names : List (List String)) (t : Token) : Option Nat :=
  names.findIdx? fun spellings => spellings.contains (spelling t)

/-- The days of the week, from Monday on. -/
def weekday? : Token → Option Nat :=
  positionIn [["mon", "monday"], ["tue", "tuesday"], ["wed", "wednesday"], ["thu", "thursday"],
    ["fri", "friday"], ["sat", "saturday"], ["sun", "sunday"]]

/-- The number of the month that a word names. -/
def month? (t : Token) : Option Nat :=
  (positionIn [["jan", "january"], ["feb", "february"], ["mar", "march"], ["apr", "april"],
    ["may"], ["jun", "june"], ["jul", "july"], ["aug", "august"], ["sep", "sept", "september"],
    ["oct", "october"], ["nov", "november"], ["dec", "december"]] t).map (· + 1)

/-- The units of a time of day: hours, minutes and seconds. -/
def unit? : Token → Option Nat :=
  positionIn [["h", "hour", "hours"], ["m", "minute", "minutes"], ["s", "second", "seconds"]]

/-- Whether a word says that the time is after noon, if it tells the half of the day. -/
def afternoon? (t : Token) : Option Bool :=
  (positionIn [["am", "a"], ["pm", "p"]] t).map (· = 1)

/-- Whether a word names UTC. -/
def isUtc (t : Token) : Bool := ["utc", "gmt", "z"].contains (spelling t)

/-- Whether a word may name a zone: up to five capital letters, or a small z. -/
def isZoneName (t : Token) : Bool :=
  t.length ≤ 5 && (t.all fun c => 'A' ≤ c && c ≤ 'Z') || t = ['z']

end Reporting.LooseDate
