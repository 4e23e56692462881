-- Tokens: a sentence in lower case, split at its blanks, each word with the punctuation a
-- recognizer attaches trimmed from both ends. A number glued to a star ("2★") is two tokens, and a
-- word of punctuation alone is none. A token of ASCII digits reads as a number, up to a limit.
import VoiceCalc.Text.Blank
import VoiceCalc.Text.Lower

namespace VoiceCalc

open Text

/-! ## Splitting a sentence -/

/-- Punctuation a recognizer attaches to words: point, comma, marks of exclamation and question,
semicolon, colon and both quotes. -/
def isEdgePunctuation (c : Char) : Bool :=
  c == '.' || c == ',' || c == '!' || c == '?' || c == ';' || c == ':' || c == '\x22' ||
    c == '\x27'

/-- The word with the edge punctuation removed from both ends. -/
def trimEdge (w : List Char) : List Char :=
  ((w.dropWhile isEdgePunctuation).reverse.dropWhile isEdgePunctuation).reverse

/-- A star that counts evolution stages, written as the star sign or an asterisk. -/
def isStarSign (c : Char) : Bool := c == '★' || c == '*'

/-- The tokens of one trimmed word: a number glued to one star is split in two, an empty word
gives none. -/
def piecesOf (w : List Char) : List (List Char) :=
  match w.reverse with
  | [] => []
  | u :: rds =>
    if isStarSign u && !rds.isEmpty && rds.all Char.isDigit then [rds.reverse, [u]] else [w]

/-- The tokens of a sentence, in order. -/
def tokenize (s : String) : List String :=
  ((words (lower (trim s)).toList).flatMap fun w => piecesOf (trimEdge w)).map String.ofList

/-! ## Reading a number -/

/-- The most digits an integer may be written with. -/
def digitLimit : Nat := 4300

/-- A run of digits longer than the limit; the field is its length. -/
structure TooManyDigits where
  count : Nat
  deriving DecidableEq, Repr

/-- The message for a number with too many digits. -/
def TooManyDigits.message (e : TooManyDigits) : String :=
  "Exceeds the limit (4300 digits) for integer string conversion: value has " ++ toString e.count ++
    " digits; use sys.set_int_max_str_digits() to increase the limit"

/-- The value of a list of ASCII digits. -/
def digitsValue (ds : List Char) : Nat :=
  ds.foldl (fun n d => 10 * n + (d.toNat - '0'.toNat)) 0

/-- The value of a token of ASCII digits, leading zeros allowed; any other token has none. -/
def tokenNumber? (t : String) : Except TooManyDigits (Option Nat) :=
  let ds := t.toList
  if !ds.isEmpty && ds.all Char.isDigit then
    if ds.length ≤ digitLimit then .ok (some (digitsValue ds)) else .error ⟨ds.length⟩
  else .ok none

end VoiceCalc
