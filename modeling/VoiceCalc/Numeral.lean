-- Number words: a sentence says "level seven" where the calculator needs "level 7". Each word of a
-- sentence that spells one of the numeral words, in any case, is replaced by its digits. A word is
-- a maximal run of word characters, so "someone" keeps its "one" and "oné" loses it.
import VoiceCalc.Text.WordChar
import VoiceCalc.Text.Lower

namespace VoiceCalc

open Text

/-! ## The numeral words -/

/-- The numeral words and their values: zero to twenty, and the words a recognizer writes when it
hears a number and picks a wrong spelling. -/
def numeralWords : List (String × Nat) :=
  [("zero", 0), ("one", 1), ("two", 2), ("three", 3), ("four", 4), ("five", 5), ("six", 6),
   ("seven", 7), ("eight", 8), ("nine", 9), ("ten", 10), ("eleven", 11), ("twelve", 12),
   ("thirteen", 13), ("fourteen", 14), ("fifteen", 15), ("sixteen", 16), ("seventeen", 17),
   ("eighteen", 18), ("nineteen", 19), ("twenty", 20),
   ("won", 1), ("to", 2), ("too", 2), ("for", 4), ("ate", 8)]

/-- The value of a numeral word written in small letters. -/
def numeralValue? (w : String) : Option Nat :=
  (numeralWords.find? (·.1 == w)).map (·.2)

/-! ## Spelling without regard to case -/

/-- The character `x` stands for the small letter `c` when case is ignored: its simple lower-case
form is `c`, or it is the dotless i for an i, or the long s for an s. -/
def standsFor (x c : Char) : Bool :=
  lowerSimple x == c || (c == 'i' && x == 'ı') || (c == 's' && x == 'ſ')

/-- The characters spell the small-letter word `w`, one character for each letter. -/
def spells : List Char → List Char → Bool
  | [], [] => true
  | x :: xs, c :: cs => standsFor x c && spells xs cs
  | _, _ => false

/-- The characters spell one of the numeral words. -/
def spellsNumeral (run : List Char) : Bool :=
  numeralWords.any fun p => spells run p.1.toList

/-! ## Rewriting -/

/-- A word spelled like a numeral whose lower-case form is no numeral word: it was written with a
dotless i, a dotted capital I or a long s. The field is that lower-case form. -/
structure UnknownNumeral where
  key : String
  deriving DecidableEq, Repr

/-- What one word becomes: the digits of its value when it spells a numeral word, else itself. -/
def rewriteWord (run : List Char) : Except UnknownNumeral (List Char) :=
  if spellsNumeral run then
    let key := lower (String.ofList run)
    match numeralValue? key with
    | some v => .ok (toString v).toList
    | none => .error ⟨key⟩
  else .ok run

/-- Rewrites the text after `run`, the word being read, which is kept reversed. -/
def rewriteFrom (run : List Char) : List Char → Except UnknownNumeral (List Char)
  | [] => rewriteWord run.reverse
  | c :: cs =>
    if isWordChar c then rewriteFrom (c :: run) cs
    else do
      let w ← rewriteWord run.reverse
      let rest ← rewriteFrom [] cs
      pure (w ++ c :: rest)

/-- The sentence with every numeral word replaced by its digits; the first word spelled like a
numeral that has no value is an error. -/
def rewriteNumerals (s : String) : Except UnknownNumeral String :=
  String.ofList <$> rewriteFrom [] s.toList

end VoiceCalc
