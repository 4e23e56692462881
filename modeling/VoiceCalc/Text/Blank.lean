-- Blanks: the characters that separate the words of a sentence. They are the Unicode spaces, the
-- ASCII controls from tab to carriage return, the four field separators and the line and
-- paragraph separators; a zero-width space is not a blank.

namespace VoiceCalc.Text

/-- A blank separates words: tab to carriage return, the field separators, the space, the
next-line sign, the no-break spaces, the Ogham and typographic spaces, and the line and paragraph
separators. -/
def isBlank (c : Char) : Bool :=
  let n := c.toNat
  (0x9 ≤ n && n ≤ 0xD) || (0x1C ≤ n && n ≤ 0x20) || n == 0x85 || n == 0xA0 || n == 0x1680 ||
  (0x2000 ≤ n && n ≤ 0x200A) || n == 0x2028 || n == 0x2029 || n == 0x202F || n == 0x205F ||
  n == 0x3000

/-- White space in the sense of Unicode: the blanks other than the four field separators. -/
def isWhiteSpace (c : Char) : Bool := isBlank c && !(0x1C ≤ c.toNat && c.toNat ≤ 0x1F)

/-- The characters with the blanks at both ends removed. -/
def trimBlanks (cs : List Char) : List Char :=
  ((cs.dropWhile isBlank).reverse.dropWhile isBlank).reverse

/-- The characters with the white space at both ends removed. -/
def trimWhiteSpace (cs : List Char) : List Char :=
  ((cs.dropWhile isWhiteSpace).reverse.dropWhile isWhiteSpace).reverse

/-- The words after `cur`, the word being read, which is kept reversed. -/
def wordsFrom (cur : List Char) : List Char → List (List Char)
  | [] => if cur.isEmpty then [] else [cur.reverse]
  | c :: cs =>
    if isBlank c then
      if cur.isEmpty then wordsFrom [] cs else cur.reverse :: wordsFrom [] cs
    else wordsFrom (c :: cur) cs

/-- The words of a text: its maximal runs of characters that are not blanks, in order. -/
def words (cs : List Char) : List (List Char) := wordsFrom [] cs

/-- The text with the blanks at both ends removed. -/
def trim (s : String) : String := String.ofList (trimBlanks s.toList)

example : words "  level　 7\x1c".toList = ["level".toList, "7".toList] := by decide
example : words "a​b".toList = ["a​b".toList] := by decide

end VoiceCalc.Text
