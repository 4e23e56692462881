-- Reading commands from tokens and from sentences. A sentence has its number words rewritten as
-- digits and is split into tokens; the tokens are read by the passes of the chart.
import VoiceCalc.Numeral
import VoiceCalc.Parse.Passes
import VoiceCalc.Text.Quoted

namespace VoiceCalc

/-- Why a sentence could not be read: a number word that has no value, or a number with more
digits than can be read. -/
inductive ReadError
  | unknownNumeral (e : UnknownNumeral)
  | tooManyDigits (e : TooManyDigits)
  deriving DecidableEq, Repr

/-- The message for a sentence that could not be read: the unknown numeral quoted, or the count
of digits. -/
def ReadError.message : ReadError → String
  | .unknownNumeral e => Text.quoted e.key
  | .tooManyDigits e => e.message

/-- The claims the passes make on a token list, oldest first. -/
def claimsOf (tokens : List String) : Except TooManyDigits (List Claim) :=
  (·.claims) <$> (Chart.start tokens).readAll

/-- The commands read from a token list, in the order of the passes. -/
def readTokens (tokens : List String) : Except TooManyDigits (List Command) :=
  (·.map (·.command)) <$> claimsOf tokens

/-- The commands read from a sentence. -/
def readSentence (s : String) : Except ReadError (List Command) := do
  let t ← (rewriteNumerals s).mapError .unknownNumeral
  (readTokens (tokenize t)).mapError .tooManyDigits

end VoiceCalc
