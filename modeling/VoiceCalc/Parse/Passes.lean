-- The passes that read commands off a chart. Each pass looks only at free tokens and claims the
-- ones it uses, so ties are settled by the order of the passes: switches, flags and questions,
-- numbers beside their keywords, a rarity word, a number of stars, fixed phrases, lone keywords,
-- and last a lone number when nothing else was found.
import VoiceCalc.Parse.Chart
import VoiceCalc.Vocabulary

namespace VoiceCalc.Chart

open Vocabulary

/-- The position just before `i`, when there is one. -/
def before (i : Nat) : List Nat := if i = 0 then [] else [i - 1]

/-- The positions one and two before `i`, nearest first, as far as they exist. -/
def twoBefore (i : Nat) : List Nat := (List.range i).reverse.take 2

/-! ## Switches, flags and questions -/

/-- The switch word beside position `i`, the word before outranking the word after, with its
position and whether it turns the switch on. -/
def switchBeside (ch : Chart) (i : Nat) : Option (Bool × Nat) :=
  (before i ++ [i + 1]).findSome? fun j =>
    if ch.freeIn j onWords then some (true, j)
    else if ch.freeIn j offWords then some (false, j)
    else none

/-- The first free keyword of the switch with a switch word beside it sets the switch. -/
def readToggle (ch : Chart) (t : Toggle) : Chart :=
  let hit := ch.positions.findSome? fun i =>
    if ch.freeIn i t.keywords then (ch.switchBeside i).map fun (on, j) => (i, j, on) else none
  match hit with
  | some (i, j, on) => ch.claim ⟨t.kind, .switch on, t.feedback on⟩ [i, j]
  | none => ch

/-- The first free flag keyword sets its flag, taking a companion word after it or else before
it; a flag already set is not read again. -/
def readFlag (ch : Chart) (f : Flag) : Chart :=
  if ch.has f.kind then ch else
  match ch.positions.find? fun i => ch.token i == f.keyword && ch.free i with
  | some i =>
    let companion := ([i + 1] ++ before i).find? fun j => ch.freeIn j f.companions
    ch.claim ⟨f.kind, .switch true, f.feedback⟩ (i :: companion.toList)
  | none => ch

/-- The three free words at `i`, `i + 1` and `i + 2` fill the question's three slots. -/
def asks (ch : Chart) (q : Question) (i : Nat) : Bool :=
  ch.freeIn i q.first && ch.freeIn (i + 1) q.second && ch.freeIn (i + 2) q.third

/-- The first three consecutive words that fill the question's slots ask for the odds; once the
odds are asked for, no later question is read. -/
def readQuestion (ch : Chart) (q : Question) : Chart :=
  if ch.has q.kind then ch else
  match (List.range (ch.tokens.length - 2)).find? (ch.asks q) with
  | some i => ch.claim ⟨q.kind, .none, q.feedback⟩ [i, i + 1, i + 2]
  | none => ch

/-! ## Numbers beside their keywords -/

/-- The nearest free number after position `i`, at most two places on, else the nearest before
it, with its position. -/
def numberNear (ch : Chart) (i : Nat) : Except TooManyDigits (Option (Nat × Nat)) :=
  ([i + 1, i + 2] ++ twoBefore i).findSomeM? fun j => do
    return (← ch.numberAt j).map fun n => (j, n)

/-- The keyword at `i` with the number it takes, when the number is in the field's range. -/
def fieldAt (ch : Chart) (f : Field) (i : Nat) : Except TooManyDigits (Option (Nat × Nat)) := do
  if ch.freeIn i f.keywords then
    match ← ch.numberNear i with
    | some (j, n) => return if f.accepts n then some (j, n) else none
    | none => return none
  else return none

/-- The first free keyword of the field whose nearest number is in range sets the field. -/
def readField (ch : Chart) (f : Field) : Except TooManyDigits Chart := do
  let hit : Option (Nat × Nat × Nat) ← ch.positions.findSomeM? fun i => do
    return (← ch.fieldAt f i).map fun (j, n) => (i, j, n)
  match hit with
  | some (i, j, n) => return ch.claim ⟨f.kind, .number n, f.label n⟩ [i, j]
  | none => return ch

/-! ## Rarity and stars -/

/-- The first free rarity word selects the rarity. -/
def readRarity (ch : Chart) : Chart :=
  let hit := ch.positions.findSome? fun i =>
    if ch.free i then (rarityOf? (ch.token i)).map fun r => (i, r) else none
  match hit with
  | some (i, r) => ch.claim ⟨.rarity, .word r, r⟩ [i]
  | none => ch

/-- The stage named by a free number at `i` followed by a free star word. -/
def stageAt (ch : Chart) (i : Nat) : Except TooManyDigits (Option (String × String)) := do
  match (← ch.numberAt i).bind stageOf? with
  | some s => return if ch.freeIn (i + 1) starWords then some s else none
  | none => return none

/-- The first free "2" or "3" followed by a free star word selects the evolution stage. -/
def readStage (ch : Chart) : Except TooManyDigits Chart := do
  let hit ← (List.range (ch.tokens.length - 1)).findSomeM? fun i => do
    return (← ch.stageAt i).map fun s => (i, s)
  match hit with
  | some (i, value, shown) => return ch.claim ⟨.evolution, .word value, shown⟩ [i, i + 1]
  | none => return ch

/-! ## Phrases, keywords and a lone number -/

/-- The phrase stands at `i` on free tokens. -/
def phraseAt (ch : Chart) (p : Phrase) (i : Nat) : Bool :=
  (ch.tokens.drop i).take p.words.length == p.words &&
    (List.range' i p.words.length).all ch.free

/-- The first place where the phrase stands on free tokens gives its command, unless a command of
its kind was read already. -/
def readPhrase (ch : Chart) (p : Phrase) : Chart :=
  if ch.has p.kind then ch else
  match (List.range (ch.tokens.length + 1 - p.words.length)).find? (ch.phraseAt p) with
  | some i => ch.claim ⟨p.kind, p.value, p.feedback⟩ (List.range' i p.words.length)
  | none => ch

/-- The first free keyword gives its command, unless a command of its kind was read already. -/
def readKeyword (ch : Chart) (k : Keyword) : Chart :=
  if ch.has k.kind then ch else
  match ch.positions.find? fun i => ch.freeIn i k.words with
  | some i => ch.claim ⟨k.kind, .none, k.feedback⟩ [i]
  | none => ch

/-- When nothing was read, the first number from 1 to 9 selects the level. -/
def readLoneNumber (ch : Chart) : Except TooManyDigits Chart := do
  if !ch.claims.isEmpty then return ch
  let hit ← ch.positions.findSomeM? fun i => do
    return (← ch.numberAt i).bind fun n => (fallbackLevel? n).map fun c => (i, c)
  match hit with
  | some (i, c) => return ch.claim c [i]
  | none => return ch

/-! ## All passes -/

/-- The chart after every pass, in order. -/
def readAll (ch : Chart) : Except TooManyDigits Chart := do
  let ch := toggles.foldl readToggle ch
  let ch := flags.foldl readFlag ch
  let ch := questions.foldl readQuestion ch
  let ch ← fields.foldlM readField ch
  let ch := ch.readRarity
  let ch ← ch.readStage
  let ch := phrases.foldl readPhrase ch
  let ch := keywords.foldl readKeyword ch
  ch.readLoneNumber

end VoiceCalc.Chart
