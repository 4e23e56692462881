-- The vocabulary of the calculator: which words switch ditto and PvE, which ask for the odds, which
-- name a numeric field and what range its number must lie in, the rarity words, the star words,
-- the fixed phrases and the words that clear everything.
import VoiceCalc.Command

namespace VoiceCalc.Vocabulary

/-! ## Switches -/

def onWords : List String := ["on", "yes", "add", "enable", "enabled", "include", "with", "plus"]

def offWords : List String :=
  ["off", "no", "remove", "disable", "disabled", "exclude", "without"]

/-- A switch set by an on-word or off-word beside its keyword. -/
structure Toggle where
  kind : CommandKind
  keywords : List String
  label : String

/-- The text shown when the switch is set. -/
def Toggle.feedback (t : Toggle) (on : Bool) : String :=
  t.label ++ (if on then " on" else " off")

/-- The switches, in the order they are read. -/
def toggles : List Toggle :=
  [⟨.ditto, ["ditto"], "Ditto"⟩, ⟨.pve, ["pve"], "PvE"⟩]

/-- A keyword that turns its switch on alone, perhaps with one companion word beside it. -/
structure Flag where
  kind : CommandKind
  keyword : String
  companions : List String
  feedback : String

/-- The flags: "pve", perhaps with "round", "stage" or "battle". -/
def flags : List Flag :=
  [⟨.pve, "pve", ["round", "stage", "battle"], "PvE round"⟩]

/-! ## Asking for the odds -/

def oddsWords : List String :=
  ["odds", "chances", "chance", "probability", "probabilities", "percent", "percentage"]

/-- Three consecutive words, each from its own set, that ask for the odds. -/
structure Question where
  kind : CommandKind
  first : List String
  second : List String
  third : List String
  feedback : String

/-- The questions: "what's my odds" and "what are the odds" with their variants. -/
def questions : List Question :=
  [⟨.query, ["what", "what's", "whats", "show", "tell", "read", "give"],
     ["the", "my", "me", "your"], oddsWords, "Reading odds"⟩,
   ⟨.query, ["are", "is", "me"], ["the", "my", "your"], oddsWords, "Reading odds"⟩]

/-! ## Numeric fields -/

/-- A keyword that takes a number near it, accepted between `lo` and `hi`. -/
structure Field where
  kind : CommandKind
  keywords : List String
  lo : Nat
  hi : Nat
  label : Nat → String

def Field.accepts (f : Field) (n : Nat) : Bool := f.lo ≤ n && n ≤ f.hi

/-- The numeric fields; an earlier field takes a shared number first. -/
def fields : List Field :=
  [⟨.level, ["level", "lvl", "lv"], 1, 9, fun n => s!"Level {n}"⟩,
   ⟨.copies, ["copy", "copies", "own", "owned", "have", "got", "holding"], 0, 9,
     fun n => s!"Own {n}"⟩,
   ⟨.scouting, ["scout", "scouted", "scouting", "seen", "taken", "opponent", "opponents", "enemy",
     "enemies"], 0, 20, fun n => s!"Scouted {n}"⟩,
   ⟨.bench, ["bench", "benched"], 0, 8, fun n => s!"Bench {n}"⟩,
   ⟨.refreshes, ["refresh", "refreshes", "roll", "rolls", "reroll", "rerolls", "check", "checks",
     "times"], 1, 99, fun n => s!"{n} refreshes"⟩]

/-! ## Rarity and evolution -/

/-- Rarity words and the rarity each one selects. -/
def rarities : List (String × String) :=
  [("common", "common"), ("uncommon", "uncommon"), ("uc", "uncommon"), ("green", "uncommon"),
   ("rare", "rare"), ("blue", "rare"), ("epic", "epic"), ("purple", "epic"), ("ultra", "ultra"),
   ("legendary", "ultra"), ("red", "ultra")]

/-- The rarity a word selects. -/
def rarityOf? (w : String) : Option String := (rarities.find? (·.1 == w)).map (·.2)

def starWords : List String := ["star", "stars", "★", "*"]

/-- The evolution stage a number of stars selects, with its feedback. -/
def stageOf? : Nat → Option (String × String)
  | 2 => some ("two_star", "2★")
  | 3 => some ("three_star", "3★")
  | _ => none

/-! ## Phrases and the words that clear -/

/-- A fixed run of words with a fixed meaning. -/
structure Phrase where
  kind : CommandKind
  words : List String
  value : CommandValue
  feedback : String

/-- The phrases; an earlier one wins over a later one of the same kind. -/
def phrases : List Phrase :=
  [⟨.levelStep, ["level", "up"], .number 1, "Level up"⟩,
   ⟨.levelStep, ["up", "a", "level"], .number 1, "Level up"⟩,
   ⟨.levelStep, ["level", "down"], .number (-1), "Level down"⟩,
   ⟨.levelStep, ["down", "a", "level"], .number (-1), "Level down"⟩,
   ⟨.reset, ["start", "over"], .none, "Cleared"⟩]

/-- A word that is a whole command by itself. -/
structure Keyword where
  kind : CommandKind
  words : List String
  feedback : String

/-- The words that clear the calculator on their own. -/
def keywords : List Keyword := [⟨.reset, ["reset", "clear", "restart"], "Cleared"⟩]

/-- A lone number that nothing else claimed selects a level from 1 to 9. -/
def fallbackLevel? (n : Nat) : Option Command :=
  if 1 ≤ n && n ≤ 9 then some ⟨.level, .number n, s!"Level {n}"⟩ else none

end VoiceCalc.Vocabulary
