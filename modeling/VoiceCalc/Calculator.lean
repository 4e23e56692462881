-- The calculator: the inputs a voice command can change, behind named controls. A host may lack a
-- control, and a command aimed at a missing control changes nothing. The level is kept from 1 to
-- 9 whatever is asked; the other numbers are set as given.
import VoiceCalc.Datum
import VoiceCalc.Decimal.Notation

namespace VoiceCalc

open Decimal

/-- A percentage reported by the host, kept as it was given: whole or decimal. -/
inductive Percent
  | whole (n : Int)
  | real (x : Float)
  deriving Inhabited

/-- The percentage as a double; a whole percentage beyond the doubles has none. -/
def Percent.toFloat? : Percent → Option Float
  | .whole n => ofInt? n
  | .real x => some x

/-- The inputs of the calculator. -/
structure CalcState where
  level : Int
  rarity : String
  evolution : String
  copies : Int
  scouting : Int
  bench : Int
  refreshes : Int
  ditto : Bool
  pve : Bool
  oddsRequests : Int
  perRefreshOdds : Option Percent
  totalOdds : Option Percent
  deriving Inhabited

/-- The lowest and the highest level. -/
def minLevel : Int := 1
def maxLevel : Int := 9

/-- The inputs of a fresh calculator. -/
def CalcState.fresh : CalcState :=
  ⟨minLevel, "common", "two_star", 0, 0, 0, 10, false, false, 0, none, none⟩

/-- A percentage from 0 to 100 that may be absent. -/
def optionalPercent : Datum → Except Refusal (Option Percent)
  | .null => .ok none
  | d => (fun x => some (.real x)) <$> (d.toFloat >>= atMost 100 >>= atLeast 0)

/-- Inputs from a request: a level from 1 to 9, counts of zero or more, at least one refresh, and
percentages from 0 to 100; an absent field keeps its fresh value. -/
def CalcState.check (d : Datum) : Except (List Issue) CalcState := Checks.finish do
  let s := CalcState.fresh
  let level ← Checks.field d "level" (some s.level)
    (fun x => x.toInt >>= wholeAtMost maxLevel >>= wholeAtLeast minLevel)
  let rarity ← Checks.field d "rarity" (some s.rarity) Datum.toStr
  let evolution ← Checks.field d "evolution" (some s.evolution) Datum.toStr
  let copies ← Checks.field d "copies" (some s.copies) (fun x => x.toInt >>= wholeAtLeast 0)
  let scouting ← Checks.field d "scouting" (some s.scouting) (fun x => x.toInt >>= wholeAtLeast 0)
  let bench ← Checks.field d "bench" (some s.bench) (fun x => x.toInt >>= wholeAtLeast 0)
  let refreshes ← Checks.field d "refreshes" (some s.refreshes)
    (fun x => x.toInt >>= wholeAtLeast 1)
  let ditto ← Checks.field d "ditto" (some s.ditto) Datum.toBool
  let pve ← Checks.field d "pve" (some s.pve) Datum.toBool
  let oddsRequests ← Checks.field d "odds_requests" (some s.oddsRequests) Datum.toInt
  let perRefreshOdds ← Checks.field d "per_refresh_odds" (some none) optionalPercent
  let totalOdds ← Checks.field d "total_odds" (some none) optionalPercent
  return ⟨level, rarity, evolution, copies, scouting, bench, refreshes, ditto, pve, oddsRequests,
    perRefreshOdds, totalOdds⟩

/-- The numeric inputs set by a number alone. -/
inductive NumberField
  | copies
  | scouting
  | bench
  | refreshes
  deriving DecidableEq, Repr

def NumberField.name : NumberField → String
  | .copies => "copies"
  | .scouting => "scouting"
  | .bench => "bench"
  | .refreshes => "refreshes"

/-- The switches of the calculator. -/
inductive Switch
  | ditto
  | pve
  deriving DecidableEq, Repr

def Switch.name : Switch → String
  | .ditto => "ditto"
  | .pve => "pve"

/-- Every control a calculator may have. -/
def allControls : List String :=
  ["level", "rarity", "evolution", "copies", "scouting", "bench", "refreshes", "ditto", "pve",
   "odds", "clear"]

/-- A calculator: its inputs and the names of the controls its host has. -/
structure Calculator where
  state : CalcState
  controls : List String
  deriving Inhabited

/-- A command aimed at a control the host does not have; the field names the control. -/
structure MissingControl where
  control : String
  deriving DecidableEq, Repr

def MissingControl.message (e : MissingControl) : String :=
  "No '" ++ e.control ++ "' control on this calculator"

/-- Why the odds cannot be read: the host has no odds control, or a whole percentage lies beyond
the doubles. -/
inductive OddsError
  | missing (e : MissingControl)
  | tooLarge
  deriving DecidableEq, Repr

def OddsError.message : OddsError → String
  | .missing e => e.message
  | .tooLarge => "int too large to convert to float"

namespace Calculator

/-- The host has the control. -/
def require (c : Calculator) (name : String) : Except MissingControl Unit :=
  if c.controls.contains name then .ok () else .error ⟨name⟩

/-- The level kept from the lowest to the highest. -/
def clampLevel (n : Int) : Int := max minLevel (min maxLevel n)

def update (c : Calculator) (f : CalcState → CalcState) : Calculator := { c with state := f c.state }

/-- Selects a level, kept from 1 to 9. -/
def selectLevel (c : Calculator) (n : Int) : Except MissingControl Calculator := do
  c.require "level"
  return c.update fun s => { s with level := clampLevel n }

/-- Moves the level by a step, kept from 1 to 9. -/
def stepLevel (c : Calculator) (d : Int) : Except MissingControl Calculator := do
  c.require "level"
  return c.update fun s => { s with level := clampLevel (s.level + d) }

def selectRarity (c : Calculator) (r : String) : Except MissingControl Calculator := do
  c.require "rarity"
  return c.update fun s => { s with rarity := r }

def selectEvolution (c : Calculator) (e : String) : Except MissingControl Calculator := do
  c.require "evolution"
  return c.update fun s => { s with evolution := e }

def setNumber (c : Calculator) (f : NumberField) (n : Int) : Except MissingControl Calculator := do
  c.require f.name
  return c.update fun s => match f with
    | .copies => { s with copies := n }
    | .scouting => { s with scouting := n }
    | .bench => { s with bench := n }
    | .refreshes => { s with refreshes := n }

def setSwitch (c : Calculator) (w : Switch) (on : Bool) : Except MissingControl Calculator := do
  c.require w.name
  return c.update fun s => match w with
    | .ditto => { s with ditto := on }
    | .pve => { s with pve := on }

/-- Counts a request to read the odds. -/
def readOdds (c : Calculator) : Except MissingControl Calculator := do
  c.require "odds"
  return c.update fun s => { s with oddsRequests := s.oddsRequests + 1 }

/-- The sentence that reads the odds aloud, once both odds are reported; each is written as a
double, the odds per refresh first. -/
def describeOdds (c : Calculator) : Except OddsError (Option String) := do
  (c.require "odds").mapError .missing
  let s := c.state
  match s.perRefreshOdds, s.totalOdds with
  | some p, some t =>
    let some pf := p.toFloat? | throw .tooLarge
    let some tf := t.toFloat? | throw .tooLarge
    return some ("Your odds are " ++ fixed 1 pf ++ " percent per refresh, and " ++
      fixed 1 tf ++ " percent over " ++ toString s.refreshes ++ " refreshes.")
  | _, _ => return none

/-- Records the odds the host computed, as given; odds given as none are cleared. -/
def reportOdds (c : Calculator) (perRefresh total : Option Percent) : Calculator :=
  c.update fun s => { s with perRefreshOdds := perRefresh, totalOdds := total }

def clearAll (c : Calculator) : Except MissingControl Calculator := do
  c.require "clear"
  return { c with state := CalcState.fresh }

end Calculator

end VoiceCalc
