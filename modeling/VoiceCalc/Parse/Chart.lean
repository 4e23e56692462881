-- The chart of a token list being read: the tokens and the claims made on them so far. A claim
-- is a command with the positions of the tokens it took; a token is free while it lies in the
-- list and no claim holds it, so every token feeds at most one command.
import VoiceCalc.Command
import VoiceCalc.Token

namespace VoiceCalc

/-- A command with the positions of the tokens it took, in the order they were taken. -/
structure Claim where
  command : Command
  positions : List Nat
  deriving DecidableEq, Repr

/-- The tokens being read, the claims made on them, oldest first, and the word that a position past
the end reads as. -/
structure Chart where
  tokens : List String
  claims : List Claim
  pastEnd : String
  deriving Repr

namespace Chart

def start (tokens : List String) : Chart := ⟨tokens, [], ""⟩

def used (ch : Chart) : List Nat := ch.claims.flatMap (·.positions)

/-- A position is free when it lies in the list and no claim holds it. -/
def free (ch : Chart) (i : Nat) : Bool := i < ch.tokens.length && !ch.used.contains i

/-- The token at a position, or the chart's word past the end. -/
def token (ch : Chart) (i : Nat) : String := ch.tokens.getD i ch.pastEnd

/-- The position is free and its token is one of the words. -/
def freeIn (ch : Chart) (i : Nat) (ws : List String) : Bool := ch.free i && ws.contains (ch.token i)

def positions (ch : Chart) : List Nat := List.range ch.tokens.length

/-- Some claim carries a command of the kind. -/
def has (ch : Chart) (k : CommandKind) : Bool := ch.claims.any (·.command.kind == k)

def commands (ch : Chart) : List Command := ch.claims.map (·.command)

def claim (ch : Chart) (c : Command) (ps : List Nat) : Chart :=
  { ch with claims := ch.claims ++ [⟨c, ps⟩] }

/-- The number written at a free position; a taken position has none. Reading it fails when it has
more digits than the limit. -/
def numberAt (ch : Chart) (i : Nat) : Except TooManyDigits (Option Nat) :=
  if ch.free i then tokenNumber? (ch.token i) else .ok none

@[simp] theorem tokens_claim (ch : Chart) (c : Command) (ps : List Nat) :
    (ch.claim c ps).tokens = ch.tokens := rfl

@[simp] theorem claims_claim (ch : Chart) (c : Command) (ps : List Nat) :
    (ch.claim c ps).claims = ch.claims ++ [⟨c, ps⟩] := rfl

@[simp] theorem pastEnd_claim (ch : Chart) (c : Command) (ps : List Nat) :
    (ch.claim c ps).pastEnd = ch.pastEnd := rfl

end Chart

end VoiceCalc
