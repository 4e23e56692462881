-- A missing control is not fatal: dispatch sets the command aimed at it aside and runs the rest
-- of the utterance, in order. For commands whose values have the types their kinds take, the
-- commands given back are exactly those whose control the host lacks, and the calculator ends
-- where applying only the others would leave it.
import VoiceCalc.Proofs.CommandRanges

namespace VoiceCalc

/-! ## The control a command needs -/

/-- The control a command of the kind is aimed at: the level control for a level and for a step
of it, the odds control for a question, the clear control for a reset, and the control named as
the kind for the others. -/
def CommandKind.control : CommandKind → String
  | .level | .levelStep => "level"
  | .query => "odds"
  | .reset => "clear"
  | k => k.name

/-- The command's value has the type its kind takes: a whole number for the level, a step of it
and the numeric inputs, a word for the rarity and the stage, a switch position for the switches.
A question and a reset take any value. -/
def Command.WellTyped (c : Command) : Prop :=
  match c.kind, c.value with
  | .level, .number _ | .levelStep, .number _ | .copies, .number _ | .scouting, .number _
  | .bench, .number _ | .refreshes, .number _ => True
  | .rarity, .word _ | .evolution, .word _ => True
  | .ditto, .switch _ | .pve, .switch _ => True
  | .query, _ | .reset, _ => True
  | _, _ => False

namespace Calculator

variable {c : Calculator}

/-- An operation behind a control gives its calculator when the host has the control, and names
the control otherwise. -/
theorem guarded_eq {name : String} {x : Calculator} :
    (do c.require name; return x : Except MissingControl Calculator) =
      if c.controls.contains name then .ok x else .error ⟨name⟩ := by
  unfold require
  split <;> rfl

/-- A well-typed command changes the inputs only, when the host has its control; without the
control it fails, naming the control it needed. -/
theorem apply_wellTyped {cmd : Command} (h : cmd.WellTyped) :
    ∃ s, c.apply cmd = if c.controls.contains cmd.kind.control
      then .ok { c with state := s } else .error (.missing ⟨cmd.kind.control⟩) := by
  obtain ⟨kind, value, fb⟩ := cmd
  cases kind <;> cases value <;> simp only [Command.WellTyped] at h <;>
    simp only [apply, CommandValue.toWhole, ok_mapError, ok_bind, selectLevel, stepLevel,
      selectRarity, selectEvolution, setNumber, setSwitch, readOdds, clearAll, guarded_eq,
      apply_ite (Except.mapError ApplyError.missing), ok_mapError, error_mapError] <;>
    exact ⟨_, rfl⟩

/-- Whatever the inputs are, a well-typed command whose control is missing fails and names it. -/
theorem apply_missing {cmd : Command} (h : cmd.WellTyped)
    (hm : c.controls.contains cmd.kind.control = false) (s : CalcState) :
    ({ c with state := s } : Calculator).apply cmd = .error (.missing ⟨cmd.kind.control⟩) := by
  obtain ⟨_, hs⟩ := apply_wellTyped (c := { c with state := s }) h
  rw [hs, if_neg (by simpa using hm)]

end Calculator

/-! ## Dispatching around the missing controls -/

/-- For well-typed commands and any controls, dispatch gives back the commands whose control the
host lacks, in their order, and leaves the calculator where applying the other commands in order
leaves it; each command whose control is missing fails, naming that control, whatever the inputs
are when it comes, and so changes nothing. -/
theorem dispatch_sets_aside_missing_controls (c : Calculator) (cmds : List Command)
    (h : ∀ cmd ∈ cmds, cmd.WellTyped) :
    (∃ c', (cmds.filter fun cmd => c.controls.contains cmd.kind.control).foldlM Calculator.apply c =
        .ok c' ∧
      c.dispatch cmds = (c', .ok (cmds.filter fun cmd => !c.controls.contains cmd.kind.control))) ∧
    ∀ cmd ∈ cmds, c.controls.contains cmd.kind.control = false →
      ∀ s, ({ c with state := s } : Calculator).apply cmd = .error (.missing ⟨cmd.kind.control⟩) := by
  refine ⟨?_, fun cmd hm hc s => Calculator.apply_missing (h cmd hm) hc s⟩
  induction cmds generalizing c with
  | nil => exact ⟨c, rfl, rfl⟩
  | cons cmd rest ih =>
    have hrest : ∀ cmd' ∈ rest, cmd'.WellTyped := fun cmd' hm => h cmd' (List.mem_cons_of_mem cmd hm)
    obtain ⟨s, ha⟩ := Calculator.apply_wellTyped (c := c) (h cmd List.mem_cons_self)
    by_cases hp : c.controls.contains cmd.kind.control = true
    · rw [if_pos hp] at ha
      obtain ⟨c', hfold, hdisp⟩ := ih (c := { c with state := s }) hrest
      refine ⟨c', ?_, ?_⟩
      · rw [List.filter_cons, if_pos hp, List.foldlM_cons, ha]
        exact hfold
      · rw [List.filter_cons, if_neg (by rw [hp]; decide), Calculator.dispatch, ha]
        exact hdisp
    · rw [if_neg hp] at ha
      obtain ⟨c', hfold, hdisp⟩ := ih (c := c) hrest
      refine ⟨c', ?_, ?_⟩
      · rw [List.filter_cons, if_neg hp]
        exact hfold
      · rw [List.filter_cons, if_pos (by simpa using hp), Calculator.dispatch, ha]
        simp only [hdisp]
        rfl

theorem dispatch_without_odds_or_rarity :
    (∀ cmd ∈ [Command.mk .level (.number 7) "Level 7", ⟨.rarity, .word "rare", "Rare"⟩,
        ⟨.query, .none, "Reading odds"⟩, ⟨.copies, .number 3, "3 copies"⟩], cmd.WellTyped) ∧
    (∃ c', ([Command.mk .level (.number 7) "Level 7", ⟨.rarity, .word "rare", "Rare"⟩,
        ⟨.query, .none, "Reading odds"⟩, ⟨.copies, .number 3, "3 copies"⟩].filter fun cmd =>
          (["level", "copies"] : List String).contains cmd.kind.control).foldlM Calculator.apply
          ⟨CalcState.fresh, ["level", "copies"]⟩ = .ok c' ∧
      Calculator.dispatch ⟨CalcState.fresh, ["level", "copies"]⟩
        [Command.mk .level (.number 7) "Level 7", ⟨.rarity, .word "rare", "Rare"⟩,
          ⟨.query, .none, "Reading odds"⟩, ⟨.copies, .number 3, "3 copies"⟩] =
        (c', .ok ([Command.mk .level (.number 7) "Level 7", ⟨.rarity, .word "rare", "Rare"⟩,
          ⟨.query, .none, "Reading odds"⟩, ⟨.copies, .number 3, "3 copies"⟩].filter fun cmd =>
            !(["level", "copies"] : List String).contains cmd.kind.control))) ∧
    ∀ cmd ∈ [Command.mk .level (.number 7) "Level 7", ⟨.rarity, .word "rare", "Rare"⟩,
        ⟨.query, .none, "Reading odds"⟩, ⟨.copies, .number 3, "3 copies"⟩],
      (["level", "copies"] : List String).contains cmd.kind.control = false →
        ∀ s, ({ state := s, controls := ["level", "copies"] } : Calculator).apply cmd =
          .error (.missing ⟨cmd.kind.control⟩) := by
  have h : ∀ cmd ∈ [Command.mk .level (.number 7) "Level 7", ⟨.rarity, .word "rare", "Rare"⟩,
      ⟨.query, .none, "Reading odds"⟩, ⟨.copies, .number 3, "3 copies"⟩], cmd.WellTyped := by
    simp [Command.WellTyped]
  exact ⟨h, dispatch_sets_aside_missing_controls ⟨CalcState.fresh, ["level", "copies"]⟩ _ h⟩

end VoiceCalc
