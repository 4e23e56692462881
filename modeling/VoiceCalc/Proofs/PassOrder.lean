-- The order of the commands read off a token list. Each pass adds at most one command, of its own
-- kind, and a pass whose kind an earlier pass may already have read checks for it first; the passes
-- run in the order of their kinds. So the kinds of the commands are distinct and follow the fixed
-- order of the passes, and a level read from a lone number is the only command.
import Mathlib.Data.List.Perm.Subperm
import VoiceCalc.Proofs.PassRun

namespace VoiceCalc

open Vocabulary

/-! ## The order of the kinds -/

/-- The kinds in the order the passes read them. -/
def passOrder : List CommandKind :=
  [.ditto, .pve, .query, .level, .copies, .scouting, .bench, .refreshes, .rarity, .evolution,
   .levelStep, .reset]

namespace CommandKind

/-- The place of a kind in the order of the passes. -/
def rank (k : CommandKind) : Nat := passOrder.idxOf k

theorem mem_passOrder (k : CommandKind) : k ∈ passOrder := by
  cases k <;> decide

theorem rank_inj {a b : CommandKind} : a.rank = b.rank ↔ a = b :=
  List.idxOf_inj (mem_passOrder a)

theorem passOrder_pairwise : passOrder.Pairwise fun a b => a.rank < b.rank := by
  decide

/-- Kinds in strictly increasing rank are distinct and stand in the order of the passes. -/
theorem sublist_passOrder {ks : List CommandKind} (h : ks.Pairwise fun a b => a.rank < b.rank) :
    ks.Sublist passOrder := by
  have hsub : ks.Subperm passOrder := h.nodup.subperm fun k _ => mem_passOrder k
  obtain ⟨ks', hperm, hks'⟩ := hsub
  have heq : ks' = ks := hperm.eq_of_pairwise (fun _ _ _ _ hab hba => absurd hba (Nat.lt_asymm hab))
    (passOrder_pairwise.sublist hks') h
  rw [← heq]
  exact hks'

end CommandKind

/-! ## What one pass adds -/

namespace Pass

/-- The pass reads nothing when a claim of its kind is there already. -/
def checksKind : Pass → Bool
  | .flag _ | .question _ | .phrase _ | .keyword _ => true
  | .toggle _ | .field _ | .rarity | .stage => false

/-- The passes run in the order of their kinds, and a pass that shares its kind with an earlier
one checks for it first. -/
theorem passes_ordered : passes.Pairwise fun p q =>
    p.kind.rank ≤ q.kind.rank ∧ (p.kind = q.kind → q.checksKind = true) := by
  have h : (passes.map fun p => (p.kind, p.checksKind)).Pairwise fun a b =>
      a.1.rank ≤ b.1.rank ∧ (a.1 = b.1 → b.2 = true) := by
    decide
  exact List.pairwise_map.1 h

/-- A pass leaves the chart as it was or adds one claim of its own kind; a pass that checks its
kind adds one only when no claim has that kind. -/
def Adds (p : Pass) (ch ch' : Chart) : Prop :=
  ch' = ch ∨
    ∃ c ps, c.kind = p.kind ∧ ch' = ch.claim c ps ∧ (p.checksKind = true → ch.has p.kind = false)

theorem adds_self (p : Pass) (ch : Chart) : p.Adds ch ch := Or.inl rfl

theorem adds_claim {p : Pass} {ch : Chart} {c : Command} (ps : List Nat) (hk : c.kind = p.kind)
    (hc : p.checksKind = true → ch.has p.kind = false) : p.Adds ch (ch.claim c ps) :=
  Or.inr ⟨c, ps, hk, rfl, hc⟩

theorem adds_run {p : Pass} {ch ch' : Chart} (h : p.run ch = .ok ch') : p.Adds ch ch' := by
  cases p with
  | flag _ | question _ | phrase _ | keyword _ =>
    simp only [run, pure, Except.pure, Except.ok.injEq] at h
    subst h
    simp only [Chart.readFlag, Chart.readQuestion, Chart.readPhrase, Chart.readKeyword]
    split
    · exact adds_self _ _
    · rename_i hhas
      split
      · exact adds_claim _ rfl fun _ => Bool.eq_false_iff.mpr hhas
      · exact adds_self _ _
  | toggle _ | rarity =>
    simp only [run, pure, Except.pure, Except.ok.injEq] at h
    subst h
    simp only [Chart.readToggle, Chart.readRarity]
    split
    · exact adds_claim _ rfl fun h => absurd h Bool.false_ne_true
    · exact adds_self _ _
  | field _ | stage =>
    simp only [run, Chart.readField, Chart.readStage] at h
    rw [except_bind_eq_ok] at h
    obtain ⟨hit, -, hk⟩ := h
    cases hit with
    | none =>
      simp only [pure, Except.pure, Except.ok.injEq] at hk
      exact hk ▸ adds_self _ _
    | some x =>
      simp only [pure, Except.pure, Except.ok.injEq] at hk
      exact hk ▸ adds_claim _ rfl fun h => absurd h Bool.false_ne_true

end Pass

/-! ## The kinds along the passes -/

namespace Chart

/-- The kinds of the commands claimed, oldest first. -/
def kinds (ch : Chart) : List CommandKind := ch.commands.map (·.kind)

@[simp] theorem kinds_claim (ch : Chart) (c : Command) (ps : List Nat) :
    (ch.claim c ps).kinds = ch.kinds ++ [c.kind] := by
  simp [kinds, commands, claim]

theorem mem_kinds {ch : Chart} {k : CommandKind} : k ∈ ch.kinds ↔ ch.has k = true := by
  simp [kinds, commands, has]

/-- The claims come in strictly increasing rank, and each pass still to run has a kind of at least
their rank, of the same kind only if it checks for its kind first. -/
structure Ordered (ps : List Pass) (ch : Chart) : Prop where
  increasing : ch.kinds.Pairwise fun a b => a.rank < b.rank
  below : ∀ k ∈ ch.kinds, ∀ p ∈ ps, k.rank ≤ p.kind.rank ∧ (k = p.kind → p.checksKind = true)

theorem ordered_start (ts : List String) : Ordered passes (start ts) :=
  ⟨by simp [kinds, commands, start], by simp [kinds, commands, start]⟩

/-- One pass keeps the order: a claim it adds outranks every claim before it, and the passes
after it rank no lower than it. -/
theorem Ordered.step {p : Pass} {ps : List Pass} {ch ch' : Chart} (h : Ordered (p :: ps) ch)
    (hp : ∀ q ∈ ps, p.kind.rank ≤ q.kind.rank ∧ (p.kind = q.kind → q.checksKind = true))
    (hadd : p.Adds ch ch') : Ordered ps ch' := by
  rcases hadd with rfl | ⟨c, qs, hk, rfl, hc⟩
  · exact ⟨h.increasing, fun k hk q hq => h.below k hk q (List.mem_cons_of_mem p hq)⟩
  · have hlt : ∀ k ∈ ch.kinds, k.rank < c.kind.rank := by
      intro k hkm
      obtain ⟨hle, heq⟩ := h.below k hkm p List.mem_cons_self
      rw [hk]
      refine Nat.lt_of_le_of_ne hle fun hrank => ?_
      have hkp : k = p.kind := CommandKind.rank_inj.1 hrank
      have hhas := hc (heq hkp)
      rw [← hkp, mem_kinds.1 hkm] at hhas
      cases hhas
    refine ⟨?_, ?_⟩
    · rw [kinds_claim, List.pairwise_append]
      exact ⟨h.increasing, List.pairwise_singleton _ _, fun a ha b hb => by
        rw [List.mem_singleton] at hb
        exact hb ▸ hlt a ha⟩
    · intro k hkm q hq
      rw [kinds_claim, List.mem_append, List.mem_singleton] at hkm
      rcases hkm with hkm | rfl
      · exact h.below k hkm q (List.mem_cons_of_mem p hq)
      · rw [hk]
        exact hp q hq

theorem Ordered.runPasses : ∀ {ps : List Pass} {ch ch' : Chart},
    ps.Pairwise (fun p q => p.kind.rank ≤ q.kind.rank ∧ (p.kind = q.kind → q.checksKind = true)) →
    Ordered ps ch → runPasses ps ch = .ok ch' → Ordered [] ch'
  | [], _, _, _, h, hr => by
    simp only [VoiceCalc.runPasses, List.foldlM_nil, pure, Except.pure, Except.ok.injEq] at hr
    exact hr ▸ h
  | p :: ps, ch, ch', hps, h, hr => by
    rw [VoiceCalc.runPasses, List.foldlM_cons, except_bind_eq_ok] at hr
    obtain ⟨mid, hmid, hrest⟩ := hr
    rw [List.pairwise_cons] at hps
    exact Ordered.runPasses hps.2 (h.step hps.1 (Pass.adds_run hmid)) hrest

/-- A lone number read for the level is read only when nothing was, and then it is the only
command. -/
theorem readLoneNumber_claims {ch ch' : Chart} (h : ch.readLoneNumber = .ok ch') :
    ch' = ch ∨ ch.claims = [] ∧ ∃ (n : Nat) (i : Nat), 1 ≤ n ∧ n ≤ 9 ∧
      ch'.claims = [⟨⟨.level, .number n, s!"Level {n}"⟩, [i]⟩] := by
  unfold readLoneNumber at h
  split at h
  · simp only [pure, Except.pure, Except.ok.injEq] at h
    exact Or.inl h.symm
  · rename_i hnil
    have hempty : ch.claims = [] := by simpa using hnil
    rw [except_bind_eq_ok] at h
    obtain ⟨hit, hh, hk⟩ := h
    cases hit with
    | none =>
      simp only [pure, Except.pure, Except.ok.injEq] at hk
      exact Or.inl hk.symm
    | some x =>
      obtain ⟨i, c⟩ := x
      simp only [pure, Except.pure, Except.ok.injEq] at hk
      subst hk
      obtain ⟨i', -, hm⟩ := findSomeM?_eq_ok_some hh
      rw [except_bind_eq_ok] at hm
      obtain ⟨r, -, hk⟩ := hm
      simp only [pure, Except.pure, Except.ok.injEq] at hk
      cases r with
      | none => simp at hk
      | some n =>
        obtain ⟨c', hc', he⟩ := Option.map_eq_some_iff.1 hk
        simp only [Prod.mk.injEq] at he
        obtain ⟨rfl, rfl⟩ := he
        obtain ⟨h1, h9, rfl⟩ := fallbackLevel?_some hc'
        exact Or.inr ⟨hempty, n, i', h1, h9, by simp [claim, hempty]⟩

end Chart

/-! ## The order of a reading -/

/-- The commands read off any token list have distinct kinds, in the order ditto, pve, query,
level, copies, scouting, bench, refreshes, rarity, evolution, level step, reset. The last pass
either reads nothing, or reads a lone number from 1 to 9 as the level when the passes before it
read nothing, and then that level is the only command. -/
theorem read_kinds_follow_the_passes {tokens : List String} {cs : List Command}
    (h : readTokens tokens = .ok cs) :
    (cs.map (·.kind)).Nodup ∧ (cs.map (·.kind)).Sublist passOrder ∧
      ∀ ch, runPasses passes (Chart.start tokens) = .ok ch →
        cs = ch.commands ∨
          ch.commands = [] ∧
            ∃ n : Nat, 1 ≤ n ∧ n ≤ 9 ∧ cs = [⟨.level, .number n, s!"Level {n}"⟩] := by
  unfold readTokens claimsOf at h
  rw [readAll_eq] at h
  cases hrun : runPasses passes (Chart.start tokens) with
  | error x => simp [hrun, bind, Except.bind, Functor.map, Except.map] at h
  | ok ch =>
    cases hlone : ch.readLoneNumber with
    | error x => simp [hrun, hlone, bind, Except.bind, Functor.map, Except.map] at h
    | ok ch' =>
      simp only [hrun, hlone, bind, Except.bind, Functor.map, Except.map, Except.ok.injEq] at h
      have hcs : cs = ch'.commands := by rw [← h]; rfl
      have hlast : cs = ch.commands ∨ ch.commands = [] ∧
          ∃ n : Nat, 1 ≤ n ∧ n ≤ 9 ∧ cs = [⟨.level, .number n, s!"Level {n}"⟩] := by
        rcases Chart.readLoneNumber_claims hlone with rfl | ⟨hnil, n, i, h1, h9, hc⟩
        · exact Or.inl hcs
        · exact Or.inr ⟨by simp [Chart.commands, hnil], n, h1, h9,
            by simp [hcs, Chart.commands, hc]⟩
      have hinc : (cs.map (·.kind)).Pairwise fun a b => a.rank < b.rank := by
        rcases hlast with rfl | ⟨-, n, -, -, rfl⟩
        · exact (Chart.Ordered.runPasses Pass.passes_ordered (Chart.ordered_start tokens)
            hrun).increasing
        · simp
      refine ⟨hinc.nodup, CommandKind.sublist_passOrder hinc, fun ch₀ h₀ => ?_⟩
      cases h₀
      exact hlast

/-- "pve 5 copies" reads as the PvE round, then five copies: the flag's pass runs before the
fields' passes, and the lone-number pass reads nothing after them. -/
theorem kinds_of_pve_and_five_copies :
    readTokens ["pve", "5", "copies"] =
        .ok [⟨.pve, .switch true, "PvE round"⟩, ⟨.copies, .number 5, "Own 5"⟩] ∧
      ([CommandKind.pve, .copies].Nodup ∧ [CommandKind.pve, .copies].Sublist passOrder ∧
        ∀ ch, runPasses passes (Chart.start ["pve", "5", "copies"]) = .ok ch →
          [(⟨.pve, .switch true, "PvE round"⟩ : Command), ⟨.copies, .number 5, "Own 5"⟩] =
              ch.commands ∨
            ch.commands = [] ∧ ∃ n : Nat, 1 ≤ n ∧ n ≤ 9 ∧
              [(⟨.pve, .switch true, "PvE round"⟩ : Command), ⟨.copies, .number 5, "Own 5"⟩] =
                [⟨.level, .number n, s!"Level {n}"⟩]) := by
  have h : readTokens ["pve", "5", "copies"] =
      .ok [⟨.pve, .switch true, "PvE round"⟩, ⟨.copies, .number 5, "Own 5"⟩] := by decide
  exact ⟨h, read_kinds_follow_the_passes h⟩

end VoiceCalc
