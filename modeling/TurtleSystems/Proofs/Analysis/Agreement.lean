import Mathlib.Data.List.Forall2
import TurtleSystems.Proofs.Analysis
import TurtleSystems.Proofs.Liveness

/-!
# How the parts of an analysis agree

An analysis tests liveness, counts the occurrences of each pattern and follows
the derivation, each on its own.  The three still say the same of a rule set.
It is live exactly if some pattern is counted in the seed and some pattern
after one step, and what is dead comes to an end within two steps: the first
one is stopped, or it changes nothing, or it leaves nothing to replace.
-/

namespace TurtleSystems

namespace RuleSet

variable {rules : RuleSet} {limit : Nat} {seed next : Text}
variable {stop : GrowthLimitExceeded}

theorem isLeast_stopped_one (stopped : rules.step limit seed = .error stop) :
    IsLeast {depth | rules.derive limit depth seed = .error ⟨limit⟩} 1 :=
  isLeast_stopped_succ (derive_zero rules limit seed) stopped

theorem restsAt_one_iff (stepped : rules.step limit seed = .ok next) :
    rules.RestsAt limit 1 seed ↔ next = seed :=
  restsAt_succ_iff (derive_zero rules limit seed) stepped

/-- Without an occurrence in the seed the derivation rests from the start. -/
theorem isLeast_restsAt_one (absent : rules.occursIn seed = false) :
    IsLeast {depth | rules.RestsAt limit depth seed} 1 :=
  ⟨(restsAt_one_iff (step_of_not_occursIn absent)).mpr rfl,
    fun _ rests => rests.1⟩

/-- A step that uses up the last occurrences has changed the seed, so that the
derivation rests one step later. -/
theorem isLeast_restsAt_two (stepped : rules.step limit seed = .ok next)
    (present : rules.occursIn seed = true)
    (exhausted : rules.occursIn next = false) :
    IsLeast {depth | rules.RestsAt limit depth seed} 2 := by
  have changed : next ≠ seed := by
    rintro rfl
    rw [present] at exhausted
    cases exhausted
  have derived : rules.derive limit 1 seed = .ok next := by
    rw [derive_succ_of_derive (derive_zero rules limit seed), stepped]
  have rests : rules.RestsAt limit (1 + 1) seed :=
    (restsAt_succ_iff derived (step_of_not_occursIn exhausted)).mpr rfl
  refine ⟨rests, ?_⟩
  intro depth depthRests
  have positive : 0 < depth := depthRests.1
  have notFirst : depth ≠ 1 := by
    rintro rfl
    exact changed ((restsAt_one_iff stepped).mp depthRests)
  omega

end RuleSet

namespace Analysis

variable {rules : RuleSet} {limit bound : Nat} {seed next : Text}

/-- What a report says of a rule: how often the pattern occurs in the seed,
and how often after one step unless that step is stopped. -/
structure IsReportOn (rules : RuleSet) (limit : Nat) (seed : Text)
    (rule : Rule) (report : RuleReport) : Prop where
  rule_eq : report.rule = rule.line
  seedMatches_eq : report.seedMatches = Text.occurrences rule.pattern seed
  stopped : ∀ stop, rules.step limit seed = .error stop →
    report.stepMatches = none
  stepped : ∀ next, rules.step limit seed = .ok next →
    report.stepMatches = some (Text.occurrences rule.pattern next)

/-- What the parts of an analysis up to a bound have to do with each other. -/
structure Agrees (rules : RuleSet) (limit bound : Nat) (seed : Text)
    (analysis : Analysis) : Prop where
  live_iff : analysis.live = true ↔
    (∃ report ∈ analysis.rules, 0 < report.seedMatches) ∧
      ∃ report ∈ analysis.rules, ∃ count,
        report.stepMatches = some count ∧ 0 < count
  reports : List.Forall₂ (IsReportOn rules limit seed) rules analysis.rules
  stopped : analysis.live = false → 2 ≤ bound →
    ∀ stop, rules.step limit seed = .error stop →
      analysis.growth = .limitExceeded 1
  absent : analysis.live = false → 2 ≤ bound →
    (∀ rule ∈ rules, ¬ rule.pattern <:+: seed) →
      analysis.growth = .fixedPoint 1
  exhausted : analysis.live = false → 2 ≤ bound →
    ∀ next, rules.step limit seed = .ok next →
      (∃ rule ∈ rules, rule.pattern <:+: seed) →
        analysis.growth = .fixedPoint 2

theorem isReportOn_report (rules : RuleSet) (limit : Nat) (seed : Text)
    (rule : Rule) :
    IsReportOn rules limit seed rule
      (report seed (rules.step limit seed).toOption rule) := by
  refine ⟨rfl, rfl, ?_, ?_⟩
  · intro stop stopped
    simp [report, stopped, Except.toOption]
  · intro next stepped
    simp [report, stepped, Except.toOption]

theorem make_rules (rules : RuleSet) (limit bound : Nat) (seed : Text) :
    (make rules limit bound seed).rules =
      rules.map (report seed (rules.step limit seed).toOption) :=
  rfl

theorem exists_seedMatches_iff (rules : RuleSet) (limit bound : Nat)
    (seed : Text) :
    (∃ report ∈ (make rules limit bound seed).rules, 0 < report.seedMatches) ↔
      rules.occursIn seed = true := by
  simp [make_rules, report, RuleSet.occursIn]

theorem exists_stepMatches_iff (rules : RuleSet) (limit bound : Nat)
    (seed : Text) :
    (∃ report ∈ (make rules limit bound seed).rules, ∃ count,
        report.stepMatches = some count ∧ 0 < count) ↔
      ∃ next, rules.step limit seed = .ok next ∧
        rules.occursIn next = true := by
  cases stepped : rules.step limit seed with
  | error stop => simp [make_rules, report, stepped, Except.toOption]
  | ok next =>
      simp [make_rules, report, stepped, Except.toOption, RuleSet.occursIn]

/-- The three parts of an analysis agree on every rule set and seed: liveness
with the counts, the counts with the first step, and the end of a dead
derivation with both. -/
theorem make_agrees (rules : RuleSet) (limit bound : Nat) (seed : Text) :
    Agrees rules limit bound seed (make rules limit bound seed) := by
  have reports := make_reports rules limit bound seed
  refine ⟨?_, ?_, ?_, ?_, ?_⟩
  · rw [exists_seedMatches_iff, exists_stepMatches_iff]
    change rules.isLive limit seed = true ↔ _
    rw [RuleSet.isLive_iff_exists_step]
    constructor
    · rintro ⟨next, stepped, present, remains⟩
      exact ⟨present, next, stepped, remains⟩
    · rintro ⟨present, next, stepped, remains⟩
      exact ⟨next, stepped, present, remains⟩
  · rw [make_rules, List.forall₂_map_right_iff, List.forall₂_same]
    intro rule _
    exact isReportOn_report rules limit seed rule
  · intro _ boundGe stop stopped
    exact (reports.limitExceeded_iff 1).mpr
      ⟨by omega, RuleSet.isLeast_stopped_one stopped⟩
  · intro _ boundGe absent
    have notOccurs : rules.occursIn seed = false := by
      rw [← Bool.not_eq_true, RuleSet.occursIn_iff]
      simpa using absent
    exact (reports.fixedPoint_iff 1).mpr
      ⟨by omega, RuleSet.isLeast_restsAt_one notOccurs⟩
  · intro dead boundGe next stepped present
    have occurs : rules.occursIn seed = true :=
      RuleSet.occursIn_iff.mpr present
    have exhausted : rules.occursIn next = false := by
      change rules.isLive limit seed = false at dead
      rw [RuleSet.isLive_of_step stepped, occurs, Bool.true_and] at dead
      exact dead
    exact (reports.fixedPoint_iff 2).mpr
      ⟨boundGe, RuleSet.isLeast_restsAt_two stepped occurs exhausted⟩

/-- A rule that turns moves into marks is dead wherever it is tried: it has
nothing left to do after one step, or nothing to do at all, or no room. -/
theorem make_agrees_fading :
    let fading : Rule := ⟨['g'], ['x'], by decide, by decide, by decide⟩
    (make [fading] 2 2 ['g', 'f', 'g']).growth = .fixedPoint 2 ∧
      (make [fading] 2 2 ['f', 'x']).growth = .fixedPoint 1 ∧
      (make [fading] 1 2 ['g', 'f', 'g']).growth = .limitExceeded 1 := by
  intro fading
  have usedUp := make_agrees [fading] 2 2 ['g', 'f', 'g']
  have absent := make_agrees [fading] 2 2 ['f', 'x']
  have stopped := make_agrees [fading] 1 2 ['g', 'f', 'g']
  refine ⟨?_, ?_, ?_⟩
  · exact usedUp.exhausted rfl (by decide) ['x', 'f', 'x'] rfl
      ⟨fading, by simp, by decide⟩
  · exact absent.absent rfl (by decide) (by decide)
  · exact stopped.stopped rfl (by decide) ⟨1⟩ rfl

end Analysis

end TurtleSystems
