import TurtleSystems.Proofs.Replacement

/-!
# What liveness says of a derivation

Liveness looks for patterns in the text in front of a step, while the rules of
a step work one after the other and each changes what the next one meets.
Still the first pattern that occurs in the text is met as it stands there: the
rules before it have replaced nothing.  So a pattern occurs exactly where some
rule of the step rewrites what it meets or is stopped, and a rule set is live
if the first step is made with a replacement and the second one starts one.
Otherwise the first step is stopped or the derivation rests from depth 1 on.
-/

namespace TurtleSystems

namespace Rule

variable {rule : Rule} {limit : Nat} {text met handed : Text}

/-- The rule meets a text that is cut at its pattern once at least, and hands
on the same pieces with its replacement between them. -/
def Rewrites (rule : Rule) (met handed : Text) : Prop :=
  ∃ pieces, Text.IsCut rule.pattern met pieces ∧ 1 < pieces.length ∧
    rule.replacement.intercalate pieces = handed

theorem rewrites_of_apply (present : rule.pattern <:+: met)
    (applied : rule.apply limit met = .ok handed) :
    rule.Rewrites met handed := by
  have cut := Text.isCut_piecesAround rule.pattern_ne_nil met
  have counted := (Text.occurrences_pos_iff rule.pattern_ne_nil).mpr present
  rw [Text.occurrences] at counted
  exact ⟨_, cut, by omega, intercalate_of_apply cut applied⟩

theorem Rewrites.isInfix (rewrites : rule.Rewrites met handed) :
    rule.pattern <:+: met := by
  obtain ⟨pieces, cut, several, -⟩ := rewrites
  have first := cut.first 0 several
  rw [List.drop_zero, cut.joined] at first
  exact Text.infix_of_isFirstAt first

end Rule

namespace RuleSet

variable {rules : RuleSet} {limit : Nat} {seed text next : Text}

/-- A replacement that is made in a step from a text.  The rule meets what the
rules in front of it leave of the text, and the rules behind it finish the
step from what it hands on. -/
structure Replacement (rules : RuleSet) (limit : Nat) (text : Text) where
  before : RuleSet
  rule : Rule
  behind : RuleSet
  met : Text
  handed : Text
  rules_eq : rules = before ++ rule :: behind
  reached : before.step limit text = .ok met
  applied : rule.apply limit met = .ok handed
  rewrites : rule.Rewrites met handed
  finishes : rules.step limit text = behind.step limit handed

/-- The replacement of the first rule in a step. -/
def Replacement.first {rule : Rule}
    (applied : rule.apply limit text = .ok next)
    (rewrites : rule.Rewrites text next) :
    Replacement (rule :: rules) limit text where
  before := []
  rule := rule
  behind := rules
  met := text
  handed := next
  rules_eq := rfl
  reached := rfl
  applied := applied
  rewrites := rewrites
  finishes := by
    rw [step_cons, applied]
    rfl

/-- A replacement behind a rule that is not stopped. -/
def Replacement.cons {rule : Rule}
    (applied : rule.apply limit text = .ok next)
    (made : Replacement rules limit next) :
    Replacement (rule :: rules) limit text where
  before := rule :: made.before
  rule := made.rule
  behind := made.behind
  met := made.met
  handed := made.handed
  rules_eq := congrArg (rule :: ·) made.rules_eq
  reached := by
    rw [step_cons, applied]
    exact made.reached
  applied := made.applied
  rewrites := made.rewrites
  finishes := by
    rw [step_cons, applied]
    exact made.finishes

theorem occursIn_cons (rule : Rule) (rules : RuleSet) (text : Text) :
    occursIn (rule :: rules) text = true ↔
      rule.pattern <:+: text ∨ occursIn rules text = true := by
  simp [occursIn_iff]

theorem step_of_not_occursIn (absent : rules.occursIn text = false) :
    rules.step limit text = .ok text := by
  induction rules with
  | nil => rfl
  | cons rule rules ih =>
      rw [← Bool.not_eq_true, occursIn_cons, not_or] at absent
      obtain ⟨notHere, notBehind⟩ := absent
      rw [step_cons, Rule.apply_of_not_isInfix limit notHere]
      exact ih (by simpa using notBehind)

theorem replacement_or_stopped_of_occursIn
    (occurs : rules.occursIn text = true) :
    Nonempty (rules.Replacement limit text) ∨
      rules.step limit text = .error ⟨limit⟩ := by
  induction rules with
  | nil => cases occurs
  | cons rule rules ih =>
      by_cases here : rule.pattern <:+: text
      · cases applied : rule.apply limit text with
        | ok next =>
            left
            exact ⟨.first applied (Rule.rewrites_of_apply here applied)⟩
        | error stop =>
            right
            rw [step_cons, applied, Rule.limit_of_apply_eq_error applied]
            rfl
      · -- Up to here nothing was replaced, so the rules behind this one meet
        -- the text that the step started from.
        have unchanged := Rule.apply_of_not_isInfix limit here
        have behind := ((occursIn_cons rule rules text).mp occurs).resolve_left
          here
        rcases ih behind with ⟨⟨made⟩⟩ | stopped
        · left
          exact ⟨.cons unchanged made⟩
        · right
          rw [step_cons, unchanged]
          exact stopped

theorem Replacement.occursIn (made : rules.Replacement limit text) :
    rules.occursIn text = true := by
  obtain ⟨before, rule, behind, met, handed, rfl, reached, -, rewrites, -⟩ :=
    made
  by_contra absent
  simp only [occursIn_iff, List.mem_append, List.mem_cons, not_exists,
    not_and] at absent
  have absentBefore : before.occursIn text = false := by
    rw [← Bool.not_eq_true, occursIn_iff]
    rintro ⟨earlier, member, present⟩
    exact absent earlier (.inl member) present
  rw [step_of_not_occursIn absentBefore] at reached
  cases reached
  exact absent rule (.inr (.inl rfl)) rewrites.isInfix

/-- A pattern occurs in a text exactly if a step from there makes a
replacement or is stopped. -/
theorem occursIn_iff_replaces (rules : RuleSet) (limit : Nat) (text : Text) :
    rules.occursIn text = true ↔
      Nonempty (rules.Replacement limit text) ∨
        rules.step limit text = .error ⟨limit⟩ := by
  constructor
  · exact replacement_or_stopped_of_occursIn
  · rintro (⟨⟨made⟩⟩ | stopped)
    · exact made.occursIn
    · by_contra absent
      rw [Bool.not_eq_true] at absent
      rw [step_of_not_occursIn absent] at stopped
      cases stopped

theorem isLive_of_step (stepped : rules.step limit seed = .ok next) :
    rules.isLive limit seed = (rules.occursIn seed && rules.occursIn next) := by
  simp only [isLive, stepped]

theorem not_isLive_of_stopped {stop : GrowthLimitExceeded}
    (stopped : rules.step limit seed = .error stop) :
    rules.isLive limit seed = false := by
  simp only [isLive, stopped, Bool.and_false]

theorem isLive_iff_exists_step :
    rules.isLive limit seed = true ↔
      ∃ next, rules.step limit seed = .ok next ∧
        rules.occursIn seed = true ∧ rules.occursIn next = true := by
  cases stepped : rules.step limit seed with
  | ok next => simp [isLive_of_step stepped]
  | error stop => simp [not_isLive_of_stopped stepped]

theorem nonempty_replacement_iff (stepped : rules.step limit text = .ok next) :
    Nonempty (rules.Replacement limit text) ↔ rules.occursIn text = true := by
  rw [occursIn_iff_replaces rules limit, stepped]
  simp

/-- Where the first step can be made but the rule set is not live, a second step
changes nothing. -/
theorem step_of_not_isLive (stepped : rules.step limit seed = .ok next)
    (dead : rules.isLive limit seed = false) :
    rules.step limit next = .ok next := by
  rw [isLive_of_step stepped, Bool.and_eq_false_iff] at dead
  rcases dead with absent | absent
  · rw [step_of_not_occursIn absent, Except.ok.injEq] at stepped
    subst stepped
    exact step_of_not_occursIn absent
  · exact step_of_not_occursIn absent

/-- A rule set is live exactly if the first step is made with a replacement and
the second one makes a replacement or is stopped at one.  If it is not live,
the first step is stopped or every program from depth 1 on is the same, and if
it is live the first step is not stopped. -/
theorem isLive_iff_steps_replace (rules : RuleSet) (limit : Nat)
    (seed : Text) :
    (rules.isLive limit seed = true ↔
      ∃ next, rules.step limit seed = .ok next ∧
        Nonempty (rules.Replacement limit seed) ∧
        (Nonempty (rules.Replacement limit next) ∨
          rules.step limit next = .error ⟨limit⟩)) ∧
    (rules.isLive limit seed = false →
      rules.step limit seed = .error ⟨limit⟩ ∨
        ∃ next, ∀ depth ≥ 1, rules.derive limit depth seed = .ok next) ∧
    (rules.isLive limit seed = true →
      ∃ next, rules.step limit seed = .ok next) := by
  refine ⟨?_, ?_, ?_⟩
  · rw [isLive_iff_exists_step]
    apply exists_congr
    intro next
    apply and_congr_right
    intro stepped
    rw [nonempty_replacement_iff stepped,
      occursIn_iff_replaces rules limit next]
  · intro dead
    cases stepped : rules.step limit seed with
    | error stop =>
        left
        rw [limit_of_step_eq_error stepped]
    | ok next =>
        right
        have fixed := step_of_not_isLive stepped dead
        have derived : rules.derive limit 1 seed = .ok next := by
          rw [derive_succ_eq_match, stepped]
          rfl
        exact ⟨next, fun depth depthGe =>
          derive_of_fixed fixed derived depthGe⟩
  · intro live
    obtain ⟨next, stepped, -⟩ := isLive_iff_exists_step.mp live
    exact ⟨next, stepped⟩

/-- With room for one replacement sprouting is live on one move: it is
rewritten, and the second step is stopped.  On a seed without a move sprouting
is dead: the seed is all that there ever is. -/
theorem isLive_iff_steps_replace_sprouting :
    Rule.sprouting.Rewrites ['g'] ['g', 'f', 'g'] ∧
      step [.sprouting] 1 ['g'] = .ok ['g', 'f', 'g'] ∧
      step [.sprouting] 1 ['g', 'f', 'g'] = .error ⟨1⟩ ∧
      isLive [.sprouting] 1 ['g'] = true ∧
      isLive [.sprouting] 1 ['x'] = false ∧
      ∀ depth ≥ 1, derive [.sprouting] 1 depth ['x'] = .ok ['x'] := by
  have cut : Text.IsCut ['g'] ['g'] [[], []] :=
    Text.isCut_piecesAround (by decide) ['g']
  have rewrites : Rule.sprouting.Rewrites ['g'] ['g', 'f', 'g'] :=
    ⟨[[], []], cut, by decide, rfl⟩
  have made : Replacement [.sprouting] 1 ['g'] := .first rfl rewrites
  have stopped : step [.sprouting] 1 ['g', 'f', 'g'] = .error ⟨1⟩ := rfl
  have dead : isLive [.sprouting] 1 ['x'] = false := rfl
  obtain ⟨liveIff, -, -⟩ := isLive_iff_steps_replace [.sprouting] 1 ['g']
  obtain ⟨-, rests, -⟩ := isLive_iff_steps_replace [.sprouting] 1 ['x']
  refine ⟨rewrites, rfl, stopped, ?_, dead, ?_⟩
  · exact liveIff.mpr ⟨['g', 'f', 'g'], rfl, ⟨made⟩, .inr stopped⟩
  · rcases rests dead with firstStopped | ⟨next, derived⟩
    · cases firstStopped
    · have nextEq : (.ok next : Except GrowthLimitExceeded Text) = .ok ['x'] :=
        (derived 1 (Nat.le_refl 1)).symm
      cases nextEq
      exact derived

end RuleSet

end TurtleSystems
