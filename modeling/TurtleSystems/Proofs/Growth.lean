import Mathlib.Tactic.IntervalCases
import TurtleSystems.Proofs.Animation
import TurtleSystems.Proofs.Replacement
import TurtleSystems.Proofs.Unguarded

/-!
# Growth under the guard

Without the growth limit a program may grow exponentially with the depth.  With
it every rule makes at most as many replacements as allowed, and each of them
adds at most what the replacement is longer than the pattern.  So each step
adds a bounded number of bytes, and a program is no longer than the seed and
this number for each step.
-/

namespace TurtleSystems

/-- The bytes that one replacement adds, if it adds any. -/
def Rule.growth (rule : Rule) : Nat :=
  Text.byteLength rule.replacement - Text.byteLength rule.pattern

/-- The bytes that one replacement by each rule adds. -/
def RuleSet.growth (rules : RuleSet) : Nat :=
  (rules.map Rule.growth).sum

/-- The bytes that a program may have after a number of steps in which no rule
makes more replacements than the limit. -/
def RuleSet.sizeBound (rules : RuleSet) (limit depth : Nat) (seed : Text) :
    Nat :=
  Text.byteLength seed + depth * limit * rules.growth

theorem Rule.byteLength_apply_le {rule : Rule} {limit : Nat}
    {text next : Text} (applied : rule.apply limit text = .ok next) :
    Text.byteLength next ≤ Text.byteLength text + limit * rule.growth := by
  obtain ⟨allowed, -⟩ := Rule.apply_eq_ok_iff.mp applied
  have exchanged := byteLength_of_apply applied
  have sideLe : Text.byteLength rule.replacement ≤
      Text.byteLength rule.pattern + rule.growth := by
    rw [growth]
    omega
  have addedLe := Nat.mul_le_mul_right rule.growth allowed
  have sidesLe := Nat.mul_le_mul_left
    (Text.occurrences rule.pattern text) sideLe
  rw [Nat.mul_add] at sidesLe
  omega

namespace RuleSet

variable {rules : RuleSet} {limit depth deeper : Nat}
variable {seed text next program : Text}

@[simp]
theorem growth_cons (rule : Rule) (rules : RuleSet) :
    growth (rule :: rules) = rule.growth + growth rules := by
  simp [growth]

@[simp]
theorem sizeBound_zero (rules : RuleSet) (limit : Nat) (seed : Text) :
    rules.sizeBound limit 0 seed = Text.byteLength seed := by
  simp [sizeBound]

theorem sizeBound_succ (rules : RuleSet) (limit depth : Nat) (seed : Text) :
    rules.sizeBound limit (depth + 1) seed =
      rules.sizeBound limit depth seed + limit * rules.growth := by
  rw [sizeBound, sizeBound, Nat.succ_mul, Nat.add_mul, Nat.add_assoc]

theorem sizeBound_mono (depthLe : depth ≤ deeper) :
    rules.sizeBound limit depth seed ≤ rules.sizeBound limit deeper seed :=
  Nat.add_le_add_left
    (Nat.mul_le_mul_right _ (Nat.mul_le_mul_right _ depthLe)) _

theorem byteLength_step_le (stepped : rules.step limit text = .ok next) :
    Text.byteLength next ≤ Text.byteLength text + limit * rules.growth := by
  induction rules generalizing text with
  | nil =>
      cases stepped
      exact Nat.le_add_right _ _
  | cons rule rules ih =>
      rw [step_cons, bind_eq_ok] at stepped
      obtain ⟨between, applied, stepped⟩ := stepped
      calc
        Text.byteLength next ≤
            Text.byteLength between + limit * growth rules := ih stepped
        _ ≤ Text.byteLength text + limit * rule.growth +
            limit * growth rules :=
          Nat.add_le_add_right (Rule.byteLength_apply_le applied) _
        _ = Text.byteLength text + limit * growth (rule :: rules) := by
          rw [growth_cons, Nat.mul_add, Nat.add_assoc]

theorem byteLength_derive_le
    (derived : rules.derive limit depth seed = .ok program) :
    Text.byteLength program ≤ rules.sizeBound limit depth seed := by
  induction depth generalizing program with
  | zero =>
      cases derived
      rw [sizeBound_zero]
  | succ depth ih =>
      obtain ⟨previous, derivedPrevious, stepped⟩ :=
        exists_derive_of_derive_succ derived
      have previousLe := ih derivedPrevious
      have stepLe := byteLength_step_le stepped
      rw [sizeBound_succ]
      omega

end RuleSet

namespace Animation

variable {animation after : Animation} {shown : Tick}

/-- The program of an animation is derived from its seed in no more steps than
its depth.  After a stop at the growth limit it is one step behind. -/
def HoldsDerived (animation : Animation) : Prop :=
  ∃ depth ≤ animation.depth,
    animation.rules.derive animation.config.growthLimit depth
      animation.seed = .ok animation.program

theorem HoldsDerived.byteLength_le (holds : animation.HoldsDerived) :
    Text.byteLength animation.program ≤
      animation.rules.sizeBound animation.config.growthLimit animation.depth
        animation.seed := by
  obtain ⟨depth, depthLe, derived⟩ := holds
  exact Nat.le_trans (RuleSet.byteLength_derive_le derived)
    (RuleSet.sizeBound_mono depthLe)

theorem holdsDerived_restart (animation : Animation) :
    animation.restart.HoldsDerived :=
  ⟨0, Nat.le_refl 0, rfl⟩

theorem HoldsDerived.tick (holds : animation.HoldsDerived) :
    animation.tick.2.HoldsDerived := by
  obtain ⟨depth, depthLe, derived⟩ := holds
  obtain ⟨configEq, seedEq, rulesEq⟩ := tick_keeps animation
  rw [HoldsDerived, configEq, seedEq, rulesEq]
  rcases program_of_tick animation with
    ⟨programEq, later⟩ | ⟨derivedNext, depthEq⟩
  · rw [programEq]
    exact ⟨depth, Nat.le_trans depthLe later, derived⟩
  · exact ⟨animation.depth + 1, Nat.le_of_eq depthEq.symm, derivedNext⟩

theorem HoldsDerived.perform (holds : animation.HoldsDerived)
    (operation : Operation) :
    (animation.perform operation).HoldsDerived := by
  cases operation with
  | tick => exact holds.tick
  | restart => exact holdsDerived_restart animation
  | replaceRules rules => exact holdsDerived_restart _

theorem holdsDerived_run (holds : animation.HoldsDerived)
    (operations : List Operation) :
    (animation.run operations).HoldsDerived := by
  induction operations generalizing animation with
  | nil => exact holds
  | cons operation operations ih => exact ih (holds.perform operation)

/-- What a tick shows is what the animation then holds. -/
theorem program_of_frame {frame : Frame}
    (ticked : animation.tick = (.frame frame, after)) :
    frame.program = after.program ∧ frame.depth = after.depth := by
  rcases tick_cases animation with ⟨halt, -, shown⟩ | ⟨stopped, shown⟩ |
    ⟨halt, program, shown⟩ | ⟨program, shown⟩ <;>
    rw [shown] at ticked <;> cases ticked
  exact ⟨rfl, rfl⟩

theorem run_keeps (config : Config) (rules : RuleSet) (seed : Text)
    (operations : List Operation) :
    ((start config rules seed).run operations).config = config ∧
      ((start config rules seed).run operations).seed = seed ∧
      ((start config rules seed).run operations).rules =
        lastRules rules operations := by
  have runEq := run_ticked config rules seed 0 operations
  rw [ticked] at runEq
  rw [runEq]
  exact ticked_keeps _ _ _ _

/-- The guard bounds growth linearly in the depth: with a limit on the
replacements of a rule a program is no longer than the seed and, for each
step, what as many replacements by each rule add.  Whatever is done to an
animation, the program that it holds and the one that its next tick shows keep
to this bound at their depths. -/
theorem grows_linearly (seed : Text) :
    (∀ (rules : RuleSet) (limit depth : Nat) (program : Text),
      rules.derive limit depth seed = .ok program →
        Text.byteLength program ≤
          Text.byteLength seed + depth * limit * rules.growth) ∧
    ∀ (config : Config) (rules : RuleSet) (operations : List Operation),
      let animation := (start config rules seed).run operations
      let current := lastRules rules operations
      Text.byteLength animation.program ≤
          Text.byteLength seed +
            animation.depth * config.growthLimit * current.growth ∧
        ∀ frame after, animation.tick = (.frame frame, after) →
          Text.byteLength frame.program ≤
            Text.byteLength seed +
              frame.depth * config.growthLimit * current.growth := by
  refine ⟨fun rules limit depth program derived =>
    RuleSet.byteLength_derive_le derived, ?_⟩
  intro config rules operations animation current
  have holds : animation.HoldsDerived :=
    holdsDerived_run ⟨0, Nat.le_refl 0, rfl⟩ operations
  obtain ⟨configEq, seedEq, rulesEq⟩ :=
    run_keeps config rules seed operations
  have bound := holds.byteLength_le
  rw [configEq, seedEq, rulesEq] at bound
  refine ⟨bound, ?_⟩
  intro frame after ticked
  have boundAfter := holds.tick.byteLength_le
  obtain ⟨configAfter, seedAfter, rulesAfter⟩ := tick_keeps animation
  rw [configAfter, seedAfter, rulesAfter, configEq, seedEq, rulesEq,
    ticked] at boundAfter
  obtain ⟨programEq, depthEq⟩ := program_of_frame ticked
  rw [programEq, depthEq]
  exact boundAfter

/-- A move that sprouts twice may add four bytes in each step in which two
moves may sprout. -/
theorem grows_linearly_sprouting :
    let config := { Config.standard with growthLimit := 2 }
    RuleSet.growth [.sprouting] = 2 ∧
      RuleSet.derive [.sprouting] 2 2 ['g'] =
        .ok ['g', 'f', 'g', 'f', 'g', 'f', 'g'] ∧
      Text.byteLength ['g', 'f', 'g', 'f', 'g', 'f', 'g'] ≤ 1 + 2 * 2 * 2 ∧
      ∃ frame after,
        ((start config [.sprouting] ['g']).run [.tick]).tick =
            (.frame frame, after) ∧
          frame.depth = 2 ∧
          Text.byteLength frame.program ≤ 1 + 2 * 2 * 2 := by
  intro config
  obtain ⟨derivedLe, animated⟩ := grows_linearly ['g']
  obtain ⟨-, shownLe⟩ := animated config [.sprouting] [.tick]
  have good : ∀ depth, 0 < depth → depth ≤ 2 →
      IsGoodDepth config [.sprouting] ['g'] depth := by
    intro depth positive depthLe
    interval_cases depth
    · exact ⟨['g', 'f', 'g'], rfl, by decide⟩
    · exact ⟨['g', 'f', 'g', 'f', 'g', 'f', 'g'], rfl, by decide⟩
  obtain ⟨-, program, -, -, -, -, shown⟩ := tick_ticked_of_good good
  exact ⟨rfl, rfl, derivedLe [.sprouting] 2 2 _ rfl, _, _, shown, rfl,
    shownLe _ _ shown⟩

end Animation

end TurtleSystems
