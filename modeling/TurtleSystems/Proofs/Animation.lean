import Mathlib.Tactic.ByContra
import Mathlib.Tactic.IntervalCases
import Mathlib.Tactic.Push
import TurtleSystems.Animation
import TurtleSystems.Proofs.Derivation
import TurtleSystems.Proofs.Turtle

/-!
# Runs of an animation

An animation may be ticked, restarted and given other rules in any order.
Whatever was done to it, the next tick depends only on the rules that were set
last and on the number of ticks since the last restart: as long as every depth
up to that number is good it shows the program derived from the seed, and from
the first bad depth on it repeats the halt of that depth.
-/

namespace TurtleSystems

/-- The phase of an animation at a depth where it is not halted. -/
def Phase.atDepth : Nat → Phase
  | 0 => .idle
  | _ + 1 => .running

namespace Animation

/-- What can be done to an animation. -/
inductive Operation where
  | tick
  | restart
  | replaceRules (rules : RuleSet)

def perform (animation : Animation) : Operation → Animation
  | .tick => animation.tick.2
  | .restart => animation.restart
  | .replaceRules rules => animation.replaceRules rules

def run (animation : Animation) (operations : List Operation) : Animation :=
  operations.foldl perform animation

/-- The rules that an operation leaves in place of the given ones. -/
def Operation.rulesAfter (rules : RuleSet) : Operation → RuleSet
  | .replaceRules others => others
  | _ => rules

/-- The number of ticks since the last restart, after one more operation. -/
def Operation.ticksAfter (ticks : Nat) : Operation → Nat
  | .tick => ticks + 1
  | _ => 0

/-- The rules that were set last, at first the given ones. -/
def lastRules (rules : RuleSet) (operations : List Operation) : RuleSet :=
  operations.foldl Operation.rulesAfter rules

/-- The number of ticks since the last restart or change of rules. -/
def ticksSinceRestart (operations : List Operation) : Nat :=
  operations.foldl Operation.ticksAfter 0

/-- A depth is good when the derivation reaches it and its program does not
draw more segments than may be shown. -/
def IsGoodDepth (config : Config) (rules : RuleSet) (seed : Text)
    (depth : Nat) : Prop :=
  ∃ program, rules.derive config.growthLimit depth seed = .ok program ∧
    program.count 'f' ≤ config.segmentCap

/-- The first depth from 1 on that is not good. -/
structure IsFirstBadDepth (config : Config) (rules : RuleSet) (seed : Text)
    (depth : Nat) : Prop where
  positive : 0 < depth
  bad : ¬ IsGoodDepth config rules seed depth
  good_before : ∀ earlier, 0 < earlier → earlier < depth →
    IsGoodDepth config rules seed earlier

/-- The halt that belongs to a bad depth, with the program that it leaves:
the last one derived if the derivation is stopped, and the one that is too
large to be shown otherwise. -/
inductive HaltsWith (config : Config) (rules : RuleSet) (seed : Text)
    (depth : Nat) : Halt → Text → Prop where
  | growth {program : Text}
      (stopped : rules.derive config.growthLimit depth seed =
        .error ⟨config.growthLimit⟩)
      (derived : rules.derive config.growthLimit (depth - 1) seed =
        .ok program) :
      HaltsWith config rules seed depth (.growth ⟨config.growthLimit⟩) program
  | displayOverflow {program : Text}
      (derived : rules.derive config.growthLimit depth seed = .ok program)
      (overflows : config.segmentCap < program.count 'f') :
      HaltsWith config rules seed depth
        (.displayOverflow (program.count 'f') config.segmentCap) program

section Tick

variable {animation : Animation} {program : Text}

theorem tick_of_halted {halt : Halt}
    (halted : animation.phase = .halted halt) :
    animation.tick = (.halt halt, animation) := by
  simp [tick, halted]

theorem tick_of_growth {stopped : GrowthLimitExceeded}
    (going : animation.halt? = none)
    (failed : animation.rules.derive animation.config.growthLimit
      (animation.depth + 1) animation.seed = .error stopped) :
    animation.tick =
      (.halt (.growth stopped),
        { animation with
          depth := animation.depth + 1
          phase := .halted (.growth stopped) }) := by
  unfold tick
  split
  · next halt halted => simp [halt?, halted] at going
  · simp [failed, stop]

theorem tick_of_overflow (going : animation.halt? = none)
    (derived : animation.rules.derive animation.config.growthLimit
      (animation.depth + 1) animation.seed = .ok program)
    (overflows : animation.config.segmentCap < program.count 'f') :
    animation.tick =
      (.halt (.displayOverflow (program.count 'f')
          animation.config.segmentCap),
        { animation with
          depth := animation.depth + 1
          phase := .halted (.displayOverflow (program.count 'f')
            animation.config.segmentCap)
          program }) := by
  unfold tick
  split
  · next halt halted => simp [halt?, halted] at going
  · simp [derived, Frame.ofProgram, Turtle.length_draw, overflows, stop]

theorem tick_of_frame (going : animation.halt? = none)
    (derived : animation.rules.derive animation.config.growthLimit
      (animation.depth + 1) animation.seed = .ok program)
    (fits : program.count 'f' ≤ animation.config.segmentCap) :
    animation.tick =
      (.frame (Frame.ofProgram animation.config (animation.depth + 1)
          program),
        { animation with
          depth := animation.depth + 1
          phase := .running
          program }) := by
  have fits : ¬ animation.config.segmentCap < program.count 'f' := by omega
  unfold tick
  split
  · next halt halted => simp [halt?, halted] at going
  · simp [derived, Frame.ofProgram, Turtle.length_draw, fits]

/-- Everything that a tick can come to. -/
theorem tick_cases (animation : Animation) :
    (∃ halt, animation.phase = .halted halt ∧
      animation.tick = (.halt halt, animation)) ∨
    (∃ stopped, animation.tick =
      (.halt (.growth stopped),
        { animation with
          depth := animation.depth + 1
          phase := .halted (.growth stopped) })) ∨
    (∃ halt program, animation.tick =
      (.halt halt,
        { animation with
          depth := animation.depth + 1
          phase := .halted halt
          program })) ∨
    (∃ program, animation.tick =
      (.frame (Frame.ofProgram animation.config (animation.depth + 1)
          program),
        { animation with
          depth := animation.depth + 1
          phase := .running
          program })) := by
  cases halted : animation.halt? with
  | some halt =>
      have phaseEq : animation.phase = .halted halt := by
        unfold halt? at halted
        split at halted
        · next found phaseEq => cases halted; exact phaseEq
        · cases halted
      exact .inl ⟨halt, phaseEq, tick_of_halted phaseEq⟩
  | none =>
      cases derived : animation.rules.derive animation.config.growthLimit
          (animation.depth + 1) animation.seed with
      | error stopped =>
          exact .inr (.inl ⟨stopped, tick_of_growth halted derived⟩)
      | ok program =>
          by_cases overflows :
              animation.config.segmentCap < program.count 'f'
          · exact .inr (.inr (.inl
              ⟨_, program, tick_of_overflow halted derived overflows⟩))
          · exact .inr (.inr (.inr
              ⟨program, tick_of_frame halted derived (by omega)⟩))

/-- A tick leaves the program as it is, or puts the one of the next depth in
its place. -/
theorem program_of_tick (animation : Animation) :
    (animation.tick.2.program = animation.program ∧
      animation.depth ≤ animation.tick.2.depth) ∨
    (animation.rules.derive animation.config.growthLimit
        (animation.depth + 1) animation.seed =
          .ok animation.tick.2.program ∧
      animation.tick.2.depth = animation.depth + 1) := by
  unfold tick
  split
  · exact .inl ⟨rfl, Nat.le_refl _⟩
  · dsimp only
    split
    · exact .inl ⟨rfl, Nat.le_succ _⟩
    · next program derived =>
        -- Whether it can be shown or not, the program is that of the depth.
        split <;> exact .inr ⟨derived, rfl⟩

end Tick

/-- An animation that is not halted, with the program of its depth. -/
def atDepth (config : Config) (rules : RuleSet) (seed : Text) (depth : Nat)
    (program : Text) : Animation :=
  { config, seed, rules, depth, phase := .atDepth depth, program }

/-- An animation after a number of ticks. -/
def ticked (config : Config) (rules : RuleSet) (seed : Text) :
    Nat → Animation
  | 0 => start config rules seed
  | ticks + 1 => (ticked config rules seed ticks).tick.2

section Runs

variable (config : Config) (rules : RuleSet) (seed : Text)

theorem tick_keeps (animation : Animation) :
    animation.tick.2.config = animation.config ∧
      animation.tick.2.seed = animation.seed ∧
      animation.tick.2.rules = animation.rules := by
  rcases tick_cases animation with ⟨halt, -, ticked⟩ | ⟨stopped, ticked⟩ |
    ⟨halt, program, ticked⟩ | ⟨program, ticked⟩ <;>
    rw [ticked] <;> exact ⟨rfl, rfl, rfl⟩

theorem keeps_of_tick {animation after : Animation} {shown : Tick}
    (ticked : animation.tick = (shown, after)) :
    after.config = animation.config ∧ after.seed = animation.seed ∧
      after.rules = animation.rules := by
  have keeps := tick_keeps animation
  rwa [ticked] at keeps

theorem ticked_keeps (ticks : Nat) :
    (ticked config rules seed ticks).config = config ∧
      (ticked config rules seed ticks).seed = seed ∧
      (ticked config rules seed ticks).rules = rules := by
  induction ticks with
  | zero => exact ⟨rfl, rfl, rfl⟩
  | succ ticks ih =>
      obtain ⟨configEq, seedEq, rulesEq⟩ :=
        tick_keeps (ticked config rules seed ticks)
      exact ⟨configEq.trans ih.1, seedEq.trans ih.2.1,
        rulesEq.trans ih.2.2⟩

/-- Restarting, with the same or with other rules, gives a fresh animation. -/
theorem replaceRules_ticked (ticks : Nat) (others : RuleSet) :
    (ticked config rules seed ticks).replaceRules others =
      start config others seed := by
  obtain ⟨configEq, seedEq, -⟩ := ticked_keeps config rules seed ticks
  simp [replaceRules, restart, start, configEq, seedEq]

/-- After any operations an animation is a fresh one, with the rules that were
set last, after the ticks since then. -/
theorem run_ticked (ticks : Nat) (operations : List Operation) :
    (ticked config rules seed ticks).run operations =
      ticked config (lastRules rules operations) seed
        (operations.foldl Operation.ticksAfter ticks) := by
  induction operations generalizing rules ticks with
  | nil => rfl
  | cons operation operations ih =>
      cases operation with
      | tick => exact ih rules (ticks + 1)
      | restart =>
          have fresh : (ticked config rules seed ticks).restart =
              ticked config rules seed 0 := by
            obtain ⟨configEq, seedEq, rulesEq⟩ :=
              ticked_keeps config rules seed ticks
            simp [restart, ticked, start, configEq, seedEq, rulesEq]
          have stepped : (ticked config rules seed ticks).run
              (.restart :: operations) =
                (ticked config rules seed ticks).restart.run operations := rfl
          rw [stepped, fresh]
          exact ih rules 0
      | replaceRules others =>
          have stepped : (ticked config rules seed ticks).run
              (.replaceRules others :: operations) =
                ((ticked config rules seed ticks).replaceRules others).run
                  operations := rfl
          rw [stepped, replaceRules_ticked]
          exact ih others 0

end Runs

section Depths

variable {config : Config} {rules : RuleSet} {seed : Text}

theorem exists_isFirstBadDepth {depth : Nat} (positive : 0 < depth)
    (bad : ¬ IsGoodDepth config rules seed depth) :
    ∃ first ≤ depth, IsFirstBadDepth config rules seed first := by
  induction depth using Nat.strongRecOn with
  | ind depth ih =>
      by_cases good : ∀ earlier, 0 < earlier → earlier < depth →
          IsGoodDepth config rules seed earlier
      · exact ⟨depth, Nat.le_refl depth, positive, bad, good⟩
      · push Not at good
        obtain ⟨earlier, earlierPos, earlierLt, earlierBad⟩ := good
        obtain ⟨first, firstLe, isFirst⟩ :=
          ih earlier earlierLt earlierPos earlierBad
        exact ⟨first, by omega, isFirst⟩

theorem halt?_atDepth (depth : Nat) (program : Text) :
    (atDepth config rules seed depth program).halt? = none := by
  cases depth <;> rfl

theorem tick_atDepth {depth : Nat} {previous program : Text}
    (derived : rules.derive config.growthLimit (depth + 1) seed = .ok program)
    (fits : program.count 'f' ≤ config.segmentCap) :
    (atDepth config rules seed depth previous).tick =
      (.frame (Frame.ofProgram config (depth + 1) program),
        atDepth config rules seed (depth + 1) program) :=
  tick_of_frame (halt?_atDepth depth previous) derived fits

theorem ticked_of_good {ticks : Nat}
    (good : ∀ depth, 0 < depth → depth ≤ ticks →
      IsGoodDepth config rules seed depth) :
    ∃ program, rules.derive config.growthLimit ticks seed = .ok program ∧
      ticked config rules seed ticks =
        atDepth config rules seed ticks program := by
  induction ticks with
  | zero => exact ⟨seed, rfl, rfl⟩
  | succ ticks ih =>
      obtain ⟨previous, -, atPrevious⟩ := ih fun depth positive depthLe =>
        good depth positive (by omega)
      obtain ⟨program, derived, fits⟩ := good (ticks + 1) (by omega) (by omega)
      refine ⟨program, derived, ?_⟩
      rw [ticked, atPrevious, tick_atDepth derived fits]

/-- With the next depth good as well, the next tick shows the program there,
one step further than the program before. -/
theorem tick_ticked_of_good {ticks : Nat}
    (good : ∀ depth, 0 < depth → depth ≤ ticks + 1 →
      IsGoodDepth config rules seed depth) :
    ∃ previous program,
      rules.derive config.growthLimit ticks seed = .ok previous ∧
      rules.derive config.growthLimit (ticks + 1) seed = .ok program ∧
      rules.step config.growthLimit previous = .ok program ∧
      (ticked config rules seed ticks).program = previous ∧
      (ticked config rules seed ticks).tick =
        (.frame (Frame.ofProgram config (ticks + 1) program),
          atDepth config rules seed (ticks + 1) program) := by
  obtain ⟨program, derived, fits⟩ := good (ticks + 1) (by omega) (by omega)
  have goodBefore : ∀ depth, 0 < depth → depth ≤ ticks →
      IsGoodDepth config rules seed depth :=
    fun depth positive depthLe => good depth positive (by omega)
  obtain ⟨previous, derivedPrevious, atPrevious⟩ :=
    ticked_of_good goodBefore
  obtain ⟨between, derivedBetween, stepped⟩ :=
    RuleSet.exists_derive_of_derive_succ derived
  have betweenEq : between = previous := by
    rw [derivedPrevious] at derivedBetween
    exact (Except.ok.inj derivedBetween).symm
  subst betweenEq
  refine ⟨between, program, derivedPrevious, derived, stepped, ?_, ?_⟩
  · rw [atPrevious]
    rfl
  · rw [atPrevious, tick_atDepth derived fits]

theorem tick_atDepth_of_bad {depth : Nat} {previous : Text}
    (derivedPrevious : rules.derive config.growthLimit depth seed =
      .ok previous)
    (bad : ¬ IsGoodDepth config rules seed (depth + 1)) :
    ∃ halt program,
      HaltsWith config rules seed (depth + 1) halt program ∧
      (atDepth config rules seed depth previous).tick =
        (.halt halt,
          { config, seed, rules, depth := depth + 1, phase := .halted halt,
            program }) := by
  have going : (atDepth config rules seed depth previous).halt? = none :=
    halt?_atDepth depth previous
  cases derived : rules.derive config.growthLimit (depth + 1) seed with
  | error stop =>
      have stopEq := RuleSet.limit_of_derive_eq_error derived
      subst stopEq
      exact ⟨_, previous, .growth derived derivedPrevious,
        tick_of_growth going derived⟩
  | ok program =>
      have overflows : config.segmentCap < program.count 'f' := by
        by_contra fits
        exact bad ⟨program, derived, by omega⟩
      exact ⟨_, program, .displayOverflow derived overflows,
        tick_of_overflow going derived overflows⟩

/-- From the first bad depth on every tick shows the halt of that depth and
leaves the same state behind. -/
theorem tick_ticked_of_isFirstBadDepth {bad : Nat}
    (isFirst : IsFirstBadDepth config rules seed bad) :
    ∃ halt program, HaltsWith config rules seed bad halt program ∧
      ∀ ticks, bad ≤ ticks + 1 →
        (ticked config rules seed ticks).tick =
          (.halt halt,
            { config, seed, rules, depth := bad, phase := .halted halt,
              program }) := by
  obtain ⟨last, rfl⟩ : ∃ last, bad = last + 1 :=
    Nat.exists_eq_succ_of_ne_zero (Nat.pos_iff_ne_zero.mp isFirst.positive)
  have goodBefore : ∀ depth, 0 < depth → depth ≤ last →
      IsGoodDepth config rules seed depth :=
    fun depth positive depthLe =>
      isFirst.good_before depth positive (by omega)
  obtain ⟨previous, derivedPrevious, atPrevious⟩ :=
    ticked_of_good goodBefore
  obtain ⟨halt, program, haltsWith, halted⟩ :=
    tick_atDepth_of_bad derivedPrevious isFirst.bad
  refine ⟨halt, program, haltsWith, ?_⟩
  intro ticks badLe
  obtain ⟨extra, rfl⟩ : ∃ extra, ticks = last + extra :=
    ⟨ticks - last, by omega⟩
  clear badLe
  -- Later ticks start from the halted state, which they do not change.
  induction extra with
  | zero => rw [Nat.add_zero, atPrevious, halted]
  | succ extra ih => rw [← Nat.add_assoc, ticked, ih, tick_of_halted rfl]

end Depths

/-- What a tick shows after any operations.  With every depth up to the next
one good, it shows the program that is derived from the seed at that depth,
which is one step further than the program before.  Otherwise there is a first
bad depth, and every tick from it on shows the one halt of that depth and
leaves one and the same state. -/
theorem tick_after_run (config : Config) (seed : Text) (current : RuleSet) :
    (∀ rules operations, lastRules rules operations = current →
      (∀ depth, 0 < depth → depth ≤ ticksSinceRestart operations + 1 →
        IsGoodDepth config current seed depth) →
      ∃ previous program,
        current.derive config.growthLimit (ticksSinceRestart operations)
          seed = .ok previous ∧
        current.derive config.growthLimit (ticksSinceRestart operations + 1)
          seed = .ok program ∧
        current.step config.growthLimit previous = .ok program ∧
        ((start config rules seed).run operations).program = previous ∧
        ((start config rules seed).run operations).tick =
          (.frame
            { depth := ticksSinceRestart operations + 1
              program
              segments := config.turtle.draw program
              bounds := ViewBox.ofSegments? config.margin
                (config.turtle.draw program) },
            { config, seed, rules := current
              depth := ticksSinceRestart operations + 1
              phase := .running
              program })) ∧
    (∀ depth, 0 < depth → ¬ IsGoodDepth config current seed depth →
      ∃ bad ≤ depth, IsFirstBadDepth config current seed bad) ∧
    ∀ bad, IsFirstBadDepth config current seed bad →
      ∃ halt program, HaltsWith config current seed bad halt program ∧
        ∀ rules operations, lastRules rules operations = current →
          bad ≤ ticksSinceRestart operations + 1 →
          ((start config rules seed).run operations).tick =
            (.halt halt,
              { config, seed, rules := current, depth := bad,
                phase := .halted halt, program }) ∧
          (bad ≤ ticksSinceRestart operations →
            ((start config rules seed).run operations).tick.2 =
              (start config rules seed).run operations) := by
  have runEq (rules : RuleSet) (operations : List Operation)
      (last : lastRules rules operations = current) :
      (start config rules seed).run operations =
        ticked config current seed (ticksSinceRestart operations) := by
    rw [← last]
    exact run_ticked config rules seed 0 operations
  refine ⟨?_, fun depth => exists_isFirstBadDepth, ?_⟩
  · intro rules operations last good
    rw [runEq rules operations last]
    exact tick_ticked_of_good good
  · intro bad isFirst
    obtain ⟨halt, program, haltsWith, halted⟩ :=
      tick_ticked_of_isFirstBadDepth isFirst
    refine ⟨halt, program, haltsWith, ?_⟩
    intro rules operations last badLe
    rw [runEq rules operations last]
    refine ⟨halted _ badLe, ?_⟩
    intro badLeTicks
    obtain ⟨before, ticksEq⟩ :
        ∃ before, ticksSinceRestart operations = before + 1 :=
      Nat.exists_eq_succ_of_ne_zero fun noneYet => by
        have positive := isFirst.positive
        omega
    rw [ticksEq] at badLeTicks ⊢
    rw [ticked, halted before badLeTicks, tick_of_halted rfl]

/-- Doubling the segments with room for four of them halts at depth 3, where
there would be eight, however often the animation is ticked and restarted
before. -/
theorem tick_after_run_doubling :
    let config := { Config.standard with segmentCap := 4 }
    let doubling : Rule :=
      ⟨['f'], ['f', 'f'], by decide, by decide, by decide⟩
    IsFirstBadDepth config [doubling] ['f'] 3 ∧
      ((start config [] ['f']).run
        [.tick, .replaceRules [doubling], .tick, .restart, .tick, .tick,
          .tick, .tick]).tick.1 = .halt (.displayOverflow 8 4) := by
  intro config doubling
  have isFirst : IsFirstBadDepth config [doubling] ['f'] 3 := by
    refine ⟨by decide, ?_, ?_⟩
    · rintro ⟨program, derived, fits⟩
      cases derived
      exact absurd fits (by decide)
    · intro earlier positive earlierLt
      interval_cases earlier
      · exact ⟨_, rfl, by decide⟩
      · exact ⟨_, rfl, by decide⟩
  obtain ⟨halt, program, haltsWith, halted⟩ :=
    (tick_after_run config ['f'] [doubling]).2.2 3 isFirst
  have shown := (halted []
    [.tick, .replaceRules [doubling], .tick, .restart, .tick, .tick, .tick,
      .tick] rfl (by decide)).1
  refine ⟨isFirst, ?_⟩
  rw [shown]
  cases haltsWith with
  | growth stopped => cases stopped
  | displayOverflow derived =>
      cases derived
      rfl

end Animation

end TurtleSystems
