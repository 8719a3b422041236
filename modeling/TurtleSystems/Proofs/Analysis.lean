import Mathlib.Order.Bounds.Basic
import TurtleSystems.Analysis
import TurtleSystems.Proofs.Animation

/-!
# What an analysis says of a derivation

An analysis follows a derivation step by step and stops at the first depth
where a step is stopped by the growth limit or changes nothing.  An animation
derives every depth again from the seed.  Both come to the same programs: the
lengths of an analysis are those of the frames, and an animation that has room
for its drawings halts just where the analysis meets the limit.
-/

namespace TurtleSystems

namespace RuleSet

/-- The step to a depth changes nothing. -/
def RestsAt (rules : RuleSet) (limit depth : Nat) (seed : Text) : Prop :=
  0 < depth ∧ ∃ program,
    rules.derive limit (depth - 1) seed = .ok program ∧
      rules.derive limit depth seed = .ok program

/-- The byte length of the program at a depth. -/
def lengthAt (rules : RuleSet) (limit : Nat) (seed : Text) (depth : Nat) :
    Except GrowthLimitExceeded Nat :=
  (rules.derive limit depth seed).map Text.byteLength

variable {rules : RuleSet} {limit depth : Nat} {seed program : Text}

theorem RestsAt.exists_fixed (rests : rules.RestsAt limit depth seed) :
    ∃ program, rules.derive limit depth seed = .ok program ∧
      rules.step limit program = .ok program := by
  obtain ⟨positive, program, derivedPrevious, derived⟩ := rests
  obtain ⟨previous, rfl⟩ := Nat.exists_eq_succ_of_ne_zero
    (Nat.pos_iff_ne_zero.mp positive)
  have stepped := derive_succ_of_derive derivedPrevious
  exact ⟨program, derived, stepped.symm.trans derived⟩

theorem restsAt_succ_iff {next : Text}
    (derived : rules.derive limit depth seed = .ok program)
    (stepped : rules.step limit program = .ok next) :
    rules.RestsAt limit (depth + 1) seed ↔ next = program := by
  have derivedNext := (derive_succ_of_derive derived).trans stepped
  rw [RestsAt, Nat.add_sub_cancel, derived, derivedNext]
  simp [eq_comm]

/-- A derivation that rests at one depth has the same program at every greater
depth. -/
theorem RestsAt.exists_derive (rests : rules.RestsAt limit depth seed) :
    ∃ program, rules.derive limit depth seed = .ok program ∧
      ∀ deeper ≥ depth, rules.derive limit deeper seed = .ok program := by
  obtain ⟨program, derived, fixed⟩ := rests.exists_fixed
  exact ⟨program, derived, fun _ => derive_of_fixed fixed derived⟩

theorem RestsAt.derive_ne_error (rests : rules.RestsAt limit depth seed)
    (other : Nat) (stop : GrowthLimitExceeded) :
    rules.derive limit other seed ≠ .error stop := by
  obtain ⟨program, -, stays⟩ := rests.exists_derive
  intro stopped
  have reached := stays (max depth other) (Nat.le_max_left depth other)
  rw [derive_eq_error_of_le (Nat.le_max_right depth other) stopped] at reached
  cases reached

theorem exists_isLeast_of_stopped
    (stopped : rules.derive limit depth seed = .error ⟨limit⟩) :
    ∃ first ≤ depth,
      IsLeast {depth | rules.derive limit depth seed = .error ⟨limit⟩}
        first := by
  classical
  have someStopped : ∃ depth,
      rules.derive limit depth seed = .error ⟨limit⟩ := ⟨depth, stopped⟩
  exact ⟨Nat.find someStopped, Nat.find_min' someStopped stopped,
    Nat.isLeast_find someStopped⟩

theorem isLeast_stopped_succ {stop : GrowthLimitExceeded}
    (derived : rules.derive limit depth seed = .ok program)
    (stopped : rules.step limit program = .error stop) :
    IsLeast {depth | rules.derive limit depth seed = .error ⟨limit⟩}
      (depth + 1) := by
  obtain rfl := limit_of_step_eq_error stopped
  refine ⟨(derive_succ_of_derive derived).trans stopped, ?_⟩
  intro other otherStopped
  by_contra otherLt
  have otherLe : other ≤ depth := by omega
  cases derived.symm.trans (derive_eq_error_of_le otherLe otherStopped)

theorem lengthAt_of_derive
    (derived : rules.derive limit depth seed = .ok program) :
    rules.lengthAt limit seed depth = .ok (Text.byteLength program) := by
  simp [lengthAt, derived, Except.map]

theorem exists_derive_of_lengthAt {length : Nat}
    (measured : rules.lengthAt limit seed depth = .ok length) :
    ∃ program, rules.derive limit depth seed = .ok program ∧
      Text.byteLength program = length := by
  cases derived : rules.derive limit depth seed with
  | error stop =>
      rw [lengthAt, derived] at measured
      cases measured
  | ok program =>
      rw [lengthAt_of_derive derived, Except.ok.injEq] at measured
      exact ⟨program, rfl, measured⟩

end RuleSet

/-- The number of programs that are seen when a derivation of at most `bound`
steps behaves like this. -/
def Growth.programs (bound : Nat) : Growth → Nat
  | .growing => bound + 1
  | .fixedPoint depth => depth + 1
  | .limitExceeded depth => depth

namespace Analysis

variable {rules : RuleSet} {limit bound depth : Nat} {seed program : Text}
variable {growth : Growth} {lengths : List Nat}

/-- How a derivation behaves up to a bound. -/
inductive Behaves (rules : RuleSet) (limit bound : Nat) (seed : Text) :
    Growth → Prop where
  | growing
      (derives : ∀ depth ≤ bound, ∃ program,
        rules.derive limit depth seed = .ok program)
      (changes : ∀ depth ≤ bound, ¬ rules.RestsAt limit depth seed) :
      Behaves rules limit bound seed .growing
  | fixedPoint {depth : Nat} (depthLe : depth ≤ bound)
      (first : IsLeast {depth | rules.RestsAt limit depth seed} depth) :
      Behaves rules limit bound seed (.fixedPoint depth)
  | limitExceeded {depth : Nat} (depthLe : depth ≤ bound)
      (first : IsLeast
        {depth | rules.derive limit depth seed = .error ⟨limit⟩} depth) :
      Behaves rules limit bound seed (.limitExceeded depth)

section Behaviour

theorem Behaves.growth_eq_limitExceeded_iff
    (behaves : Behaves rules limit bound seed growth) :
    growth = .limitExceeded depth ↔
      depth ≤ bound ∧ IsLeast
        {depth | rules.derive limit depth seed = .error ⟨limit⟩} depth := by
  cases behaves with
  | growing derives changes =>
      simp only [reduceCtorEq, false_iff, not_and]
      intro depthLe first
      obtain ⟨program, derived⟩ := derives depth depthLe
      have stopped : rules.derive limit depth seed = .error ⟨limit⟩ := first.1
      rw [derived] at stopped
      cases stopped
  | fixedPoint _ rests =>
      simp only [reduceCtorEq, false_iff, not_and]
      intro _ first
      exact rests.1.derive_ne_error depth ⟨limit⟩ first.1
  | limitExceeded foundLe found =>
      rw [Growth.limitExceeded.injEq]
      constructor
      · rintro rfl
        exact ⟨foundLe, found⟩
      · rintro ⟨-, first⟩
        exact found.unique first

theorem Behaves.growth_eq_fixedPoint_iff
    (behaves : Behaves rules limit bound seed growth) :
    growth = .fixedPoint depth ↔
      depth ≤ bound ∧
        IsLeast {depth | rules.RestsAt limit depth seed} depth := by
  cases behaves with
  | growing derives changes =>
      simp only [reduceCtorEq, false_iff, not_and]
      intro depthLe first
      exact changes depth depthLe first.1
  | fixedPoint foundLe found =>
      rw [Growth.fixedPoint.injEq]
      constructor
      · rintro rfl
        exact ⟨foundLe, found⟩
      · rintro ⟨-, first⟩
        exact found.unique first
  | limitExceeded _ stops =>
      simp only [reduceCtorEq, false_iff, not_and]
      intro _ first
      exact first.1.derive_ne_error _ ⟨limit⟩ stops.1

theorem Behaves.growth_eq_growing_iff
    (behaves : Behaves rules limit bound seed growth) :
    growth = .growing ↔
      ∀ depth ≤ bound,
        rules.derive limit depth seed ≠ .error ⟨limit⟩ ∧
          ¬ rules.RestsAt limit depth seed := by
  cases behaves with
  | growing derives changes =>
      simp only [true_iff]
      intro depth depthLe
      obtain ⟨program, derived⟩ := derives depth depthLe
      exact ⟨by simp [derived], changes depth depthLe⟩
  | fixedPoint foundLe found =>
      simp only [reduceCtorEq, false_iff]
      intro neither
      exact (neither _ foundLe).2 found.1
  | limitExceeded foundLe found =>
      simp only [reduceCtorEq, false_iff]
      intro neither
      exact (neither _ foundLe).1 found.1

theorem Behaves.programs_le (behaves : Behaves rules limit bound seed growth) :
    growth.programs bound ≤ bound + 1 := by
  cases behaves with
  | growing => exact Nat.le_refl _
  | fixedPoint depthLe => exact Nat.succ_le_succ depthLe
  | limitExceeded depthLe => exact Nat.le_succ_of_le depthLe

end Behaviour

section Following

/-- The lengths of the first programs of a derivation. -/
def Measures (rules : RuleSet) (limit : Nat) (seed : Text) (count : Nat)
    (lengths : List Nat) : Prop :=
  lengths.map .ok = (List.range count).map (rules.lengthAt limit seed)

theorem Measures.concat {count : Nat}
    (measures : Measures rules limit seed count lengths)
    (derived : rules.derive limit count seed = .ok program) :
    Measures rules limit seed (count + 1)
      (lengths ++ [Text.byteLength program]) := by
  rw [Measures] at measures ⊢
  rw [List.map_append, measures, List.range_succ, List.map_append,
    List.map_singleton, List.map_singleton,
    RuleSet.lengthAt_of_derive derived]

/-- From a program that the derivation has reached, at a depth before which it
never rested, the analysis finds out how the derivation behaves. -/
theorem follow_behaves (steps : Nat)
    (derived : rules.derive limit depth seed = .ok program)
    (changes : ∀ earlier ≤ depth, ¬ rules.RestsAt limit earlier seed)
    (measures : Measures rules limit seed (depth + 1) lengths.reverse) :
    ∃ growth found,
      follow rules limit steps depth program lengths = (growth, found) ∧
        Behaves rules limit (depth + steps) seed growth ∧
        Measures rules limit seed (growth.programs (depth + steps)) found := by
  induction steps generalizing depth program lengths with
  | zero =>
      refine ⟨_, _, rfl, .growing ?_ changes, measures⟩
      intro earlier earlierLe
      exact RuleSet.exists_derive_of_le earlierLe derived
  | succ steps ih =>
      have boundEq : depth + (steps + 1) = depth + 1 + steps := by omega
      rw [follow, boundEq]
      cases stepped : rules.step limit program with
      | error stop =>
          have first := RuleSet.isLeast_stopped_succ derived stepped
          exact ⟨_, _, rfl, .limitExceeded (by omega) first, measures⟩
      | ok next =>
          have derivedNext : rules.derive limit (depth + 1) seed =
              .ok next := (RuleSet.derive_succ_of_derive derived).trans stepped
          have measuresNext := measures.concat derivedNext
          have restsIff := RuleSet.restsAt_succ_iff derived stepped
          rw [← List.reverse_cons] at measuresNext
          by_cases same : next = program
          · simp only [same, if_true] at measuresNext ⊢
            refine ⟨_, _, rfl, .fixedPoint (by omega)
              ⟨restsIff.mpr same, ?_⟩, measuresNext⟩
            intro other otherRests
            by_contra otherLt
            exact changes other (by omega) otherRests
          · have changesNext : ∀ earlier ≤ depth + 1,
                ¬ rules.RestsAt limit earlier seed := by
              intro earlier earlierLe rests
              rcases Nat.le_succ_iff.mp earlierLe with earlierLe | rfl
              · exact changes earlier earlierLe rests
              · exact same (restsIff.mp rests)
            simp only [same, if_false]
            exact ih derivedNext changesNext measuresNext

theorem make_behaves (rules : RuleSet) (limit bound : Nat) (seed : Text) :
    Behaves rules limit bound seed (make rules limit bound seed).growth ∧
      Measures rules limit seed
        ((make rules limit bound seed).growth.programs bound)
        (make rules limit bound seed).lengths := by
  have derived : rules.derive limit 0 seed = .ok seed := rfl
  have changes : ∀ earlier ≤ 0, ¬ rules.RestsAt limit earlier seed := by
    intro earlier earlierLe rests
    exact absurd rests.1 (by omega)
  have measures : Measures rules limit seed 1
      [Text.byteLength seed].reverse := rfl
  obtain ⟨growth, found, followed, behaves, measured⟩ :=
    follow_behaves bound derived changes measures
  have growthEq : (make rules limit bound seed).growth = growth :=
    congrArg Prod.fst followed
  have lengthsEq : (make rules limit bound seed).lengths = found :=
    congrArg Prod.snd followed
  rw [Nat.zero_add] at behaves measured
  rw [growthEq, lengthsEq]
  exact ⟨behaves, measured⟩

end Following

section Reporting

/-- What an analysis has to say of a derivation up to a bound. -/
structure Reports (rules : RuleSet) (limit bound : Nat) (seed : Text)
    (analysis : Analysis) : Prop where
  limitExceeded_iff : ∀ depth, analysis.growth = .limitExceeded depth ↔
    depth ≤ bound ∧
      IsLeast {depth | rules.derive limit depth seed = .error ⟨limit⟩} depth
  fixedPoint_iff : ∀ depth, analysis.growth = .fixedPoint depth ↔
    depth ≤ bound ∧ IsLeast {depth | rules.RestsAt limit depth seed} depth
  rests : ∀ depth, analysis.growth = .fixedPoint depth →
    ∃ program, ∀ deeper ≥ depth,
      rules.derive limit deeper seed = .ok program
  growing_iff : analysis.growth = .growing ↔
    ∀ depth ≤ bound, rules.derive limit depth seed ≠ .error ⟨limit⟩ ∧
      ¬ rules.RestsAt limit depth seed
  measures : Measures rules limit seed (analysis.growth.programs bound)
    analysis.lengths

theorem make_reports (rules : RuleSet) (limit bound : Nat) (seed : Text) :
    Reports rules limit bound seed (make rules limit bound seed) := by
  obtain ⟨behaves, measures⟩ := make_behaves rules limit bound seed
  refine ⟨?_, ?_, ?_, behaves.growth_eq_growing_iff, measures⟩
  · intro depth
    exact behaves.growth_eq_limitExceeded_iff
  · intro depth
    exact behaves.growth_eq_fixedPoint_iff
  · intro depth found
    obtain ⟨-, first⟩ := behaves.growth_eq_fixedPoint_iff.mp found
    obtain ⟨program, -, stays⟩ := first.1.exists_derive
    exact ⟨program, stays⟩

theorem Measures.exists_derive {count length : Nat}
    (measures : Measures rules limit seed count lengths)
    (found : lengths[depth]? = some length) :
    depth < count ∧ ∃ program, rules.derive limit depth seed = .ok program ∧
      Text.byteLength program = length := by
  have entries := congrArg (·[depth]?) measures
  simp only [List.getElem?_map, found, Option.map_some] at entries
  by_cases within : depth < count
  · rw [List.getElem?_range within, Option.map_some, Option.some.injEq]
      at entries
    exact ⟨within, RuleSet.exists_derive_of_lengthAt entries.symm⟩
  · rw [List.getElem?_eq_none (by simpa using within)] at entries
    cases entries

end Reporting

section Animations

open Animation

/-- No program up to a depth draws more segments than may be shown. -/
def FitsUpTo (config : Config) (rules : RuleSet) (seed : Text)
    (bound : Nat) : Prop :=
  ∀ depth program, 0 < depth → depth ≤ bound →
    rules.derive config.growthLimit depth seed = .ok program →
      (config.turtle.draw program).length ≤ config.segmentCap

/-- What an analysis up to a bound says of an animation after some ticks. -/
structure Foretells (analysis : Analysis) (bound : Nat)
    (animation : Animation) (ticks : Nat) : Prop where
  frame : ∀ length, analysis.lengths[ticks + 1]? = some length →
    ∃ frame, animation.tick.1 = .frame frame ∧ frame.depth = ticks + 1 ∧
      Text.byteLength frame.program = length
  isHalted_iff : ticks ≤ bound → (animation.isHalted = true ↔
    ∃ depth ≤ ticks, analysis.growth = .limitExceeded depth)
  halted : ∀ depth ≤ ticks, analysis.growth = .limitExceeded depth →
    animation.depth = depth ∧
      animation.phase = .halted (.growth ⟨animation.config.growthLimit⟩)

variable {config : Config} {ticks : Nat}

theorem FitsUpTo.isGoodDepth {reached : Nat}
    (fits : FitsUpTo config rules seed bound) (reachedLe : reached ≤ bound)
    (derived : rules.derive config.growthLimit reached seed = .ok program) :
    ∀ depth, 0 < depth → depth ≤ reached →
      IsGoodDepth config rules seed depth := by
  intro depth positive depthLe
  obtain ⟨shown, derivedShown⟩ :=
    RuleSet.exists_derive_of_le depthLe derived
  have shownFits := fits depth shown positive
    (Nat.le_trans depthLe reachedLe) derivedShown
  rw [Turtle.length_draw] at shownFits
  exact ⟨shown, derivedShown, shownFits⟩

theorem FitsUpTo.isFirstBadDepth (fits : FitsUpTo config rules seed bound)
    (depthLe : depth ≤ bound)
    (first : IsLeast {depth | rules.derive config.growthLimit depth seed =
      .error ⟨config.growthLimit⟩} depth) :
    IsFirstBadDepth config rules seed depth := by
  have stopped : rules.derive config.growthLimit depth seed =
      .error ⟨config.growthLimit⟩ := first.1
  refine ⟨?_, ?_, ?_⟩
  · rw [Nat.pos_iff_ne_zero]
    rintro rfl
    cases stopped
  · rintro ⟨program, derived, -⟩
    cases derived.symm.trans stopped
  · intro earlier positive earlierLt
    cases derived : rules.derive config.growthLimit earlier seed with
    | ok program =>
        exact fits.isGoodDepth (by omega) derived earlier positive
          (Nat.le_refl earlier)
    | error stop =>
        obtain rfl := RuleSet.limit_of_derive_eq_error derived
        have depthLeEarlier : depth ≤ earlier := first.2 derived
        omega

/-- The first depth at which the derivation is stopped is where the animation
stays halted. -/
theorem FitsUpTo.ticked_of_isLeast (fits : FitsUpTo config rules seed bound)
    (depthLe : depth ≤ bound)
    (first : IsLeast {depth | rules.derive config.growthLimit depth seed =
      .error ⟨config.growthLimit⟩} depth) (reached : depth ≤ ticks) :
    (ticked config rules seed ticks).depth = depth ∧
      (ticked config rules seed ticks).phase =
        .halted (.growth ⟨config.growthLimit⟩) := by
  have isFirst := fits.isFirstBadDepth depthLe first
  obtain ⟨halt, program, haltsWith, halted⟩ :=
    tick_ticked_of_isFirstBadDepth isFirst
  have positive := isFirst.positive
  obtain ⟨before, rfl⟩ : ∃ before, ticks = before + 1 :=
    Nat.exists_eq_succ_of_ne_zero (by omega)
  rw [ticked, halted before reached]
  cases haltsWith with
  | growth => exact ⟨rfl, rfl⟩
  | displayOverflow derived => cases derived.symm.trans first.1

theorem FitsUpTo.not_isHalted_of_derive
    (fits : FitsUpTo config rules seed bound) (ticksLe : ticks ≤ bound)
    (derived : rules.derive config.growthLimit ticks seed = .ok program) :
    (ticked config rules seed ticks).isHalted = false := by
  obtain ⟨shown, -, atDepth⟩ :=
    ticked_of_good (fits.isGoodDepth ticksLe derived)
  rw [atDepth, isHalted, halt?_atDepth]
  rfl

theorem FitsUpTo.foretells_ticked (fits : FitsUpTo config rules seed bound)
    (ticks : Nat) :
    Foretells (make rules config.growthLimit bound seed) bound
      (ticked config rules seed ticks) ticks := by
  have reports := make_reports rules config.growthLimit bound seed
  have behaves := (make_behaves rules config.growthLimit bound seed).1
  have configEq := (ticked_keeps config rules seed ticks).1
  refine ⟨?_, ?_, ?_⟩
  · intro length found
    obtain ⟨within, program, derived, lengthEq⟩ :=
      reports.measures.exists_derive found
    have covered := behaves.programs_le
    obtain ⟨previous, shown, -, derivedShown, -, -, tickedEq⟩ :=
      tick_ticked_of_good (fits.isGoodDepth (by omega) derived)
    rw [derived, Except.ok.injEq] at derivedShown
    subst derivedShown
    refine ⟨_, congrArg Prod.fst tickedEq, rfl, lengthEq⟩
  · intro ticksLe
    constructor
    · intro halted
      cases derived : rules.derive config.growthLimit ticks seed with
      | ok program =>
          rw [fits.not_isHalted_of_derive ticksLe derived] at halted
          cases halted
      | error stop =>
          obtain rfl := RuleSet.limit_of_derive_eq_error derived
          obtain ⟨first, firstLe, isFirst⟩ :=
            RuleSet.exists_isLeast_of_stopped derived
          exact ⟨first, firstLe, (reports.limitExceeded_iff first).mpr
            ⟨Nat.le_trans firstLe ticksLe, isFirst⟩⟩
    · rintro ⟨depth, reached, found⟩
      obtain ⟨depthLe, first⟩ := (reports.limitExceeded_iff depth).mp found
      obtain ⟨-, halted⟩ := fits.ticked_of_isLeast depthLe first reached
      simp only [isHalted, halt?, halted, Option.isSome_some]
  · intro depth reached found
    obtain ⟨depthLe, first⟩ := (reports.limitExceeded_iff depth).mp found
    rw [configEq]
    exact fits.ticked_of_isLeast depthLe first reached

/-- An analysis reports what the derivation does, and an animation with the
same rules, seed and limit and with room for its drawings does as the analysis
says, whatever was done to the animation before it was last restarted. -/
theorem make_reports_and_foretells (rules : RuleSet) (limit bound : Nat)
    (seed : Text) :
    Reports rules limit bound seed (make rules limit bound seed) ∧
      ∀ config, config.growthLimit = limit →
        FitsUpTo config rules seed bound →
          ∀ initial operations, lastRules initial operations = rules →
            Foretells (make rules limit bound seed) bound
              ((start config initial seed).run operations)
              (ticksSinceRestart operations) := by
  refine ⟨make_reports rules limit bound seed, ?_⟩
  rintro config rfl fits initial operations rfl
  have runEq : (start config initial seed).run operations =
      ticked config (lastRules initial operations) seed
        (ticksSinceRestart operations) :=
    run_ticked config initial seed 0 operations
  rw [runEq]
  exact fits.foretells_ticked (ticksSinceRestart operations)

/-- Sprouting with a limit of four is stopped at depth 4.  An animation that
was restarted shows seven segments between eight moves at depth 3 and halts
with the tick after that. -/
theorem make_reports_and_foretells_sprouting :
    let config := { Config.standard with growthLimit := 4 }
    let operations : List Operation :=
      [.tick, .replaceRules [.sprouting], .tick, .restart, .tick, .tick]
    let animation := (start config [] ['g']).run operations
    (make [.sprouting] 4 10 ['g']).growth = .limitExceeded 4 ∧
      (make [.sprouting] 4 10 ['g']).lengths = [1, 3, 7, 15] ∧
      (∃ frame, animation.tick.1 = .frame frame ∧ frame.depth = 3 ∧
        Text.byteLength frame.program = 15) ∧
      (animation.run [.tick, .tick]).isHalted = true := by
  intro config operations animation
  have fits : FitsUpTo config [.sprouting] ['g'] 10 := by
    intro depth program positive depthLe derived
    rw [Turtle.length_draw]
    interval_cases depth <;> cases derived <;> decide
  have found : (make [.sprouting] 4 10 ['g']).growth = .limitExceeded 4 := rfl
  have foretells := (make_reports_and_foretells [.sprouting] 4 10 ['g']).2
    config rfl fits []
  have shown := (foretells operations rfl).frame 15 rfl
  have halts := (foretells (operations ++ [.tick, .tick]) rfl).isHalted_iff
    (by decide)
  refine ⟨found, rfl, shown, ?_⟩
  rw [Animation.run, List.foldl_append] at halts
  exact halts.mpr ⟨4, by decide, found⟩

end Animations

end Analysis

end TurtleSystems
