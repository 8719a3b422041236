import TurtleSystems.CommandLine.Session
import TurtleSystems.Proofs.Animation
import TurtleSystems.Proofs.Origin

/-!
# What the command line draws

A drawing is the last frame of an animation that is ticked up to a depth, so
each depth on the way has to be good, and the first one that is not is where
the run ends.  Depth 0 is drawn without a tick: nothing compares the segments
of the seed with the number that may be shown.
-/

namespace TurtleSystems.CommandLine

open Animation (IsGoodDepth IsFirstBadDepth HaltsWith ticked)

section Advancing

variable {config : Config} {rules : RuleSet} {seed : Text}

/-- At a good depth a run takes the frame there and goes on. -/
theorem exists_advance_succ (name : Text) {ticks : Nat}
    (good : ∀ depth, 0 < depth → depth ≤ ticks + 1 →
      IsGoodDepth config rules seed depth) :
    ∃ program,
      rules.derive config.growthLimit (ticks + 1) seed = .ok program ∧
      ∀ remaining last passed,
        advance name (remaining + 1) (ticked config rules seed ticks) last
            passed =
          advance name remaining (ticked config rules seed (ticks + 1))
            (some (Frame.ofProgram config (ticks + 1) program))
            (Progress.ofFrame (Frame.ofProgram config (ticks + 1) program) ::
              passed) := by
  obtain ⟨-, program, -, derived, -, -, shown⟩ :=
    Animation.tick_ticked_of_good good
  have afterEq : ticked config rules seed (ticks + 1) =
      Animation.atDepth config rules seed (ticks + 1) program := by
    rw [ticked, shown]
  refine ⟨program, derived, ?_⟩
  intro remaining last passed
  rw [advance, shown, afterEq]

/-- Over good depths a run keeps the frame of the depth that it has come to,
which is that of the seed as long as there was no tick. -/
theorem exists_advance_of_good (name : Text) (last : Option Frame)
    (passed : List Progress) {remaining ticks : Nat} {program : Text}
    (good : ∀ depth, 0 < depth → depth ≤ ticks + remaining →
      IsGoodDepth config rules seed depth)
    (derived : rules.derive config.growthLimit ticks seed = .ok program)
    (kept : last.getD (Frame.ofProgram config 0 seed) =
      Frame.ofProgram config ticks program) :
    ∃ reached,
      rules.derive config.growthLimit (ticks + remaining) seed =
        .ok reached ∧
      (advance name remaining (ticked config rules seed ticks) last
          passed).2.map (·.getD (Frame.ofProgram config 0 seed)) =
        .ok (Frame.ofProgram config (ticks + remaining) reached) := by
  induction remaining generalizing ticks last passed program with
  | zero => exact ⟨program, derived, congrArg Except.ok kept⟩
  | succ remaining ih =>
      have goodNext : ∀ depth, 0 < depth → depth ≤ ticks + 1 →
          IsGoodDepth config rules seed depth :=
        fun depth positive depthLe => good depth positive (by omega)
      obtain ⟨next, nextDerived, advanceEq⟩ :=
        exists_advance_succ name goodNext
      have depthEq : ticks + (remaining + 1) = ticks + 1 + remaining := by
        omega
      rw [advanceEq, depthEq]
      apply ih _ _ _ nextDerived rfl
      intro depth positive depthLe
      exact good depth positive (by omega)

/-- A run ends with the halt of the first bad depth on its way. -/
theorem exists_advance_of_isFirstBadDepth (name : Text)
    (last : Option Frame) (passed : List Progress)
    {remaining ticks bad : Nat}
    (isFirst : IsFirstBadDepth config rules seed bad)
    (ticksLt : ticks < bad) (badLe : bad ≤ ticks + remaining) :
    ∃ halt program, HaltsWith config rules seed bad halt program ∧
      (advance name remaining (ticked config rules seed ticks) last
        passed).2 = .error (.halted name bad halt) := by
  obtain ⟨halt, program, haltsWith, halted⟩ :=
    Animation.tick_ticked_of_isFirstBadDepth isFirst
  refine ⟨halt, program, haltsWith, ?_⟩
  induction remaining generalizing ticks last passed with
  | zero => omega
  | succ remaining ih =>
      by_cases reached : bad = ticks + 1
      · rw [advance, halted ticks reached.le]
      · have goodNext : ∀ depth, 0 < depth → depth ≤ ticks + 1 →
            IsGoodDepth config rules seed depth :=
          fun depth positive depthLe =>
            isFirst.good_before depth positive (by omega)
        obtain ⟨next, -, advanceEq⟩ := exists_advance_succ name goodNext
        rw [advanceEq]
        exact ih _ _ (by omega) (by omega)

end Advancing

section Drawing

variable {origin : Origin} {config : Config} {depth : Nat}

theorem exists_drawOrigin_of_good
    (good : ∀ earlier, 0 < earlier → earlier ≤ depth →
      IsGoodDepth config origin.rules origin.seed earlier) :
    ∃ program,
      origin.rules.derive config.growthLimit depth origin.seed =
        .ok program ∧
      (drawOrigin origin config depth).2 =
        .ok (Frame.ofProgram config depth program) := by
  have good : ∀ earlier, 0 < earlier → earlier ≤ 0 + depth →
      IsGoodDepth config origin.rules origin.seed earlier := by
    simpa using good
  have drawn :=
    exists_advance_of_good origin.name none [] good rfl rfl
  rwa [Nat.zero_add] at drawn

theorem exists_drawOrigin_of_isFirstBadDepth {bad : Nat}
    (isFirst : IsFirstBadDepth config origin.rules origin.seed bad)
    (badLe : bad ≤ depth) :
    ∃ halt program,
      HaltsWith config origin.rules origin.seed bad halt program ∧
      (drawOrigin origin config depth).2 =
        .error (.halted origin.name bad halt) := by
  have badLe : bad ≤ 0 + depth := by omega
  obtain ⟨halt, program, haltsWith, ended⟩ :=
    exists_advance_of_isFirstBadDepth origin.name none [] isFirst
      isFirst.positive badLe
  refine ⟨halt, program, haltsWith, ?_⟩
  change (advance _ _ (ticked _ _ _ 0) _ _).2.map _ = _
  rw [ended]
  rfl

/-- An origin is drawn if all depths from 1 on are good. -/
theorem exists_drawOrigin_iff :
    (∃ frame, (drawOrigin origin config depth).2 = .ok frame) ↔
      ∀ earlier, 0 < earlier → earlier ≤ depth →
        IsGoodDepth config origin.rules origin.seed earlier := by
  constructor
  · rintro ⟨frame, drawn⟩ earlier positive earlierLe
    by_contra bad
    obtain ⟨first, firstLe, isFirst⟩ :=
      Animation.exists_isFirstBadDepth positive bad
    obtain ⟨halt, program, -, ended⟩ :=
      exists_drawOrigin_of_isFirstBadDepth isFirst (firstLe.trans earlierLe)
    rw [ended] at drawn
    cases drawn
  · intro good
    obtain ⟨program, -, drawn⟩ := exists_drawOrigin_of_good good
    exact ⟨_, drawn⟩

/-- A drawing is the frame of the depth that was asked for.  It comes to be
just if all depths from 1 on are good, and otherwise the run ends with the halt
of the first bad one.  The number of segments that may be shown is kept at
every depth but 0, and there if the seed does not draw more. -/
theorem frame_of_drawOrigin (origin : Origin) (config : Config)
    (depth : Nat) :
    ((∃ frame, (drawOrigin origin config depth).2 = .ok frame) ↔
      ∀ earlier, 0 < earlier → earlier ≤ depth →
        IsGoodDepth config origin.rules origin.seed earlier) ∧
    (∀ frame, (drawOrigin origin config depth).2 = .ok frame →
      frame.depth = depth ∧
      origin.rules.derive config.growthLimit depth origin.seed =
        .ok frame.program ∧
      frame.segments = config.turtle.draw frame.program ∧
      (frame.segments.length ≤ config.segmentCap ↔
        0 < depth ∨ origin.seed.count 'f' ≤ config.segmentCap)) ∧
    ∀ bad ≤ depth, IsFirstBadDepth config origin.rules origin.seed bad →
      ∃ halt program,
        HaltsWith config origin.rules origin.seed bad halt program ∧
        (drawOrigin origin config depth).2 =
          .error (.halted origin.name bad halt) := by
  refine ⟨exists_drawOrigin_iff, ?_, ?_⟩
  · intro frame drawn
    have good := exists_drawOrigin_iff.mp ⟨frame, drawn⟩
    obtain ⟨program, derived, drawnEq⟩ := exists_drawOrigin_of_good good
    rw [drawnEq] at drawn
    cases drawn
    refine ⟨rfl, derived, rfl, ?_⟩
    change (config.turtle.draw program).length ≤ config.segmentCap ↔ _
    rw [Turtle.length_draw]
    cases depth with
    | zero =>
        cases derived
        simp
    | succ depth =>
        obtain ⟨reached, reachedDerived, fits⟩ :=
          good (depth + 1) (Nat.succ_pos depth) (Nat.le_refl _)
        rw [derived] at reachedDerived
        cases reachedDerived
        simpa using fits
  · intro bad badLe isFirst
    exact exists_drawOrigin_of_isFirstBadDepth isFirst badLe

/-- One segment that is doubled in each step. -/
def doublingSegment : Origin where
  name := Origin.customName
  seed := ['f']
  rules := Origin.doubling

/-- Where four segments may be shown, doubling is drawn at depth 2 with all of
them, and at depth 5 the run ends with the halt of depth 3. -/
theorem frame_of_drawOrigin_doubling :
    let config := { Config.standard with segmentCap := 4 }
    (∃ frame, (drawOrigin doublingSegment config 2).2 = .ok frame ∧
      frame.depth = 2 ∧ frame.program = ['f', 'f', 'f', 'f'] ∧
      frame.segments.length ≤ 4) ∧
    (drawOrigin doublingSegment config 5).2 =
      .error (.halted Origin.customName 3 (.displayOverflow 8 4)) := by
  intro config
  have good : ∀ earlier, 0 < earlier → earlier ≤ 2 →
      IsGoodDepth config doublingSegment.rules doublingSegment.seed
        earlier := by
    intro earlier positive earlierLe
    interval_cases earlier
    · exact ⟨_, rfl, by decide⟩
    · exact ⟨_, rfl, by decide⟩
  have isFirst : IsFirstBadDepth config doublingSegment.rules
      doublingSegment.seed 3 := by
    refine ⟨by decide, ?_, ?_⟩
    · rintro ⟨program, derived, fits⟩
      cases derived
      exact absurd fits (by decide)
    · intro earlier positive earlierLt
      exact good earlier positive (by omega)
  constructor
  · obtain ⟨drawnIff, frames, -⟩ :=
      frame_of_drawOrigin doublingSegment config 2
    obtain ⟨frame, drawn⟩ := drawnIff.mpr good
    obtain ⟨depthEq, derived, -, fitsIff⟩ := frames frame drawn
    refine ⟨frame, drawn, depthEq, ?_, fitsIff.mpr (.inl (by decide))⟩
    exact (Except.ok.inj derived).symm
  · obtain ⟨halt, program, haltsWith, ended⟩ :=
      (frame_of_drawOrigin doublingSegment config 5).2.2 3 (by decide) isFirst
    rw [ended]
    cases haltsWith with
    | growth stopped => cases stopped
    | displayOverflow derived =>
        cases derived
        rfl

/-- Two segments are drawn at depth 0 where only one may be shown. -/
theorem exists_frame_above_cap :
    let config := { Config.standard with segmentCap := 1 }
    let origin := { doublingSegment with seed := ['f', 'f'] }
    config.validate = .ok () ∧
      ∃ frame, (drawOrigin origin config 0).2 = .ok frame ∧
        frame.segments.length = 2 ∧ config.segmentCap < 2 := by
  intro config origin
  have accepted : config.validate = .ok () := by decide +kernel
  refine ⟨accepted, Frame.ofProgram config 0 origin.seed, rfl, ?_, by decide⟩
  exact config.turtle.length_draw origin.seed

end Drawing

end TurtleSystems.CommandLine
