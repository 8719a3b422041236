import TurtleSystems.Proofs.Terminal.Reachable

/-!
# The frame that is shown

The application keeps the last frame that its animation gave.  While the
animation goes on, this is the picture of its program.  An animation that is
halted has tried one depth too many, and the frame is the one of the depth
before.  There is no frame at the seed.
-/

namespace TurtleSystems

/-- The frame that a tick shows, if it shows one. -/
def Tick.frame? : Tick → Option Frame
  | .frame shown => some shown
  | .halt _ => none

/-- What there is to see at a depth: nothing at the seed, and the picture of
the program further on.  The picture is not too large to be shown. -/
inductive Pictures (config : Config) (rules : RuleSet) (seed : Text) :
    Nat → Option Frame → Prop where
  | seed : Pictures config rules seed 0 none
  | drawn {depth : Nat} {program : Text}
      (derived : rules.derive config.growthLimit (depth + 1) seed =
        .ok program)
      (fits : program.count 'f' ≤ config.segmentCap) :
      Pictures config rules seed (depth + 1)
        (some (Frame.ofProgram config (depth + 1) program))

/-- A frame is that of the last good depth of an animation. -/
inductive InStep (config : Config) : Animation → Option Frame → Prop where
  | going {rules : RuleSet} {seed program : Text} {depth : Nat}
      {frame : Option Frame}
      (derived : rules.derive config.growthLimit depth seed = .ok program)
      (pictures : Pictures config rules seed depth frame) :
      InStep config (Animation.atDepth config rules seed depth program) frame
  | halted {rules : RuleSet} {seed program : Text} {depth : Nat}
      {frame : Option Frame} {halt : Halt}
      (pictures : Pictures config rules seed depth frame) :
      InStep config
        { config, seed, rules, depth := depth + 1, phase := .halted halt,
          program } frame

section Frames

variable {config : Config} {rules : RuleSet} {seed : Text} {depth : Nat}
variable {shown : Option Frame} {frame : Frame} {animation : Animation}

theorem Pictures.eq_none_iff
    (pictures : Pictures config rules seed depth shown) :
    shown = none ↔ depth = 0 := by
  cases pictures with
  | seed => simp
  | drawn => simp

theorem Pictures.exists_program
    (pictures : Pictures config rules seed depth (some frame)) :
    ∃ program, rules.derive config.growthLimit depth seed = .ok program ∧
      program.count 'f' ≤ config.segmentCap ∧
      frame = Frame.ofProgram config depth program := by
  cases pictures with
  | drawn derived fits => exact ⟨_, derived, fits, rfl⟩

theorem InStep.start (rules : RuleSet) (seed : Text) :
    InStep config (Animation.start config rules seed) none := by
  have atSeed : rules.derive config.growthLimit 0 seed = .ok seed := rfl
  exact .going atSeed .seed

theorem InStep.config_eq (inStep : InStep config animation shown) :
    animation.config = config := by
  cases inStep <;> rfl

theorem InStep.replaceRules (inStep : InStep config animation shown)
    (rules : RuleSet) :
    InStep config (animation.replaceRules rules) none := by
  have fresh : animation.replaceRules rules =
      Animation.start animation.config rules animation.seed := rfl
  rw [fresh, inStep.config_eq]
  exact .start rules animation.seed

/-- A tick gives the next frame, or the animation is halted and the frame
stays. -/
theorem InStep.tick (inStep : InStep config animation shown) :
    InStep config animation.tick.2 (animation.tick.1.frame?.or shown) := by
  cases inStep with
  | @going rules seed previous depth shown derived pictures =>
      by_cases good : Animation.IsGoodDepth config rules seed (depth + 1)
      · obtain ⟨program, derived, fits⟩ := good
        rw [Animation.tick_atDepth derived fits]
        exact .going derived (.drawn derived fits)
      · obtain ⟨halt, program, -, ticked⟩ :=
          Animation.tick_atDepth_of_bad derived good
        -- The depth that was tried is bad, so the last good one is the depth
        -- before, of which there is a frame already.
        rw [ticked]
        exact .halted pictures
  | halted pictures =>
      rw [Animation.tick_of_halted rfl]
      exact .halted pictures

theorem InStep.of_going (inStep : InStep config animation shown)
    (going : animation.isHalted = false) :
    Pictures config animation.rules animation.seed animation.depth shown ∧
      animation.rules.derive config.growthLimit animation.depth
        animation.seed = .ok animation.program := by
  cases inStep with
  | going derived pictures => exact ⟨pictures, derived⟩
  | halted => cases going

theorem InStep.of_halted (inStep : InStep config animation shown)
    (halted : animation.isHalted = true) :
    0 < animation.depth ∧
      Pictures config animation.rules animation.seed (animation.depth - 1)
        shown := by
  cases inStep with
  | going =>
      rw [Animation.isHalted, Animation.halt?_atDepth] at halted
      cases halted
  | halted pictures => exact ⟨Nat.succ_pos _, pictures⟩

end Frames

namespace Terminal.App

variable {config : Config} {app : App}

theorem inStep_of_reachable (reachable : Reachable config app) :
    InStep config app.animation app.frame := by
  induction reachable using Reachable.invariant with
  | started app begins =>
      obtain ⟨origin, message, rfl, -⟩ := begins.exists_origin
      exact .start origin.rules origin.seed
  | effect before after reachable _ effect ih =>
      cases effect with
      | display => exact ih
      | frame ticked | halt ticked =>
          have next := ih.tick
          rw [ticked] at next
          exact next
      | restart => exact ih.replaceRules before.animation.rules
      | @found discovery => exact ih.replaceRules discovery.rules
      | edited buffer => exact ih.replaceRules (RuleSet.ofText buffer)
      | @preset index system =>
          rw [(seed_of_reachable reachable).1]
          exact .start system.rules (system.seedOr config.seed)

/-- The frame in every state is that of the last good depth.  This is the
depth of the animation while it goes on, and the one before when it is halted.
There is no frame where this is the seed, and no frame has more segments than
may be shown. -/
theorem frame_of_reachable (reachable : Reachable config app) :
    (app.animation.isHalted = false →
      (app.frame = none ↔ app.animation.depth = 0) ∧
      ∀ frame, app.frame = some frame →
        frame.depth = app.animation.depth ∧
        frame.program = app.animation.program ∧
        app.animation.rules.derive config.growthLimit frame.depth
          app.animation.seed = .ok frame.program) ∧
    (app.animation.isHalted = true →
      0 < app.animation.depth ∧
      (app.frame = none ↔ app.animation.depth = 1) ∧
      ∀ frame, app.frame = some frame →
        frame.depth = app.animation.depth - 1 ∧
        app.animation.rules.derive config.growthLimit
          (app.animation.depth - 1) app.animation.seed =
            .ok frame.program) ∧
    ∀ frame, app.frame = some frame →
      frame.segments = config.turtle.draw frame.program ∧
      frame.segments.length ≤ config.segmentCap := by
  have inStep := inStep_of_reachable reachable
  refine ⟨?_, ?_, ?_⟩
  · intro going
    obtain ⟨pictures, derived⟩ := inStep.of_going going
    refine ⟨pictures.eq_none_iff, ?_⟩
    intro frame shown
    rw [shown] at pictures
    obtain ⟨program, drawn, -, rfl⟩ := pictures.exists_program
    have same : program = app.animation.program := by
      rw [derived] at drawn
      exact (Except.ok.inj drawn).symm
    exact ⟨rfl, same, drawn⟩
  · intro halted
    obtain ⟨positive, pictures⟩ := inStep.of_halted halted
    refine ⟨positive, ?_, ?_⟩
    · rw [pictures.eq_none_iff]
      omega
    · intro frame shown
      rw [shown] at pictures
      obtain ⟨program, drawn, -, rfl⟩ := pictures.exists_program
      exact ⟨rfl, drawn⟩
  · intro frame shown
    obtain ⟨depth, pictures⟩ : ∃ depth, Pictures config app.animation.rules
        app.animation.seed depth (some frame) := by
      rw [← shown]
      cases halted : app.animation.isHalted with
      | false => exact ⟨_, (inStep.of_going halted).1⟩
      | true => exact ⟨_, (inStep.of_halted halted).2⟩
    obtain ⟨program, -, fits, rfl⟩ := pictures.exists_program
    refine ⟨rfl, ?_⟩
    rw [Frame.ofProgram, Turtle.length_draw]
    exact fits

/-- With room for four segments a doubling rule is drawn twice and then
halted, and what was drawn last stays. -/
theorem frame_of_reachable_doubling :
    let config := { Config.standard with segmentCap := 4 }
    let drawn := (withDoubling config).run [.autoTick, .autoTick]
    let halted := drawn.react .autoTick
    (Reachable config drawn ∧ drawn.animation.isHalted = false ∧
      ∃ frame, drawn.frame = some frame ∧ frame.depth = 2 ∧
        frame.program = drawn.animation.program) ∧
    (Reachable config halted ∧ halted.animation.isHalted = true ∧
      ∃ frame, halted.frame = some frame ∧ frame.depth = 2 ∧
        frame.program = ['f', 'f', 'f', 'f'] ∧
        frame.segments.length ≤ 4) := by
  intro config drawn halted
  have drawnReachable : Reachable config drawn :=
    (withDoubling_reachable config).run (by simp [Event.Possible])
  have haltedReachable : Reachable config halted :=
    drawnReachable.react trivial
  have drawnGoing : drawn.animation.isHalted = false := by decide +kernel
  have haltedHalted : halted.animation.isHalted = true := by decide +kernel
  have drawnDepth : drawn.animation.depth = 2 := by decide +kernel
  have haltedDepth : halted.animation.depth = 3 := by decide +kernel
  obtain ⟨whileGoing, -, -⟩ := frame_of_reachable drawnReachable
  obtain ⟨-, whenHalted, within⟩ := frame_of_reachable haltedReachable
  obtain ⟨drawnNoneIff, ofDrawn⟩ := whileGoing drawnGoing
  obtain ⟨-, haltedNoneIff, ofHalted⟩ := whenHalted haltedHalted
  obtain ⟨first, firstEq⟩ : ∃ frame, drawn.frame = some frame := by
    apply Option.ne_none_iff_exists'.mp
    rw [Ne, drawnNoneIff, drawnDepth]
    decide
  obtain ⟨last, lastEq⟩ : ∃ frame, halted.frame = some frame := by
    apply Option.ne_none_iff_exists'.mp
    rw [Ne, haltedNoneIff, haltedDepth]
    decide
  obtain ⟨firstDepth, firstProgram, -⟩ := ofDrawn first firstEq
  obtain ⟨lastDepth, derived⟩ := ofHalted last lastEq
  have lastProgram : last.program = ['f', 'f', 'f', 'f'] := by
    have rulesEq : halted.animation.rules = Origin.doubling := by
      decide +kernel
    have seedEq : halted.animation.seed = ['f'] := by decide +kernel
    have twice : Origin.doubling.derive config.growthLimit 2 ['f'] =
        .ok ['f', 'f', 'f', 'f'] := rfl
    rw [rulesEq, seedEq, haltedDepth, twice] at derived
    exact (Except.ok.inj derived).symm
  refine ⟨⟨drawnReachable, drawnGoing, first, firstEq, ?_,
    firstProgram⟩, haltedReachable, haltedHalted, last, lastEq, ?_,
    lastProgram, (within last lastEq).2⟩
  · rw [firstDepth, drawnDepth]
  · rw [lastDepth, haltedDepth]

end Terminal.App

end TurtleSystems
