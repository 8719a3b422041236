import TurtleSystems.Json.Stored

/-!
# Settings that are accepted

What most of the library needs of settings that pass their check is that the
seed is a program with a symbol and that a search tries something.  The length
of the step and the angle of the turn are finite; nothing is asked of the
margin.  Settings that are read have passed the check, and so have the usual
ones.
-/

namespace TurtleSystems.Config

/-- The exact part of what the check of settings asks for. -/
structure IsSound (config : Config) : Prop where
  seed_ne_nil : config.seed ≠ []
  seed_program : Text.isProgram config.seed = true
  attempts_ne_zero : config.searchAttempts ≠ 0

theorem isSound_of_validate {config : Config}
    (accepted : config.validate = .ok ()) : config.IsSound := by
  unfold validate at accepted
  split at accepted
  · cases accepted
  · next goodSeed =>
      split at accepted
      · cases accepted
      split at accepted
      · cases accepted
      · next attemptsNeZero =>
          simp only [Bool.or_eq_true, List.isEmpty_iff, Bool.not_eq_true',
            not_or, Bool.not_eq_false] at goodSeed
          exact ⟨goodSeed.1, goodSeed.2, attemptsNeZero⟩

/-- The turtle of accepted settings has a finite step and turn. -/
theorem isFinite_of_validate {config : Config}
    (accepted : config.validate = .ok ()) :
    config.stepLength.isFinite = true ∧
      config.turnAngleDegrees.isFinite = true := by
  unfold validate at accepted
  split at accepted
  · cases accepted
  split at accepted
  · cases accepted
  · next finite =>
      simpa using finite

theorem validate_of_read {config : Config} {content : Text}
    (found : read content = .ok config) :
    config.validate = .ok () := by
  unfold read at found
  split at found
  · cases found
  · split at found
    · cases found
    · next accepted =>
        cases found
        exact accepted

theorem validate_standard : standard.validate = .ok () := by
  have goodSeed : ¬ (standard.seed.isEmpty ||
      !Text.isProgram standard.seed) = true := by decide
  have finite : ¬ (!(standard.stepLength.isFinite &&
      standard.turnAngleDegrees.isFinite)) = true := by decide +kernel
  have attempts : ¬ standard.searchAttempts = 0 := by decide
  rw [validate, if_neg goodSeed, if_neg finite, if_neg attempts]

theorem standard_isSound : standard.IsSound :=
  isSound_of_validate validate_standard

end TurtleSystems.Config
