import TurtleSystems.Turtle

/-!
# Counting segments

The turtle draws one segment for each drawing symbol of a program.
-/

namespace TurtleSystems

theorem Symbol.count_draw_filterMap (program : Text) :
    (program.filterMap ofChar?).count .draw = program.count 'f' := by
  induction program with
  | nil => rfl
  | cons character program ih =>
      by_cases draws : character = 'f'
      · subst draws
        simp [ofChar?, ih]
      · have other : ofChar? character ≠ some .draw := by
          intro found
          exact draws (toChar_of_ofChar? found).symm
        rw [List.count_cons_of_ne draws, ← ih]
        cases found : ofChar? character with
        | none => simp [found]
        | some symbol =>
            have symbolNe : symbol ≠ .draw := by
              intro same
              exact other (by rw [found, same])
            rw [List.filterMap_cons_some found,
              List.count_cons_of_ne symbolNe]

namespace Turtle

variable {α : Type} [Directed α]

theorem length_foldl_obey (turtle : Turtle α) (symbols : List Symbol)
    (walk : List (Segment α) × Pose α) :
    (symbols.foldl turtle.obey walk).1.length =
      walk.1.length + symbols.count .draw := by
  induction symbols generalizing walk with
  | nil => rfl
  | cons symbol symbols ih =>
      rw [List.foldl_cons, ih]
      cases symbol with
      | draw =>
          simp only [obey, List.length_cons, List.count_cons_self]
          omega
      | move | left | right | inert mark => simp [obey]

/-- A program draws as many segments as it has characters `f`. -/
theorem length_draw (turtle : Turtle α) (program : Text) :
    (turtle.draw program).length = program.count 'f' := by
  simp only [draw, trace, traceFrom, List.length_reverse]
  rw [length_foldl_obey, Symbol.count_draw_filterMap]
  simp

end Turtle

end TurtleSystems
