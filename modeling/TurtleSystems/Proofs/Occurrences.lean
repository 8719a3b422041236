import Mathlib.Tactic.ByContra
import TurtleSystems.Proofs.Derivation

/-!
# Where a pattern occurs

A text without the pattern is a single piece; in a text with it the scan meets
an occurrence.  So a pattern is counted at all exactly where it is an infix of
the text, and a rule whose pattern is no infix leaves a text as it is.
-/

namespace TurtleSystems

namespace Text

variable {pattern text : Text}

theorem length_le_length_scanPieces (pattern : Text) (skip : Nat)
    (piece : Text) (pieces : List Text) (text : Text) :
    pieces.length < (scanPieces pattern skip piece pieces text).length := by
  induction text generalizing skip piece pieces with
  | nil =>
      cases skip <;> simp [scanPieces]
  | cons character text ih =>
      cases skip with
      | succ skip =>
          rw [scanPieces]
          exact ih skip piece pieces
      | zero =>
          rw [scanPieces]
          split
          · have more := ih (pattern.length - 1) [] (piece.reverse :: pieces)
            simp only [List.length_cons] at more
            omega
          · exact ih 0 (character :: piece) pieces

theorem scanPieces_of_not_isInfix (piece : Text) (pieces : List Text)
    (absent : ¬ pattern <:+: text) :
    scanPieces pattern 0 piece pieces text =
      pieces.reverse ++ [piece.reverse ++ text] := by
  induction text generalizing piece with
  | nil => simp [scanPieces]
  | cons character text ih =>
      rw [List.infix_cons_iff, not_or] at absent
      have notHere : pattern.isPrefixOf (character :: text) = false := by
        simpa [← Bool.not_eq_true, List.isPrefixOf_iff_prefix] using absent.1
      rw [scanPieces, notHere, if_neg Bool.false_ne_true, ih _ absent.2]
      simp

theorem length_scanPieces_of_isInfix (piece : Text) (pieces : List Text)
    (patternNeNil : pattern ≠ []) (present : pattern <:+: text) :
    pieces.length + 1 < (scanPieces pattern 0 piece pieces text).length := by
  induction text generalizing piece with
  | nil => exact absurd (List.infix_nil.mp present) patternNeNil
  | cons character text ih =>
      rw [scanPieces]
      split
      · next here =>
          exact length_le_length_scanPieces pattern (pattern.length - 1) []
            (piece.reverse :: pieces) text
      · next notHere =>
          rw [List.isPrefixOf_iff_prefix] at notHere
          exact ih _ ((List.infix_cons_iff.mp present).resolve_left notHere)

theorem scanPieces_of_length_le {skip : Nat} (piece : Text)
    (pieces : List Text) (inside : text.length ≤ skip) :
    scanPieces pattern skip piece pieces text =
      (piece.reverse :: pieces).reverse := by
  induction text generalizing skip with
  | nil => cases skip <;> rfl
  | cons character text ih =>
      cases skip with
      | zero => simp at inside
      | succ skip => exact ih (by simpa using inside)

theorem piecesAround_self (textNeNil : text ≠ []) :
    piecesAround text text = [[], []] := by
  obtain ⟨character, rest, rfl⟩ := List.exists_cons_of_ne_nil textNeNil
  have here : (character :: rest).isPrefixOf (character :: rest) = true :=
    List.isPrefixOf_iff_prefix.mpr (List.prefix_refl _)
  have finished :
      scanPieces (character :: rest) rest.length [] [[]] rest = [[], []] :=
    scanPieces_of_length_le [] [[]] (Nat.le_refl rest.length)
  simpa [piecesAround, scanPieces, here] using finished

theorem piecesAround_of_not_isInfix (absent : ¬ pattern <:+: text) :
    piecesAround pattern text = [text] := by
  unfold piecesAround
  split
  · rfl
  · simpa using scanPieces_of_not_isInfix [] [] absent

/-- A pattern is counted exactly where it is an infix. -/
theorem occurrences_pos_iff (patternNeNil : pattern ≠ []) :
    0 < occurrences pattern text ↔ pattern <:+: text := by
  constructor
  · intro counted
    by_contra absent
    simp [occurrences, piecesAround_of_not_isInfix absent] at counted
  · intro present
    have more := length_scanPieces_of_isInfix [] [] patternNeNil present
    simp only [List.length_nil] at more
    simp only [occurrences, piecesAround, List.isEmpty_iff, patternNeNil,
      if_false]
    omega

end Text

theorem Rule.apply_of_not_isInfix {rule : Rule} {text : Text} (limit : Nat)
    (absent : ¬ rule.pattern <:+: text) : rule.apply limit text = .ok text := by
  simp [Rule.apply, Text.piecesAround_of_not_isInfix absent]

/-- A rule puts its replacement in the place of its whole pattern. -/
theorem Rule.apply_pattern {rule : Rule} {limit : Nat} (allowed : 0 < limit) :
    rule.apply limit rule.pattern = .ok rule.replacement := by
  have fits : ¬ limit < 1 := by omega
  simp [Rule.apply, Text.piecesAround_self rule.pattern_ne_nil, fits,
    List.intercalate]

/-- Where a rule that may replace nothing is not stopped, its pattern does not
occur. -/
theorem Rule.not_infix_of_apply_zero {rule : Rule} {text next : Text}
    (applied : rule.apply 0 text = .ok next) : ¬ rule.pattern <:+: text := by
  rw [← Text.occurrences_pos_iff rule.pattern_ne_nil]
  simp only [Rule.apply] at applied
  split at applied
  · cases applied
  · next stayed => exact stayed

theorem RuleSet.occursIn_iff {rules : RuleSet} {text : Text} :
    rules.occursIn text = true ↔
      ∃ rule ∈ rules, rule.pattern <:+: text := by
  simp [RuleSet.occursIn,
    Text.occurrences_pos_iff (Rule.pattern_ne_nil _)]

theorem RuleSet.not_isLive_zero (rules : RuleSet) (seed : Text) :
    rules.isLive 0 seed = false := by
  have absent {text next : Text} (stepped : rules.step 0 text = .ok next) :
      ∀ rule ∈ rules, ¬ rule.pattern <:+: text := by
    induction rules generalizing text with
    | nil => simp
    | cons rule rules ih =>
        rw [step_cons, bind_eq_ok] at stepped
        obtain ⟨between, applied, stepped⟩ := stepped
        have notHere := Rule.not_infix_of_apply_zero applied
        rw [Rule.apply_of_not_isInfix 0 notHere] at applied
        cases applied
        exact List.forall_mem_cons.mpr ⟨notHere, ih stepped⟩
  rw [isLive, Bool.and_eq_false_iff, or_iff_not_imp_left,
    Bool.not_eq_false, occursIn_iff]
  rintro ⟨rule, member, present⟩
  split
  · next next stepped => exact absurd present (absent stepped rule member)
  · rfl

end TurtleSystems
