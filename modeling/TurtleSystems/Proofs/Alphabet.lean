import TurtleSystems.Proofs.RuleLines
import TurtleSystems.Proofs.Turtle
import TurtleSystems.Proofs.Unguarded

/-!
# Derivations over the alphabet

Rules over the alphabet turn words into words: replacing, a rule, a step and a
derivation each keep the alphabet and leave at least one symbol.  A word has
as many bytes as symbols, and the turtle obeys all of it.
-/

namespace TurtleSystems

namespace Text

variable {text pattern replacement : Text}

/-- A program with at least one symbol. -/
structure IsWord (text : Text) : Prop where
  ne_nil : text ≠ []
  program : isProgram text = true

theorem isProgram_cons_iff {character : Char} :
    isProgram (character :: text) = true ↔
      isSymbol character = true ∧ isProgram text = true := by
  simp [isProgram]

theorem isProgram_append_iff {others : Text} :
    isProgram (text ++ others) = true ↔
      isProgram text = true ∧ isProgram others = true := by
  simp [isProgram]

theorem isProgram_of_suffix {others : Text} (suffix : others <:+ text)
    (program : isProgram text = true) : isProgram others = true :=
  List.all_eq_true.mpr fun character member =>
    List.all_eq_true.mp program character (suffix.mem member)

theorem isProgram_replaceAll (replacementProgram :
      isProgram replacement = true) (program : isProgram text = true) :
    isProgram (replaceAll pattern replacement text) = true := by
  fun_induction replaceAll pattern replacement text with
  | case1 => rfl
  | case2 character text _ ih =>
      have behind := isProgram_of_suffix
        (List.drop_suffix (pattern.length - 1) text)
        (isProgram_cons_iff.mp program).2
      exact isProgram_append_iff.mpr ⟨replacementProgram, ih behind⟩
  | case3 character text _ ih =>
      obtain ⟨symbol, program⟩ := isProgram_cons_iff.mp program
      exact isProgram_cons_iff.mpr ⟨symbol, ih program⟩

theorem replaceAll_ne_nil (replacementNeNil : replacement ≠ [])
    (textNeNil : text ≠ []) : replaceAll pattern replacement text ≠ [] := by
  cases text with
  | nil => exact absurd rfl textNeNil
  | cons character text =>
      rw [replaceAll]
      split
      · exact List.append_ne_nil_of_left_ne_nil replacementNeNil _
      · exact List.cons_ne_nil _ _

theorem utf8Size_of_isSymbol {character : Char}
    (symbol : isSymbol character = true) : character.utf8Size = 1 := by
  unfold isSymbol Symbol.ofChar? at symbol
  split at symbol <;> first | rfl | cases symbol

/-- A program has as many bytes as symbols. -/
theorem byteLength_of_isProgram (program : isProgram text = true) :
    byteLength text = text.length := by
  induction text with
  | nil => rfl
  | cons character text ih =>
      obtain ⟨symbol, program⟩ := isProgram_cons_iff.mp program
      rw [byteLength_cons, utf8Size_of_isSymbol symbol, ih program,
        List.length_cons, Nat.add_comm]

/-- The symbols that the turtle obeys spell the whole program. -/
theorem map_toChar_filterMap (program : isProgram text = true) :
    (text.filterMap Symbol.ofChar?).map Symbol.toChar = text := by
  induction text with
  | nil => rfl
  | cons character text ih =>
      obtain ⟨symbol, program⟩ := isProgram_cons_iff.mp program
      obtain ⟨command, found⟩ := Option.isSome_iff_exists.mp symbol
      rw [List.filterMap_cons_some found, List.map_cons,
        Symbol.toChar_of_ofChar? found, ih program]

end Text

namespace Turtle

/-- A turtle obeys every character of a text: wherever it starts, it walks by
symbols that spell the whole text. -/
def ObeysAll {α : Type} [Directed α] (turtle : Turtle α) (text : Text) : Prop :=
  ∃ symbols : List Symbol, symbols.map Symbol.toChar = text ∧
    ∀ pose, turtle.traceFrom pose text =
      ((symbols.foldl turtle.obey ([], pose)).1.reverse,
        (symbols.foldl turtle.obey ([], pose)).2)

theorem obeysAll_of_isProgram {α : Type} [Directed α] (turtle : Turtle α)
    {text : Text} (program : Text.isProgram text = true) :
    turtle.ObeysAll text :=
  ⟨text.filterMap Symbol.ofChar?, Text.map_toChar_filterMap program,
    fun _ => rfl⟩

end Turtle

namespace RuleSet

variable {rules : RuleSet} {limit depth : Nat} {seed text program : Text}

theorem isWord_of_step (words : rules.IsOverAlphabet) (word : text.IsWord)
    (stepped : rules.step limit text = .ok program) : program.IsWord := by
  induction rules generalizing text with
  | nil => cases stepped; exact word
  | cons rule rules ih =>
      obtain ⟨ruleWords, words⟩ := List.forall_mem_cons.mp words
      rw [step_cons, bind_eq_ok] at stepped
      obtain ⟨between, applied, stepped⟩ := stepped
      obtain ⟨-, rfl⟩ := Rule.apply_eq_ok_iff.mp applied
      have betweenWord : (rule.replaceAll text).IsWord :=
        ⟨Text.replaceAll_ne_nil rule.replacement_ne_nil word.ne_nil,
          Text.isProgram_replaceAll ruleWords.replacement
            word.program⟩
      exact ih words betweenWord stepped

/-- From a word, rules over the alphabet derive only words. -/
theorem isWord_of_derive (words : rules.IsOverAlphabet) (word : seed.IsWord)
    (derived : rules.derive limit depth seed = .ok program) :
    program.IsWord := by
  induction depth generalizing program with
  | zero => cases derived; exact word
  | succ depth ih =>
      obtain ⟨previous, derived, stepped⟩ :=
        exists_derive_of_derive_succ derived
      exact isWord_of_step words (ih derived) stepped

end RuleSet

end TurtleSystems
