import Mathlib.Data.List.GetD
import TurtleSystems.Proofs.RuleLines
import TurtleSystems.Random.Rules

/-!
# Which rule sets can be drawn

A random rule set has two to five rules, with one or two symbols in a pattern
and one to five in a replacement.  Nothing else is ever drawn, and for every
such rule set there are words that lead to it.
-/

namespace TurtleSystems

/-- A rule of the size that is drawn. -/
structure Rule.IsDrawable (rule : Rule) : Prop where
  pattern_program : Text.isProgram rule.pattern = true
  pattern_length : rule.pattern.length ≤ 2
  replacement_program : Text.isProgram rule.replacement = true
  replacement_length : rule.replacement.length ≤ 5

/-- A rule set of the size that is drawn. -/
structure RuleSet.IsDrawable (rules : RuleSet) : Prop where
  two_le_length : 2 ≤ rules.length
  length_le_five : rules.length ≤ 5
  rules_drawable : ∀ rule ∈ rules, rule.IsDrawable

theorem RuleSet.IsDrawable.isOverAlphabet {rules : RuleSet}
    (drawable : rules.IsDrawable) : rules.IsOverAlphabet := by
  intro rule member
  have ruleDrawable := drawable.rules_drawable rule member
  exact ⟨ruleDrawable.pattern_program, ruleDrawable.replacement_program⟩

/-- A choice that can come to each of its possibilities. -/
structure Choice.IsPossible (choice : Choice) : Prop where
  count_pos : 0 < choice.count
  count_le_accepted : choice.count ≤ choice.accepted
  count_le_modulus : choice.count ≤ choice.modulus

namespace Draw

/-- Whatever a draw gives has a property. -/
def OnlyGives {σ α : Type} (draw : Draw σ α) (property : α → Prop) : Prop :=
  ∀ ⦃source value rest⦄, draw source = some (value, rest) → property value

/-- Some words make a draw give a value, and are used up by it. -/
def CanGive {α : Type} (draw : Draw ListedWords α) (value : α) : Prop :=
  ∃ words, ∀ others state,
    draw ⟨words ++ others, state⟩ = some (value, ⟨others, state⟩)

theorem bind_eq_some {σ α β : Type} {draw : Draw σ α}
    {next : α → Draw σ β} {source : σ} {result : β × σ} :
    (draw >>= next) source = some result ↔
      ∃ value rest, draw source = some (value, rest) ∧
        next value rest = some result := by
  simp only [bind, StateT.bind, Option.bind_eq_some_iff, Prod.exists]

section Combinators

variable {σ α β : Type}

theorem OnlyGives.pure {property : α → Prop} {value : α}
    (holds : property value) :
    OnlyGives (Pure.pure value : Draw σ α) property := by
  intro source found rest given
  cases given
  exact holds

theorem OnlyGives.bind {draw : Draw σ α} {next : α → Draw σ β}
    {between : α → Prop} {property : β → Prop} (first : OnlyGives draw between)
    (second : ∀ value, between value → OnlyGives (next value) property) :
    OnlyGives (draw >>= next) property := by
  intro source result rest given
  obtain ⟨value, after, drawn, given⟩ := bind_eq_some.mp given
  exact second value (first drawn) given

theorem CanGive.pure (value : α) :
    CanGive (Pure.pure value : Draw ListedWords α) value :=
  ⟨[], fun _ _ => rfl⟩

theorem CanGive.bind {draw : Draw ListedWords α}
    {next : α → Draw ListedWords β} {value : α} {result : β}
    (first : CanGive draw value) (second : CanGive (next value) result) :
    CanGive (draw >>= next) result := by
  obtain ⟨words, drawn⟩ := first
  obtain ⟨more, given⟩ := second
  refine ⟨words ++ more, fun others state => bind_eq_some.mpr ?_⟩
  exact ⟨value, ⟨more ++ others, state⟩,
    by rw [List.append_assoc]; exact drawn _ _, given _ _⟩

theorem onlyGives_times {draw : Draw σ α} {property : α → Prop}
    (each : OnlyGives draw property) (count : Nat) :
    OnlyGives (times draw count) fun values =>
      values.length = count ∧ ∀ value ∈ values, property value := by
  induction count with
  | zero => exact .pure ⟨rfl, by simp⟩
  | succ count ih =>
      refine .bind each fun first firstHolds => .bind ih fun others holds => ?_
      refine .pure ⟨by simp [holds.1], ?_⟩
      intro value member
      rcases List.mem_cons.mp member with rfl | member
      · exact firstHolds
      · exact holds.2 value member

theorem canGive_times {draw : Draw ListedWords α} {values : List α}
    (each : ∀ value ∈ values, CanGive draw value) :
    CanGive (times draw values.length) values := by
  induction values with
  | nil => exact .pure []
  | cons value values ih =>
      have others : CanGive (times draw values.length) values :=
        ih fun other member => each other (List.mem_cons_of_mem value member)
      exact .bind (each value List.mem_cons_self) (.bind others (.pure _))

end Combinators

section Choices

variable {σ : Type} [WordSource σ]

theorem word32_lt (source : σ) : (word32 source).1 < UInt32.size :=
  UInt32.toNat_lt_size _

theorem word64_lt (source : σ) :
    (word64 source).1 < UInt32.size * UInt32.size := by
  simp only [word64]
  have low := UInt32.toNat_lt_size (WordSource.next source).1
  have high := UInt32.toNat_lt_size
    (WordSource.next (WordSource.next source).2).1
  simp only [UInt32.size] at low high ⊢
  omega

theorem exists_word32 {number : Nat} (numberLt : number < UInt32.size) :
    ∃ words, ∀ others state,
      word32 (⟨words ++ others, state⟩ : ListedWords) =
        (number, ⟨others, state⟩) := by
  refine ⟨[UInt32.ofNat number], fun others state => ?_⟩
  simp [word32, WordSource.next, Nat.mod_eq_of_lt numberLt]

theorem exists_word64 {number : Nat}
    (numberLt : number < UInt32.size * UInt32.size) :
    ∃ words, ∀ others state,
      word64 (⟨words ++ others, state⟩ : ListedWords) =
        (number, ⟨others, state⟩) := by
  refine ⟨[UInt32.ofNat (number % UInt32.size),
    UInt32.ofNat (number / UInt32.size)], fun others state => ?_⟩
  have highLt : number / UInt32.size < UInt32.size :=
    Nat.div_lt_of_lt_mul numberLt
  simp [word64, WordSource.next, Nat.mod_eq_of_lt highLt,
    Nat.div_add_mod']

omit [WordSource σ] in
theorem onlyGives_below {draw : σ → Nat × σ} {choice : Choice}
    (possible : choice.IsPossible)
    (inRange : ∀ source, (draw source).1 < choice.modulus) (budget : Nat) :
    OnlyGives (below draw choice budget) (· < choice.count) := by
  induction budget with
  | zero =>
      intro source value rest given
      cases given
  | succ budget ih =>
      intro source value rest given
      simp only [below] at given
      split at given
      · cases given
        refine Nat.div_lt_of_lt_mul ?_
        exact Nat.mul_lt_mul_of_pos_right (inRange source)
          possible.count_pos
      · exact ih given

/-- Every possibility has a number that leads to it: the least one whose
product is large enough. -/
theorem exists_number {choice : Choice} (possible : choice.IsPossible)
    {index : Nat} (indexLt : index < choice.count) :
    ∃ number < choice.modulus,
      number * choice.count % choice.modulus < choice.accepted ∧
        number * choice.count / choice.modulus = index := by
  obtain ⟨countPos, countLeAccepted, countLeModulus⟩ := possible
  obtain ⟨number, extra, extraLt, productEq⟩ : ∃ number extra,
      extra < choice.count ∧
        number * choice.count = choice.modulus * index + extra := by
    let raised := choice.modulus * index + (choice.count - 1)
    have divided := Nat.div_add_mod raised choice.count
    have leftLt := Nat.mod_lt raised countPos
    refine ⟨raised / choice.count,
      choice.count - 1 - raised % choice.count, by omega, ?_⟩
    rw [Nat.mul_comm]
    omega
  have extraLtModulus : extra < choice.modulus := by omega
  refine ⟨number, ?_, ?_, ?_⟩
  · have room : choice.modulus * (index + 1) ≤
        choice.modulus * choice.count := Nat.mul_le_mul_left _ indexLt
    rw [Nat.mul_add, Nat.mul_one] at room
    exact Nat.lt_of_mul_lt_mul_right (by omega :
      number * choice.count < choice.modulus * choice.count)
  · rw [productEq, Nat.mul_add_mod, Nat.mod_eq_of_lt extraLtModulus]
    omega
  · rw [productEq, Nat.mul_add_div (by omega),
      Nat.div_eq_of_lt extraLtModulus, Nat.add_zero]

theorem canGive_below {draw : ListedWords → Nat × ListedWords}
    {choice : Choice} (possible : choice.IsPossible)
    (every : ∀ number < choice.modulus, ∃ words, ∀ others state,
      draw ⟨words ++ others, state⟩ = (number, ⟨others, state⟩))
    (budget : Nat) {index : Nat} (indexLt : index < choice.count) :
    CanGive (below draw choice (budget + 1)) index := by
  obtain ⟨number, numberLt, accepted, indexEq⟩ :=
    exists_number possible indexLt
  obtain ⟨words, drawn⟩ := every number numberLt
  refine ⟨words, fun others state => ?_⟩
  simp [below, drawn, accepted, indexEq]

end Choices

section Rules

variable {σ : Type} [WordSource σ]

theorem symbolChoice_possible : symbolChoice.IsPossible :=
  ⟨by decide, by decide, by decide⟩

theorem patternLength_possible : patternLength.choice.IsPossible :=
  ⟨by decide, by decide, by decide⟩

theorem replacementLength_possible : replacementLength.choice.IsPossible :=
  ⟨by decide, by decide, by decide⟩

theorem ruleCount_possible : ruleCount.choice.IsPossible :=
  ⟨by decide, by decide, by decide⟩

theorem mem_symbolTable_iff {character : Char} :
    character ∈ symbolTable ↔ Text.isSymbol character = true := by
  constructor
  · intro member
    simp only [symbolTable, List.mem_cons, List.not_mem_nil, or_false]
      at member
    rcases member with rfl | rfl | rfl | rfl | rfl | rfl | rfl <;> rfl
  · intro isSymbol
    unfold Text.isSymbol Symbol.ofChar? at isSymbol
    split at isSymbol <;> first | decide | cases isSymbol

theorem onlyGives_symbol (budget : Nat) :
    OnlyGives (symbol budget : Draw σ Char) (Text.isSymbol · = true) := by
  refine .bind (onlyGives_below symbolChoice_possible word32_lt budget) ?_
  intro index indexLt
  refine .pure (mem_symbolTable_iff.mp ?_)
  have indexLt : index < symbolTable.length := indexLt
  rw [List.getD_eq_getElem _ _ indexLt]
  exact List.getElem_mem indexLt

theorem canGive_symbol (budget : Nat) {character : Char}
    (isSymbol : Text.isSymbol character = true) :
    CanGive (symbol (budget + 1)) character := by
  obtain ⟨index, indexLt, atIndex⟩ :=
    List.mem_iff_getElem.mp (mem_symbolTable_iff.mpr isSymbol)
  have chosen := canGive_below symbolChoice_possible
    (fun number => exists_word32) budget indexLt
  refine .bind chosen ?_
  rw [List.getD_eq_getElem _ _ indexLt, atIndex]
  exact .pure character

theorem onlyGives_word {range : LengthRange}
    (possible : range.choice.IsPossible)
    (modulusEq : range.choice.modulus = UInt32.size * UInt32.size)
    (budget : Nat) :
    OnlyGives (word budget range : Draw σ Text) fun text =>
      Text.isProgram text = true ∧ range.shortest ≤ text.length ∧
        text.length < range.shortest + range.choice.count := by
  refine .bind (onlyGives_below possible (modulusEq ▸ word64_lt) budget) ?_
  intro extra extraLt source text rest given
  obtain ⟨lengthEq, symbols⟩ :=
    onlyGives_times (onlyGives_symbol budget) _ given
  refine ⟨List.all_eq_true.mpr symbols, ?_, ?_⟩ <;> omega

theorem canGive_word {range : LengthRange}
    (possible : range.choice.IsPossible)
    (modulusEq : range.choice.modulus = UInt32.size * UInt32.size)
    (budget : Nat) {text : Text} (program : Text.isProgram text = true)
    (shortestLe : range.shortest ≤ text.length)
    (lengthLt : text.length < range.shortest + range.choice.count) :
    CanGive (word (budget + 1) range) text := by
  have extraLt : text.length - range.shortest < range.choice.count := by
    omega
  have chosen := canGive_below possible
    (modulusEq ▸ fun number => exists_word64) budget extraLt
  refine .bind chosen ?_
  rw [Nat.add_sub_cancel' shortestLe]
  exact canGive_times fun character member =>
    canGive_symbol budget (List.all_eq_true.mp program character member)

theorem onlyGives_rule (budget attempts : Nat) :
    OnlyGives (rule budget attempts : Draw σ Rule) Rule.IsDrawable := by
  induction attempts with
  | zero =>
      intro source value rest given
      cases given
  | succ attempts ih =>
      refine .bind (onlyGives_word patternLength_possible rfl budget) ?_
      intro pattern patternDrawn
      refine .bind (onlyGives_word replacementLength_possible rfl budget) ?_
      intro replacement replacementDrawn
      split
      · next madeRule made =>
          obtain ⟨patternEq, replacementEq⟩ := Rule.sides_of_make made
          refine .pure ⟨?_, ?_, ?_, ?_⟩
          · rw [patternEq]
            exact patternDrawn.1
          · rw [patternEq]
            exact Nat.le_of_lt_succ patternDrawn.2.2
          · rw [replacementEq]
            exact replacementDrawn.1
          · rw [replacementEq]
            exact Nat.le_of_lt_succ replacementDrawn.2.2
      · exact ih

theorem canGive_rule (budget attempts : Nat) {made : Rule}
    (drawable : made.IsDrawable) :
    CanGive (rule (budget + 1) (attempts + 1)) made := by
  have patternPos := List.length_pos_iff.mpr made.pattern_ne_nil
  have replacementPos := List.length_pos_iff.mpr made.replacement_ne_nil
  refine .bind (canGive_word patternLength_possible rfl budget
    drawable.pattern_program patternPos
    (Nat.lt_succ_of_le drawable.pattern_length)) ?_
  refine .bind (canGive_word replacementLength_possible rfl budget
    drawable.replacement_program replacementPos
    (Nat.lt_succ_of_le drawable.replacement_length)) ?_
  rw [Rule.make_sides]
  exact .pure made

/-- Only rule sets of the right size are drawn. -/
theorem onlyGives_ruleSet (budget : Nat) :
    OnlyGives (ruleSet budget : Draw σ RuleSet) RuleSet.IsDrawable := by
  refine .bind (onlyGives_below ruleCount_possible word32_lt budget) ?_
  intro extra extraLt source rules rest given
  obtain ⟨lengthEq, drawable⟩ :=
    onlyGives_times (onlyGives_rule budget budget) _ given
  have extraLt : extra < 4 := extraLt
  have lengthEq : rules.length = 2 + extra := lengthEq
  exact ⟨by omega, by omega, drawable⟩

/-- Every rule set of the right size may be drawn. -/
theorem canGive_ruleSet (budget : Nat) {rules : RuleSet}
    (drawable : rules.IsDrawable) :
    CanGive (ruleSet (budget + 1)) rules := by
  obtain ⟨twoLeLength, lengthLeFive, rulesDrawable⟩ := drawable
  have extraLt : rules.length - 2 < ruleCount.choice.count := by
    have countEq : ruleCount.choice.count = 4 := rfl
    omega
  have chosen := canGive_below ruleCount_possible
    (fun number => exists_word32) budget extraLt
  refine .bind chosen ?_
  have lengthEq : ruleCount.shortest + (rules.length - 2) = rules.length :=
    Nat.add_sub_cancel' twoLeLength
  rw [lengthEq]
  exact canGive_times fun rule member =>
    canGive_rule budget budget (rulesDrawable rule member)

end Rules

end Draw

end TurtleSystems
