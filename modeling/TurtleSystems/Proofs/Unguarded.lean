import Mathlib.Logic.Function.Iterate
import TurtleSystems.Proofs.Derivation

/-!
# Derivations without the guard

The same pipeline can be run with nothing counted: every rule replaces its
pattern wherever the scan meets it, and a step always has a result.  The guard
adds nothing to this but a stop.  A derivation under a limit either is the one
without the guard, when no rule in any of its steps makes more replacements
than the limit, or it is stopped.
-/

namespace TurtleSystems

namespace Text

/-- Replace every occurrence of a pattern, from left to right.  The scan goes
on behind an occurrence and never looks at a replacement. -/
def replaceAll (pattern replacement : Text) : Text → Text
  | [] => []
  | character :: text =>
    if pattern.isPrefixOf (character :: text) then
      replacement ++
        replaceAll pattern replacement (text.drop (pattern.length - 1))
    else character :: replaceAll pattern replacement text
termination_by text => text.length
decreasing_by
  · simp only [List.length_drop, List.length_cons]
    omega
  · simp

theorem intercalate_append_pair (separator first second : Text)
    (pieces : List Text) :
    separator.intercalate (pieces ++ [first, second]) =
      separator.intercalate (pieces ++ [first ++ separator ++ second]) := by
  induction pieces with
  | nil => simp [List.intercalate]
  | cons piece pieces ih =>
      cases pieces with
      | nil => simp [List.intercalate]
      | cons next pieces =>
          simp only [List.intercalate, List.cons_append,
            List.intersperse_cons_cons, List.flatten_cons] at ih ⊢
          rw [ih]

/-- With the replacement between them, the pieces that a scan still has to cut
make up the rest of the text with every occurrence replaced. -/
theorem intercalate_scanPieces (pattern replacement : Text) (skip : Nat)
    (piece : Text) (pieces : List Text) (text : Text) :
    replacement.intercalate (scanPieces pattern skip piece pieces text) =
      replacement.intercalate (pieces.reverse ++
        [piece.reverse ++
          replaceAll pattern replacement (text.drop skip)]) := by
  induction text generalizing skip piece pieces with
  | nil => cases skip <;> simp [scanPieces, replaceAll]
  | cons character text ih =>
      cases skip with
      | succ skip => exact ih skip piece pieces
      | zero =>
          rw [scanPieces, List.drop_zero, replaceAll]
          split
          · rw [ih, List.reverse_cons, List.append_assoc,
              List.singleton_append, List.reverse_nil, List.nil_append,
              intercalate_append_pair, List.append_assoc]
          · rw [ih, List.drop_zero, List.reverse_cons, List.append_assoc,
              List.singleton_append]

theorem intercalate_piecesAround {pattern : Text}
    (patternNeNil : pattern ≠ []) (replacement text : Text) :
    replacement.intercalate (piecesAround pattern text) =
      replaceAll pattern replacement text := by
  have notEmpty : pattern.isEmpty ≠ true := by
    simpa [List.isEmpty_iff] using patternNeNil
  rw [piecesAround, if_neg notEmpty, intercalate_scanPieces]
  simp [List.intercalate]

end Text

namespace Rule

/-- Replace every occurrence of the pattern, however many there are. -/
def replaceAll (rule : Rule) (text : Text) : Text :=
  Text.replaceAll rule.pattern rule.replacement text

theorem apply_eq (rule : Rule) (limit : Nat) (text : Text) :
    rule.apply limit text =
      if limit < Text.occurrences rule.pattern text then .error ⟨limit⟩
      else .ok (rule.replaceAll text) := by
  simp only [apply, Text.intercalate_piecesAround rule.pattern_ne_nil]
  rfl

theorem apply_eq_ok_iff {rule : Rule} {limit : Nat} {text next : Text} :
    rule.apply limit text = .ok next ↔
      Text.occurrences rule.pattern text ≤ limit ∧
        rule.replaceAll text = next := by
  rw [apply_eq]
  split
  · next stopped => simp [Nat.not_le.mpr stopped]
  · next allowed => simp [Nat.not_lt.mp allowed]

end Rule

namespace RuleSet

/-- One step of the pipeline in which no rule is stopped. -/
def unguardedStep (rules : RuleSet) (text : Text) : Text :=
  rules.foldl (fun current rule => rule.replaceAll current) text

/-- The program after `depth` steps in which no rule is stopped. -/
def unguarded (rules : RuleSet) (depth : Nat) (seed : Text) : Text :=
  (unguardedStep rules)^[depth] seed

/-- The numbers of replacements that the rules make, one after the other, in a
step in which none is stopped. -/
def replacements : RuleSet → Text → List Nat
  | [], _ => []
  | rule :: rules, text =>
    Text.occurrences rule.pattern text ::
      replacements rules (rule.replaceAll text)

/-- In the first `depth` steps no rule makes more replacements than the limit
allows. -/
def StaysWithin (rules : RuleSet) (limit depth : Nat) (seed : Text) : Prop :=
  ∀ earlier < depth,
    ∀ count ∈ rules.replacements (rules.unguarded earlier seed),
      count ≤ limit

variable {rules : RuleSet} {limit higher depth deeper : Nat}
variable {seed text program : Text} {stop : GrowthLimitExceeded}

theorem unguarded_succ (rules : RuleSet) (depth : Nat) (seed : Text) :
    rules.unguarded (depth + 1) seed =
      rules.unguardedStep (rules.unguarded depth seed) :=
  Function.iterate_succ_apply' (unguardedStep rules) depth seed

theorem step_eq_ok_iff {next : Text} :
    rules.step limit text = .ok next ↔
      (∀ count ∈ rules.replacements text, count ≤ limit) ∧
        rules.unguardedStep text = next := by
  induction rules generalizing text with
  | nil => simp [replacements, unguardedStep]
  | cons rule rules ih =>
      rw [step_cons, bind_eq_ok, replacements, List.forall_mem_cons]
      constructor
      · rintro ⟨between, applied, stepped⟩
        obtain ⟨allowed, rfl⟩ := Rule.apply_eq_ok_iff.mp applied
        obtain ⟨othersAllowed, last⟩ := ih.mp stepped
        exact ⟨⟨allowed, othersAllowed⟩, last⟩
      · rintro ⟨⟨allowed, othersAllowed⟩, last⟩
        exact ⟨rule.replaceAll text, Rule.apply_eq_ok_iff.mpr ⟨allowed, rfl⟩,
          ih.mpr ⟨othersAllowed, last⟩⟩

theorem staysWithin_succ_iff :
    rules.StaysWithin limit (depth + 1) seed ↔
      rules.StaysWithin limit depth seed ∧
        ∀ count ∈ rules.replacements (rules.unguarded depth seed),
          count ≤ limit :=
  Nat.forall_lt_succ_right

theorem StaysWithin.mono (within : rules.StaysWithin limit depth seed)
    (limitLe : limit ≤ higher) : rules.StaysWithin higher depth seed :=
  fun earlier earlierLt count member =>
    Nat.le_trans (within earlier earlierLt count member) limitLe

/-- A derivation under a limit gives a program exactly if no rule would go
beyond the limit, and then it is the program without the guard. -/
theorem derive_eq_ok_iff :
    rules.derive limit depth seed = .ok program ↔
      rules.StaysWithin limit depth seed ∧
        program = rules.unguarded depth seed := by
  induction depth generalizing program with
  | zero =>
      have within : rules.StaysWithin limit 0 seed := by
        intro earlier earlierLt
        omega
      simp [within, unguarded, eq_comm]
  | succ depth ih =>
      rw [derive_succ, bind_eq_ok, staysWithin_succ_iff, unguarded_succ]
      constructor
      · rintro ⟨previous, derived, stepped⟩
        obtain ⟨within, rfl⟩ := ih.mp derived
        obtain ⟨allowed, rfl⟩ := step_eq_ok_iff.mp stepped
        exact ⟨⟨within, allowed⟩, rfl⟩
      · rintro ⟨⟨within, allowed⟩, rfl⟩
        exact ⟨rules.unguarded depth seed, ih.mpr ⟨within, rfl⟩,
          step_eq_ok_iff.mpr ⟨allowed, rfl⟩⟩

theorem derive_eq_error_iff :
    rules.derive limit depth seed = .error stop ↔
      ¬ rules.StaysWithin limit depth seed ∧ stop = ⟨limit⟩ := by
  constructor
  · intro stopped
    refine ⟨?_, limit_of_derive_eq_error stopped⟩
    intro within
    have derived : rules.derive limit depth seed =
        .ok (rules.unguarded depth seed) :=
      derive_eq_ok_iff.mpr ⟨within, rfl⟩
    rw [stopped] at derived
    cases derived
  · rintro ⟨beyond, rfl⟩
    cases derived : rules.derive limit depth seed with
    | ok program => exact absurd (derive_eq_ok_iff.mp derived).1 beyond
    | error found => rw [limit_of_derive_eq_error derived]

theorem derive_of_limit_le (limitLe : limit ≤ higher)
    (derived : rules.derive limit depth seed = .ok program) :
    rules.derive higher depth seed = .ok program := by
  obtain ⟨within, programEq⟩ := derive_eq_ok_iff.mp derived
  exact derive_eq_ok_iff.mpr ⟨within.mono limitLe, programEq⟩

/-- The growth limit is nothing but a guard.  A derivation is the one without
the limit if no rule application in its steps makes more replacements than
allowed, and is stopped otherwise.  So a higher limit changes no program that
was reached, and a derivation that was stopped is stopped for good. -/
theorem derive_guards (rules : RuleSet) (limit depth : Nat) (seed : Text) :
    (∀ program, rules.derive limit depth seed = .ok program ↔
      rules.StaysWithin limit depth seed ∧
        program = rules.unguarded depth seed) ∧
    (∀ stop, rules.derive limit depth seed = .error stop ↔
      ¬ rules.StaysWithin limit depth seed ∧ stop = ⟨limit⟩) ∧
    (∀ higher ≥ limit, ∀ program,
      rules.derive limit depth seed = .ok program →
        rules.derive higher depth seed = .ok program) ∧
    (∀ deeper ≥ depth, ∀ stop,
      rules.derive limit depth seed = .error stop →
        rules.derive limit deeper seed = .error stop) := by
  refine ⟨?_, ?_, ?_, ?_⟩
  · intro program
    exact derive_eq_ok_iff
  · intro stop
    exact derive_eq_error_iff
  · intro higher limitLe program derived
    exact derive_of_limit_le limitLe derived
  · intro deeper depthLe stop stopped
    exact derive_eq_error_of_le depthLe stopped

/-- With room for two replacements a move grows into four, as it does with any
higher limit, and not further. -/
theorem derive_guards_sprouting :
    derive [.sprouting] 9 2 ['g'] =
        .ok ['g', 'f', 'g', 'f', 'g', 'f', 'g'] ∧
      derive [.sprouting] 2 8 ['g'] = .error ⟨2⟩ := by
  have derived : derive [.sprouting] 2 2 ['g'] =
      .ok ['g', 'f', 'g', 'f', 'g', 'f', 'g'] := rfl
  have stopped : derive [.sprouting] 2 3 ['g'] = .error ⟨2⟩ := rfl
  obtain ⟨-, -, raised, -⟩ := derive_guards [.sprouting] 2 2 ['g']
  obtain ⟨-, -, -, deepened⟩ := derive_guards [.sprouting] 2 3 ['g']
  exact ⟨raised 9 (by decide) _ derived, deepened 8 (by decide) _ stopped⟩

end RuleSet

end TurtleSystems
