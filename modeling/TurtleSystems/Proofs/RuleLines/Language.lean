import TurtleSystems.Proofs.Document.Language
import TurtleSystems.Proofs.RuleLines

/-!
# The language of rule lines

A line holds a rule if it is the line of a production, between its trimmed
ends, with the sides of the rule.  Nothing else may stand on it: no comment, no
second arrow, no blanks inside a side and none but spaces and tabs around the
arrow.  Reading a text gives the rules that its lines hold, in order, and
passes over the other lines.
-/

namespace TurtleSystems

/-- A rule stands on a line, and nothing but blanks around it. -/
def Rule.IsOn (rule : Rule) (line : Text) : Prop :=
  Document.ProductionLine (Text.trim line) (Document.sides rule)

/-- The rules that stand on lines, in their order.  A line on which no rule
stands counts for nothing. -/
inductive RuleSet.AreOn : List Text → RuleSet → Prop where
  | nil : AreOn [] []
  | rule {line : Text} {rule : Rule} {lines : List Text} {rules : RuleSet}
      (here : rule.IsOn line) (others : AreOn lines rules) :
      AreOn (line :: lines) (rule :: rules)
  | other {line : Text} {lines : List Text} {rules : RuleSet}
      (nothing : ∀ rule : Rule, ¬ rule.IsOn line)
      (others : AreOn lines rules) : AreOn (line :: lines) rules

namespace Rule

variable {line : Text} {rule : Rule}

theorem areSides_iff_isOn :
    AreSides (Text.trim line) rule.pattern rule.replacement ↔
      rule.IsOn line := by
  constructor
  · rintro ⟨patternNeNil, patternProgram, replacementNeNil,
      replacementProgram, first, before, behind, last, trimmed, blank⟩
    simp only [List.forall_mem_cons] at blank
    obtain ⟨firstBlank, beforeBlank, behindBlank, lastBlank, -⟩ := blank
    have firstNil := Text.eq_nil_of_trim_eq_append
      (fun character member =>
        Text.isBlank_of_isSpaceOrTab (firstBlank character member)) trimmed
    subst firstNil
    rw [List.nil_append] at trimmed
    have grouped : Text.trim line =
        (rule.pattern ++ (before ++ ([arrow] ++ (behind ++
          rule.replacement)))) ++ last := by
      simpa only [List.append_assoc] using trimmed
    have lastNil := Text.eq_nil_of_trim_eq_append_blanks
      (fun character member =>
        Text.isBlank_of_isSpaceOrTab (lastBlank character member)) grouped
    subst lastNil
    rw [List.append_nil] at trimmed
    exact ⟨before, behind, trimmed, beforeBlank, behindBlank,
      patternNeNil, patternProgram, replacementNeNil,
      replacementProgram⟩
  · rintro ⟨before, behind, trimmed, beforeBlank, behindBlank,
      patternNeNil, patternProgram, replacementNeNil,
      replacementProgram⟩
    refine ⟨patternNeNil, patternProgram, replacementNeNil,
      replacementProgram, [], before, behind, [], ?_, ?_⟩
    · rw [trimmed, List.append_nil]
      rfl
    · simp only [List.forall_mem_cons]
      exact ⟨List.forall_mem_nil _, beforeBlank, behindBlank,
        List.forall_mem_nil _, List.forall_mem_nil _⟩

/-- The rule that is read from a line is the one that stands on it. -/
theorem ofLine?_eq_some_iff : ofLine? line = some rule ↔ rule.IsOn line :=
  ofLine?_eq_some_iff_areSides.trans areSides_iff_isOn

theorem ofLine?_eq_none_iff :
    ofLine? line = none ↔ ∀ rule : Rule, ¬ rule.IsOn line := by
  simp only [Option.eq_none_iff_forall_not_mem, Option.mem_def,
    ofLine?_eq_some_iff]

end Rule

namespace RuleSet

theorem filterMap_ofLine_eq_iff {lines : List Text} {rules : RuleSet} :
    lines.filterMap Rule.ofLine? = rules ↔ AreOn lines rules := by
  constructor
  · rintro rfl
    induction lines with
    | nil => exact .nil
    | cons line lines ih =>
        cases found : Rule.ofLine? line with
        | none =>
            rw [List.filterMap_cons_none found]
            exact .other (Rule.ofLine?_eq_none_iff.mp found) ih
        | some rule =>
            rw [List.filterMap_cons_some found]
            exact .rule (Rule.ofLine?_eq_some_iff.mp found) ih
  · intro areOn
    induction areOn with
    | nil => rfl
    | rule here _ ih =>
        rw [List.filterMap_cons_some (Rule.ofLine?_eq_some_iff.mpr here), ih]
    | other nothing _ ih =>
        rw [List.filterMap_cons_none (Rule.ofLine?_eq_none_iff.mpr nothing),
          ih]

/-- The rules of a text are those that stand on its lines.  So the rules on
either side of a line feed do not depend on what is on the other. -/
theorem ofText_eq_iff_areOn (text others : Text) (rules : RuleSet) :
    (ofText text = rules ↔ AreOn (List.splitOn '\n' text) rules) ∧
      ofText (text ++ '\n' :: others) = ofText text ++ ofText others := by
  refine ⟨?_, ofText_append_cons text others⟩
  rw [ofText, Text.splitOn_eq]
  exact filterMap_ofLine_eq_iff

/-- A comment, a second arrow, blanks inside a side, another blank beside the
arrow, a missing side and equal sides: none of these lines holds a rule. -/
example :
    ofText ("f → g#x\nf → g → x\nf f → g\nf\u00a0→ g\nf →\nf → f\r\n" ++
      "\u00a0f\t→g \u2003\r").toList =
      [⟨['f'], ['g'], by decide, by decide, by decide⟩] := by
  decide

end RuleSet

end TurtleSystems
