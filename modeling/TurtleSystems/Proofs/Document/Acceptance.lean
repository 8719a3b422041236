import TurtleSystems.Proofs.Derivation
import TurtleSystems.Proofs.Document.Outline

/-!
# Which texts are documents

A text is read as a system exactly if it describes the system: its outline
comes from its lines, and the outline has to declare a name and a seed at most
once and to give rules.
-/

namespace TurtleSystems.Document

theorem exists_of_mem_forall₂ {α β : Type} {relation : α → β → Prop}
    {first : List α} {second : List β} {other : β}
    (related : List.Forall₂ relation first second) (member : other ∈ second) :
    ∃ value ∈ first, relation value other := by
  induction related with
  | nil => cases member
  | cons here _ ih =>
      rcases List.mem_cons.mp member with rfl | member
      · exact ⟨_, List.mem_cons_self, here⟩
      · obtain ⟨value, valueMem, holds⟩ := ih member
        exact ⟨value, List.mem_cons_of_mem _ valueMem, holds⟩

section Outlines

variable {text : Text} {outline : Outline} {lines : List Text}
variable {sections parts : List Section}
variable {productions others : Option (List Production)}

theorem RulesLines.unique (first : RulesLines lines productions)
    (second : RulesLines lines others) : productions = others := by
  cases productions with
  | none =>
      obtain rfl : lines = [] := first
      cases others with
      | none => rfl
      | some others =>
          obtain ⟨rules, same, -⟩ := second
          cases same
  | some productions =>
      obtain ⟨rules, rfl, isRules⟩ := first
      cases others with
      | none => cases second
      | some others =>
          obtain ⟨_, same, otherRules⟩ := second
          cases same
          have unique : Relator.RightUnique ProductionLine :=
            fun _ _ _ => ProductionLine.unique
          rw [unique.forall₂ isRules otherRules]

theorem IsOutline.unique (first : IsOutline lines sections productions)
    (second : IsOutline lines parts others) :
    sections = parts ∧ productions = others := by
  obtain ⟨header, rest, rfl, isHeader, isRules⟩ := first
  obtain ⟨rfl, otherRules⟩ :=
    (isOutline_append_iff isHeader isRules.noSection).mp second
  exact ⟨rfl, isRules.unique otherRules⟩

/-- The outline that is read is the one that the lines make up. -/
theorem exists_ofText_iff :
    (∃ outline, Outline.ofText text = .ok outline ∧
      outline.sections.map (·.value.trimmed) = sections ∧
      outline.productions.map (·.map (·.value)) = productions) ↔
    IsOutline (bodies text) sections productions := by
  rcases Grammar.document_cases text with
    ⟨parts, others, isOutline, reads⟩ | ⟨noOutline, fails⟩
  · obtain ⟨outline, stop, result, partsEq, othersEq⟩ := reads 0
    have read : Outline.ofText text = .ok outline := by
      simp only [Outline.ofText, Place.first, result]
    constructor
    · rintro ⟨found, foundRead, rfl, rfl⟩
      rw [read] at foundRead
      cases foundRead
      rw [partsEq, othersEq]
      exact isOutline
    · intro found
      obtain ⟨rfl, rfl⟩ := isOutline.unique found
      exact ⟨outline, read, partsEq, othersEq⟩
  · constructor
    · rintro ⟨outline, read, -⟩
      simp only [Outline.ofText, Place.first, fails 0] at read
      cases read
    · intro found
      exact absurd found (noOutline _ _)

end Outlines

section Contents

variable {header next : Header} {parts : List (Located Section)}
variable {productions : List (Located Production)} {rules : RuleSet}

/-- The sections that were read add their names and seeds to those of the
header, and there is room for one of each. -/
theorem foldlM_add_eq_ok_iff :
    parts.foldlM Header.add header = .ok next ↔
      header.name.toList ++
          (parts.map (·.value.trimmed)).filterMap Section.name? =
        next.name.toList ∧
      header.seed.toList ++
          (parts.map (·.value.trimmed)).filterMap Section.seed? =
        next.seed.toList := by
  induction parts generalizing header with
  | nil =>
      obtain ⟨name, seed⟩ := header
      obtain ⟨nextName, nextSeed⟩ := next
      cases name <;> cases nextName <;> cases seed <;> cases nextSeed <;>
        simp [pure, Except.pure]
  | cons part parts ih =>
      rw [List.foldlM_cons, bind_eq_ok, List.map_cons]
      obtain ⟨name, seed⟩ := header
      cases shape : part.value with
      | name label =>
          cases name with
          | none =>
              have added : Header.add ⟨none, seed⟩ part =
                  .ok ⟨some (Text.trim label), seed⟩ := by
                simp [Header.add, shape]
              simp [added, ih, List.filterMap_cons, Section.name?,
                Section.seed?]
          | some other =>
              have repeated : Header.add ⟨some other, seed⟩ part =
                  .error ⟨.repeatedName, part.start, part.stop⟩ := by
                simp [Header.add, shape]
              cases next.name <;> simp [repeated, Section.name?]
      | seed word =>
          cases seed with
          | none =>
              have added : Header.add ⟨name, none⟩ part =
                  .ok ⟨name, some word⟩ := by
                simp [Header.add, shape]
              simp [added, ih, List.filterMap_cons, Section.name?,
                Section.seed?]
          | some other =>
              have repeated : Header.add ⟨name, some other⟩ part =
                  .error ⟨.repeatedSeed, part.start, part.stop⟩ := by
                simp [Header.add, shape]
              cases next.seed <;> simp [repeated, Section.seed?]

theorem rule_eq_ok_iff {part : Located Production} {rule : Rule} :
    Production.rule part = .ok rule ↔ part.value = sides rule := by
  unfold Production.rule
  constructor
  · intro made
    split at made
    · next found makeEq =>
        cases made
        obtain ⟨patternEq, replacementEq⟩ := Rule.sides_of_make makeEq
        rw [sides, patternEq, replacementEq]
    · cases made
  · intro valueEq
    rw [valueEq]
    simp only [sides, Rule.make_sides]

theorem mapM_rule_eq_ok_iff :
    productions.mapM Production.rule = .ok rules ↔
      productions.map (·.value) = rules.map sides := by
  induction productions generalizing rules with
  | nil => cases rules <;> simp [pure, Except.pure]
  | cons part productions ih =>
      simp only [List.mapM_cons, bind_eq_ok, rule_eq_ok_iff, ih]
      cases rules with
      | nil => simp [pure, Except.pure]
      | cons rule rules =>
          simp only [pure, Except.pure, Except.ok.injEq, List.cons.injEq,
            List.map_cons]
          constructor
          · rintro ⟨_, valueEq, _, valuesEq, rfl, rfl⟩
            exact ⟨valueEq, valuesEq⟩
          · rintro ⟨valueEq, valuesEq⟩
            exact ⟨rule, valueEq, rules, valuesEq, rfl, rfl⟩

theorem contents_eq_ok_iff {outline : Outline} :
    outline.contents = .ok (header, some rules) ↔
      outline.sections.foldlM Header.add ⟨none, none⟩ = .ok header ∧
        ∃ productions, outline.productions = some productions ∧
          productions.mapM Production.rule = .ok rules := by
  obtain ⟨sections, productions⟩ := outline
  simp only [Outline.contents, bind_eq_ok]
  cases productions with
  | none => simp [pure, Except.pure]
  | some productions =>
      simp only [bind_eq_ok, pure, Except.pure, Except.ok.injEq,
        Prod.mk.injEq, Option.some.injEq]
      constructor
      · rintro ⟨_, folded, _, mapped, rfl, rfl⟩
        exact ⟨folded, productions, rfl, mapped⟩
      · rintro ⟨folded, _, rfl, mapped⟩
        exact ⟨header, folded, rules, mapped, rfl, rfl⟩

theorem assemble_eq_ok_iff {found : Option RuleSet} {system : LSystem} :
    assemble header found = .ok system ↔
      header.name = some system.name ∧ header.seed = system.seed ∧
        found = some system.rules ∧ system.rules ≠ [] := by
  obtain ⟨name, seed⟩ := header
  obtain ⟨systemName, systemSeed, systemRules⟩ := system
  rcases name with _ | name
  · simp [assemble]
  · rcases found with _ | _ | ⟨rule, rules⟩
    · simp [assemble]
    · simp only [assemble]
      constructor
      · rintro ⟨⟩
      · rintro ⟨-, -, same, neNil⟩
        cases same
        exact absurd rfl neNil
    · simp only [assemble, Except.ok.injEq, LSystem.mk.injEq,
        Option.some.injEq]
      constructor
      · rintro ⟨rfl, rfl, rfl⟩
        exact ⟨rfl, rfl, rfl, List.cons_ne_nil _ _⟩
      · rintro ⟨rfl, rfl, rfl, -⟩
        exact ⟨rfl, rfl, rfl⟩

theorem exists_assemble_iff {outline : Outline} {system : LSystem} :
    (∃ header found, outline.contents = .ok (header, found) ∧
      assemble header found = .ok system) ↔
    Declares (outline.sections.map (·.value.trimmed)) system.name
        system.seed ∧
      system.rules ≠ [] ∧
      outline.productions.map (·.map (·.value)) =
        some (system.rules.map sides) := by
  constructor
  · rintro ⟨header, found, contentsEq, assembled⟩
    obtain ⟨nameEq, seedEq, rfl, neNil⟩ := assemble_eq_ok_iff.mp assembled
    obtain ⟨folded, productions, foundEq, mapped⟩ :=
      contents_eq_ok_iff.mp contentsEq
    obtain ⟨names, seeds⟩ := foldlM_add_eq_ok_iff.mp folded
    rw [nameEq] at names
    rw [seedEq] at seeds
    rw [foundEq, Option.map_some, mapM_rule_eq_ok_iff.mp mapped]
    exact ⟨⟨names, seeds⟩, neNil, rfl⟩
  · rintro ⟨⟨names, seeds⟩, neNil, productionsEq⟩
    obtain ⟨productions, foundEq, valuesEq⟩ :=
      Option.map_eq_some_iff.mp productionsEq
    refine ⟨⟨some system.name, system.seed⟩, some system.rules,
      contents_eq_ok_iff.mpr ⟨foldlM_add_eq_ok_iff.mpr ⟨names, seeds⟩,
        productions, foundEq, mapM_rule_eq_ok_iff.mpr valuesEq⟩,
      assemble_eq_ok_iff.mpr ⟨rfl, rfl, rfl, neNil⟩⟩

end Contents

section Reading

variable {text : Text} {system : LSystem}

/-- A text is read as a system if it is not too large and an outline for the
system is read from its lines. -/
theorem read_eq_ok_iff_outline :
    read text = .ok system ↔
      Text.byteLength text ≤ maximumSize ∧
        ∃ outline, Outline.ofText (Text.trim text) = .ok outline ∧
          ∃ header found, outline.contents = .ok (header, found) ∧
            assemble header found = .ok system := by
  unfold read
  by_cases large : maximumSize < Text.byteLength text
  · rw [if_pos large]
    constructor
    · intro read
      cases read
    · rintro ⟨fits, -⟩
      omega
  · rw [if_neg large]
    have fits : Text.byteLength text ≤ maximumSize := by omega
    cases outlineRead : Outline.ofText (Text.trim text) with
    | error offset => simp [outlineRead]
    | ok outline =>
        cases contentsEq : outline.contents with
        | error found => simp [outlineRead, contentsEq]
        | ok contents =>
            obtain ⟨header, found⟩ := contents
            simp [outlineRead, contentsEq, fits]

theorem describes_of_read (read : read text = .ok system) :
    Describes text system := by
  obtain ⟨fits, outline, outlineRead, assembled⟩ :=
    read_eq_ok_iff_outline.mp read
  obtain ⟨declares, neNil, productionsEq⟩ :=
    exists_assemble_iff.mp assembled
  obtain ⟨header, rest, linesEq, isHeader, isRules⟩ :=
    exists_ofText_iff.mp ⟨outline, outlineRead, rfl, rfl⟩
  rw [productionsEq] at isRules
  obtain ⟨rules, rfl, isRules⟩ := isRules
  refine ⟨fits, header, _, rules, linesEq, isHeader, declares, ?_,
    List.forall₂_map_right_iff.mp isRules⟩
  rintro rfl
  cases rulesEq : system.rules with
  | nil => exact neNil rulesEq
  | cons rule others =>
      rw [rulesEq] at isRules
      cases isRules

theorem read_of_describes (describes : Describes text system) :
    read text = .ok system := by
  obtain ⟨fits, header, sections, rules, linesEq, isHeader, declares, neNil,
    isRules⟩ := describes
  have isOutline : IsOutline (bodies (Text.trim text)) sections
      (some (system.rules.map sides)) :=
    ⟨header, rulesHeading :: rules, linesEq, isHeader, rules, rfl,
      List.forall₂_map_right_iff.mpr isRules⟩
  obtain ⟨outline, outlineRead, rfl, productionsEq⟩ :=
    exists_ofText_iff.mpr isOutline
  refine read_eq_ok_iff_outline.mpr ⟨fits, outline, outlineRead,
    exists_assemble_iff.mpr ⟨declares, ?_, productionsEq⟩⟩
  intro noRules
  rw [noRules] at isRules
  cases isRules
  exact neNil rfl

/-- The texts that are read as a system are those that describe it. -/
theorem read_eq_ok_iff_describes (text : Text) (system : LSystem) :
    read text = .ok system ↔ Describes text system :=
  ⟨describes_of_read, read_of_describes⟩

end Reading

end TurtleSystems.Document
