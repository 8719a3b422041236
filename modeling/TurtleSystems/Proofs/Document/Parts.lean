import TurtleSystems.Proofs.Document.Blanks

/-!
# Reading the parts of a document

On the body of a line the readers of sections and of productions do what the
language of documents says.  A section takes its whole line, or fails where
the line is none.  A production may also leave something behind it, and then
the line is not that of a production.
-/

namespace TurtleSystems.Document

/-- A section with the name that its label stands for. -/
def Section.trimmed : Section → Section
  | .name label => .name (Text.trim label)
  | .seed word => .seed word

@[simp]
theorem Section.trimmed_name (label : Text) :
    (Section.name label).trimmed = .name (Text.trim label) := rfl

@[simp]
theorem Section.trimmed_seed (word : Text) :
    (Section.seed word).trimmed = .seed word := rfl

section Words

variable {content behind margin word : Text}

theorem symbols_cases (content : Text) (isMargin : IsMargin margin) :
    (content.takeWhile Text.isSymbol = [] ∧
      Reader.symbols.Fails (content ++ margin)) ∨
    (content.takeWhile Text.isSymbol ≠ [] ∧
      Reader.symbols.Reads (content ++ margin)
        (· = content.takeWhile Text.isSymbol)
        (content.dropWhile Text.isSymbol ++ margin)) := by
  have whole : content.takeWhile Text.isSymbol ++
      content.dropWhile Text.isSymbol = content :=
    List.takeWhile_append_dropWhile
  have stops := (Text.stops_dropWhile Text.isSymbol content).append
    isMargin.stops_symbol
  by_cases nothing : content.takeWhile Text.isSymbol = []
  · left
    rw [nothing, List.nil_append] at whole
    rw [whole] at stops
    exact ⟨nothing, (Reader.fails_word stops).named⟩
  · right
    refine ⟨nothing, ?_⟩
    have reads := Reader.reads_word nothing
      (fun _ => Text.passes_of_mem_takeWhile) stops
    rw [← List.append_assoc, whole] at reads
    exact reads.named

theorem symbols_afterGap_cases (isContent : IsContent content)
    (isMargin : IsMargin margin) :
    let word := content.dropWhile Text.isSpaceOrTab
    (word.takeWhile Text.isSymbol = [] ∧
      Reader.symbols.Fails (afterGap (content ++ margin))) ∨
    (word.takeWhile Text.isSymbol ≠ [] ∧
      Reader.symbols.Reads (afterGap (content ++ margin))
        (· = word.takeWhile Text.isSymbol)
        (word.dropWhile Text.isSymbol ++ margin)) := by
  by_cases neNil : content = []
  · subst neNil
    refine .inl ⟨rfl, (Reader.fails_word ?_).named⟩
    intro character found
    have lineEnd := isMargin character found
    simp only [Bool.not_eq_false'] at lineEnd
    rcases eq_of_isLineEnd lineEnd with rfl | rfl <;> rfl
  · rw [afterGap_content_append isContent neNil]
    exact symbols_cases _ isMargin

theorem isProgram_iff_dropWhile :
    Text.isProgram word = true ↔ word.dropWhile Text.isSymbol = [] :=
  Text.dropWhile_eq_nil_iff_all.symm

theorem takeWhile_of_isProgram (program : Text.isProgram word = true) :
    word.takeWhile Text.isSymbol = word :=
  List.takeWhile_eq_self_iff.mpr (List.all_eq_true.mp program)

end Words

section Lines

variable {content : Text}

theorem sectionLine_name_iff (part : Section) :
    SectionLine (nameHeading ++ content) part ↔
      content ≠ [] ∧ part = .name (Text.trim content) := by
  constructor
  · cases part with
    | name name =>
        rintro ⟨blanks, label, same, blank, labelNeNil, rfl⟩
        rw [List.append_cancel_left same,
          Text.trim_append_of_blanks fun character member =>
            Text.isBlank_of_isSpaceOrTab (blank character member)]
        simp [labelNeNil]
    | seed word =>
        rintro ⟨blanks, same, -⟩
        cases same
  · rintro ⟨neNil, rfl⟩
    exact ⟨[], content, rfl, List.forall_mem_nil _, neNil, rfl⟩

theorem sectionLine_seed_iff (part : Section) :
    SectionLine (seedHeading ++ content) part ↔
      content.dropWhile Text.isSpaceOrTab ≠ [] ∧
        Text.isProgram (content.dropWhile Text.isSpaceOrTab) = true ∧
        part = .seed (content.dropWhile Text.isSpaceOrTab) := by
  constructor
  · cases part with
    | name name =>
        rintro ⟨blanks, label, same, -⟩
        cases same
    | seed word =>
        rintro ⟨blanks, same, blank, neNil, program⟩
        have stops := Text.stops_space_of_isProgram program neNil []
        rw [List.append_nil] at stops
        rw [List.append_cancel_left same,
          Text.dropWhile_append_of_stops blank stops]
        exact ⟨neNil, program, rfl⟩
  · rintro ⟨neNil, program, rfl⟩
    exact ⟨content.takeWhile Text.isSpaceOrTab,
      by rw [List.takeWhile_append_dropWhile],
      fun _ => Text.passes_of_mem_takeWhile, neNil, program⟩

theorem not_sectionLine (noName : ¬ nameHeading <+: content)
    (noSeed : ¬ seedHeading <+: content) (part : Section) :
    ¬ SectionLine content part := by
  cases part with
  | name name =>
      rintro ⟨blanks, label, rfl, -⟩
      exact noName (List.prefix_append _ _)
  | seed word =>
      rintro ⟨blanks, rfl, -⟩
      exact noSeed (List.prefix_append _ _)

theorem SectionLine.unique {part other : Section}
    (first : SectionLine content part) (second : SectionLine content other) :
    part = other := by
  have headed : (∃ rest, content = nameHeading ++ rest) ∨
      ∃ rest, content = seedHeading ++ rest := by
    cases part with
    | name name =>
        obtain ⟨blanks, label, shape, -⟩ := first
        exact .inl ⟨_, shape⟩
    | seed word =>
        obtain ⟨blanks, shape, -⟩ := first
        exact .inr ⟨_, shape⟩
  rcases headed with ⟨rest, rfl⟩ | ⟨rest, rfl⟩
  · rw [sectionLine_name_iff] at first second
    rw [first.2, second.2]
  · rw [sectionLine_seed_iff] at first second
    rw [first.2.2, second.2.2]

theorem not_sectionLine_rulesHeading (part : Section) :
    ¬ SectionLine rulesHeading part := by
  refine not_sectionLine ?_ ?_ part <;> decide

/-- The line of a production, taken apart from the left. -/
theorem productionLine_iff (production : Production) :
    ProductionLine content production ↔
      ∃ behind,
        (content.dropWhile Text.isSymbol).dropWhile Text.isSpaceOrTab =
          Rule.arrow :: behind ∧
        content.takeWhile Text.isSymbol ≠ [] ∧
        behind.dropWhile Text.isSpaceOrTab ≠ [] ∧
        Text.isProgram (behind.dropWhile Text.isSpaceOrTab) = true ∧
        production = ⟨content.takeWhile Text.isSymbol,
          behind.dropWhile Text.isSpaceOrTab⟩ := by
  constructor
  · obtain ⟨pattern, replacement⟩ := production
    rintro ⟨before, behind, rfl, beforeBlank, behindBlank, patternNeNil,
      patternProgram, replacementNeNil, replacementProgram⟩
    have patternPass := List.all_eq_true.mp patternProgram
    have arrowStops (rest : Text) :
        Text.Stops Text.isSymbol (Rule.arrow :: rest) :=
      Text.stops_cons_iff.mpr rfl
    have patternStops : Text.Stops Text.isSymbol
        (before ++ Rule.arrow :: (behind ++ replacement)) :=
      (Text.stops_symbol_of_blanks beforeBlank).append (arrowStops _)
    have replacementStops :=
      Text.stops_space_of_isProgram replacementProgram replacementNeNil []
    rw [List.append_nil] at replacementStops
    have replacementEq : (behind ++ replacement).dropWhile
        Text.isSpaceOrTab = replacement :=
      Text.dropWhile_append_of_stops behindBlank replacementStops
    refine ⟨behind ++ replacement, ?_, ?_, ?_, ?_, ?_⟩
    · rw [Text.dropWhile_append_of_stops patternPass patternStops]
      exact Text.dropWhile_append_of_stops beforeBlank
        (Text.stops_cons_iff.mpr rfl)
    · rwa [Text.takeWhile_append_of_stops patternPass patternStops]
    · rwa [replacementEq]
    · rwa [replacementEq]
    · rw [replacementEq,
        Text.takeWhile_append_of_stops patternPass patternStops]
  · rintro ⟨behind, after, patternNeNil, replacementNeNil,
      replacementProgram, rfl⟩
    refine ⟨(content.dropWhile Text.isSymbol).takeWhile Text.isSpaceOrTab,
      behind.takeWhile Text.isSpaceOrTab, ?_,
      fun _ => Text.passes_of_mem_takeWhile,
      fun _ => Text.passes_of_mem_takeWhile, patternNeNil,
      List.all_takeWhile, replacementNeNil, replacementProgram⟩
    simp only
    rw [List.takeWhile_append_dropWhile, ← after,
      List.takeWhile_append_dropWhile, List.takeWhile_append_dropWhile]

theorem ProductionLine.unique {part other : Production}
    (first : ProductionLine content part)
    (second : ProductionLine content other) : part = other := by
  obtain ⟨behind, after, -, -, -, rfl⟩ := (productionLine_iff part).mp first
  obtain ⟨_, same, -, -, -, rfl⟩ := (productionLine_iff other).mp second
  rw [after] at same
  cases same
  rfl

end Lines

namespace Grammar

open Reader

section Sections

variable {content margin : Text}

theorem nameHeading_plain :
    ∀ character ∈ nameHeading, isPlain character = true :=
  List.all_eq_true.mp rfl

theorem seedHeading_plain :
    ∀ character ∈ seedHeading, isPlain character = true :=
  List.all_eq_true.mp rfl

theorem rulesHeading_plain :
    ∀ character ∈ rulesHeading, isPlain character = true :=
  List.all_eq_true.mp rfl

theorem fails_heading {heading : Text}
    (plain : ∀ character ∈ heading, isPlain character = true)
    (isMargin : IsMargin margin) (other : ¬ heading <+: content) :
    (literal heading).Fails (content ++ margin) :=
  fails_literal fun begins =>
    other (prefix_of_prefix_append_margin plain isMargin begins)

theorem exists_reads_label (isContent : IsContent content)
    (neNil : content ≠ []) (isMargin : IsMargin margin) :
    ∃ blanks, (∀ character ∈ blanks, Text.isSpaceOrTab character = true) ∧
      label.Reads (content ++ margin) (· = content ++ blanks)
        (margin.dropWhile Text.isSpaceOrTab) := by
  have blank : ∀ character ∈ margin.takeWhile Text.isSpaceOrTab,
      Text.isSpaceOrTab character = true :=
    fun _ => Text.passes_of_mem_takeWhile
  refine ⟨_, blank, ?_⟩
  have pass : ∀ character ∈ content ++ margin.takeWhile Text.isSpaceOrTab,
      (!(isLineEnd character || isCommentMark character)) = true := by
    intro character member
    rcases List.mem_append.mp member with member | member
    · simp [isContent.not_lineEnd character member,
        isContent.not_commentMark character member]
    · simp [not_isLineEnd_of_isSpaceOrTab (blank character member),
        not_isCommentMark_of_isSpaceOrTab (blank character member)]
  have stops : Text.Stops
      (fun character => !(isLineEnd character || isCommentMark character))
      (margin.dropWhile Text.isSpaceOrTab) := by
    intro character found
    have noSpace := Text.stops_dropWhile Text.isSpaceOrTab margin character
      found
    have notPlain := isMargin.dropWhile.stops_plain character found
    simp only [isPlain, noSpace, Bool.false_or] at notPlain
    rw [← notPlain, Bool.or_comm]
  have reads := reads_word (by simp [neNil]) pass stops
  rw [List.append_assoc, List.takeWhile_append_dropWhile] at reads
  exact reads.named

theorem fails_label (boundary : IsBoundary content) : label.Fails content := by
  refine (fails_word fun character found => ?_).named
  have lineEnd := boundary character found
  simp only [Bool.not_eq_false'] at lineEnd
  simp [lineEnd]

theorem reads_nameSection (isContent : IsContent content)
    (neNil : content ≠ []) (isMargin : IsMargin margin) :
    nameSection.Reads (nameHeading ++ (content ++ margin))
      (·.value.trimmed = .name (Text.trim content))
      (margin.dropWhile Text.isSpaceOrTab) := by
  have isBody := isContent.isBody_dropWhile neNil
  obtain ⟨blanks, blank, labelReads⟩ :=
    exists_reads_label isBody.toIsContent isBody.ne_nil isMargin
  have gapReads := reads_gap (content ++ margin)
  rw [afterGap_content_append isContent neNil] at gapReads
  have reads : Reads
      (do literal nameHeading; gap; return Section.name (← label))
      (nameHeading ++ (content ++ margin))
      (Section.trimmed · = .name (Text.trim content))
      (margin.dropWhile Text.isSpaceOrTab) := by
    refine (reads_literal nameHeading _).bind fun _ _ =>
      gapReads.bind fun _ _ => labelReads.bind fun label labelEq =>
        reads_pure ?_
    rw [labelEq, Section.trimmed, Text.trim_append_blanks fun character
        member => Text.isBlank_of_isSpaceOrTab (blank character member),
      Text.trim_dropWhile_space]
  exact reads.located.named

theorem fails_nameSection (isMargin : IsMargin margin) :
    nameSection.Fails (nameHeading ++ margin) := by
  have fails : Fails
      (do literal nameHeading; gap; return Section.name (← label))
      (nameHeading ++ margin) :=
    (reads_literal nameHeading margin).bind_fails fun _ _ =>
      (reads_gap margin).bind_fails fun _ _ => (fails_label isMargin).bind
  exact fails.located.named

/-- A seed section is read up to the end of its word. -/
theorem seedSection_cases (isContent : IsContent content)
    (isMargin : IsMargin margin) :
    let word := content.dropWhile Text.isSpaceOrTab
    (word.takeWhile Text.isSymbol = [] ∧
      seedSection.Fails (seedHeading ++ (content ++ margin))) ∨
    (word.takeWhile Text.isSymbol ≠ [] ∧
      seedSection.Reads (seedHeading ++ (content ++ margin))
        (·.value.trimmed = .seed (word.takeWhile Text.isSymbol))
        (word.dropWhile Text.isSymbol ++ margin)) := by
  intro word
  have gapReads := reads_gap (content ++ margin)
  rcases symbols_afterGap_cases isContent isMargin with
    ⟨nothing, symbolsFail⟩ | ⟨something, symbolsRead⟩
  · have fails : Fails
        (do literal seedHeading; gap; return Section.seed (← symbols))
        (seedHeading ++ (content ++ margin)) :=
      (reads_literal seedHeading _).bind_fails fun _ _ =>
        gapReads.bind_fails fun _ _ => symbolsFail.bind
    exact .inl ⟨nothing, fails.located.named⟩
  · have reads : Reads
        (do literal seedHeading; gap; return Section.seed (← symbols))
        (seedHeading ++ (content ++ margin))
        (Section.trimmed · = .seed (word.takeWhile Text.isSymbol))
        (word.dropWhile Text.isSymbol ++ margin) := by
      refine (reads_literal seedHeading _).bind fun _ _ =>
        gapReads.bind fun _ _ => symbolsRead.bind fun found foundEq =>
          reads_pure ?_
      rw [foundEq]
      rfl
    exact .inr ⟨something, reads.located.named⟩

/-- A line is read as the section that it is, up to the next line that counts,
or it is none and cannot be read. -/
def ReadsSectionLine (content margin : Text) : Prop :=
  (∃ part left, SectionLine content part ∧
    sectionLine.Reads (content ++ margin) (·.value.trimmed = part) left ∧
    standings left = standings margin ∧ left.length ≤ margin.length ∧
    IsSettled left) ∨
  (sectionLine.Fails (content ++ margin) ∧
    ∀ part, ¬ SectionLine content part)

theorem fails_seedSection_of_other (isMargin : IsMargin margin)
    (other : ¬ seedHeading <+: content) :
    seedSection.Fails (content ++ margin) :=
  (fails_heading seedHeading_plain isMargin other).bind.located.named

theorem fails_nameSection_of_other (isMargin : IsMargin margin)
    (other : ¬ nameHeading <+: content) :
    nameSection.Fails (content ++ margin) :=
  (fails_heading nameHeading_plain isMargin other).bind.located.named

theorem readsSectionLine_name (isContent : IsContent content)
    (isMargin : IsMargin margin) :
    ReadsSectionLine (nameHeading ++ content) margin := by
  have seedFails : seedSection.Fails (nameHeading ++ (content ++ margin)) := by
    rw [← List.append_assoc]
    refine fails_seedSection_of_other isMargin ?_
    rintro ⟨others, same⟩
    cases same
  rw [ReadsSectionLine, List.append_assoc]
  by_cases neNil : content = []
  · subst neNil
    right
    refine ⟨((fails_nameSection isMargin).either_fails seedFails).bind, ?_⟩
    intro part found
    exact ((sectionLine_name_iff part).mp found).1 rfl
  · left
    obtain ⟨left, endReads, standingsEq, leftLe, settled⟩ :=
      exists_reads_lineEnd isMargin.dropWhile
    have marginLe := List.length_dropWhile_le Text.isSpaceOrTab margin
    rw [standings_dropWhile] at standingsEq
    refine ⟨_, left, (sectionLine_name_iff _).mpr ⟨neNil, rfl⟩, ?_,
      standingsEq, by omega, settled⟩
    exact (reads_nameSection isContent neNil isMargin).either.bind
      fun part partEq => endReads.bind fun _ _ => reads_pure partEq

theorem readsSectionLine_seed (isContent : IsContent content)
    (isMargin : IsMargin margin) :
    ReadsSectionLine (seedHeading ++ content) margin := by
  have nameFails : nameSection.Fails (seedHeading ++ (content ++ margin)) := by
    rw [← List.append_assoc]
    refine fails_nameSection_of_other isMargin ?_
    rintro ⟨others, same⟩
    cases same
  rw [ReadsSectionLine, List.append_assoc]
  rcases seedSection_cases isContent isMargin with
    ⟨nothing, seedFails⟩ | ⟨something, seedReads⟩
  · right
    refine ⟨(nameFails.either_fails seedFails).bind, ?_⟩
    intro part found
    obtain ⟨neNil, program, -⟩ := (sectionLine_seed_iff part).mp found
    rw [takeWhile_of_isProgram program] at nothing
    exact neNil nothing
  by_cases junkNil :
      (content.dropWhile Text.isSpaceOrTab).dropWhile Text.isSymbol = []
  · left
    have program := isProgram_iff_dropWhile.mpr junkNil
    rw [takeWhile_of_isProgram program] at something seedReads
    rw [junkNil, List.nil_append] at seedReads
    obtain ⟨left, endReads, standingsEq, leftLe, settled⟩ :=
      exists_reads_lineEnd isMargin
    refine ⟨_, left, (sectionLine_seed_iff _).mpr ⟨something, program, rfl⟩,
      ?_, standingsEq, leftLe, settled⟩
    exact (nameFails.either seedReads).bind fun part partEq =>
      endReads.bind fun _ _ => reads_pure partEq
  · right
    have junkContent := (isContent.dropWhile Text.isSpaceOrTab).dropWhile
      Text.isSymbol
    refine ⟨(nameFails.either seedReads).bind_fails fun _ _ =>
      (fails_lineEnd junkContent junkNil margin).bind, ?_⟩
    intro part found
    obtain ⟨-, program, -⟩ := (sectionLine_seed_iff part).mp found
    exact junkNil (isProgram_iff_dropWhile.mp program)

theorem readsSectionLine (isBody : IsBody content)
    (isMargin : IsMargin margin) : ReadsSectionLine content margin := by
  by_cases isName : nameHeading <+: content
  · obtain ⟨rest, rfl⟩ := isName
    exact readsSectionLine_name isBody.toIsContent.suffix isMargin
  by_cases isSeed : seedHeading <+: content
  · obtain ⟨rest, rfl⟩ := isSeed
    exact readsSectionLine_seed isBody.toIsContent.suffix isMargin
  · exact .inr ⟨((fails_nameSection_of_other isMargin
      isName).either_fails (fails_seedSection_of_other isMargin isSeed)).bind,
      not_sectionLine isName isSeed⟩

theorem fails_sectionLine_nil : sectionLine.Fails [] := by
  have nameFails : (literal nameHeading).Fails [] :=
    fails_literal (by simp [nameHeading])
  have seedFails : (literal seedHeading).Fails [] :=
    fails_literal (by simp [seedHeading])
  exact (nameFails.bind.located.named.either_fails
    seedFails.bind.located.named).bind

end Sections

section Productions

variable {content margin : Text}

/-- A line is read as the production that it is, or it is none, and then it
cannot be read or something is left of it. -/
def ReadsProduction (content margin : Text) : Prop :=
  (∃ part, ProductionLine content part ∧
    production.Reads (content ++ margin) (·.value = part) margin) ∨
  ((∀ part, ¬ ProductionLine content part) ∧
    (production.Fails (content ++ margin) ∨
      ∃ junk, IsContent junk ∧ junk ≠ [] ∧ junk.length < content.length ∧
        production.Reads (content ++ margin) (fun _ => True)
          (junk ++ margin)))

theorem arrow_afterGap_cases (isContent : IsContent content)
    (isMargin : IsMargin margin) :
    (∃ behind, content.dropWhile Text.isSpaceOrTab = Rule.arrow :: behind ∧
      afterGap (content ++ margin) = [Rule.arrow] ++ (behind ++ margin)) ∨
    ((∀ behind, content.dropWhile Text.isSpaceOrTab ≠ Rule.arrow :: behind) ∧
      (literal [Rule.arrow]).Fails (afterGap (content ++ margin))) := by
  by_cases neNil : content = []
  · subst neNil
    refine .inr ⟨by simp, fails_literal ?_⟩
    rintro ⟨rest, same⟩
    have boundary : IsBoundary (afterGap ([] ++ margin)) := isMargin
    rw [← same] at boundary
    simp [IsBoundary, isLineEnd, Rule.arrow] at boundary
  have isBody := isContent.isBody_dropWhile neNil
  rw [afterGap_content_append isContent neNil]
  obtain ⟨first, behind, shape⟩ := List.exists_cons_of_ne_nil isBody.ne_nil
  rw [shape]
  by_cases isArrow : first = Rule.arrow
  · subst isArrow
    exact .inl ⟨behind, rfl, rfl⟩
  · right
    refine ⟨fun others same => isArrow (List.cons.inj same).1,
      fails_literal ?_⟩
    rintro ⟨rest, same⟩
    exact isArrow (List.cons.inj same).1.symm

section Sides

variable {text left : Text} {pattern replacement first second : Text}

theorem fails_production_of_arrow
    (patternReads : symbols.Reads text (· = pattern) first)
    (arrowFails : (literal [Rule.arrow]).Fails (afterGap first)) :
    production.Fails text :=
  (patternReads.bind_fails fun _ _ => (reads_gap first).bind_fails fun _ _ =>
    arrowFails.bind).located.named

theorem fails_production_of_replacement
    (patternReads : symbols.Reads text (· = pattern) first)
    (arrowBehind : afterGap first = [Rule.arrow] ++ second)
    (replacementFails : symbols.Fails (afterGap second)) :
    production.Fails text := by
  have beforeReads := reads_gap first
  rw [arrowBehind] at beforeReads
  exact (patternReads.bind_fails fun _ _ => beforeReads.bind_fails fun _ _ =>
    (reads_literal [Rule.arrow] second).bind_fails fun _ _ =>
      (reads_gap second).bind_fails fun _ _ =>
        replacementFails.bind).located.named

theorem reads_production
    (patternReads : symbols.Reads text (· = pattern) first)
    (arrowBehind : afterGap first = [Rule.arrow] ++ second)
    (replacementReads : symbols.Reads (afterGap second) (· = replacement)
      left) :
    production.Reads text (·.value = ⟨pattern, replacement⟩) left := by
  have beforeReads := reads_gap first
  rw [arrowBehind] at beforeReads
  have reads : Reads (do
        let pattern ← symbols
        gap
        literal [Rule.arrow]
        gap
        return Production.mk pattern (← symbols))
      text (· = ⟨pattern, replacement⟩) left := by
    refine patternReads.bind fun found foundEq =>
      beforeReads.bind fun _ _ =>
        (reads_literal [Rule.arrow] second).bind fun _ _ =>
          (reads_gap second).bind fun _ _ => replacementReads.bind
            fun other otherEq => reads_pure ?_
    rw [foundEq, otherEq]
  exact reads.located.named

end Sides

theorem length_lt_of_arrow {behind : Text}
    (after : (content.dropWhile Text.isSymbol).dropWhile Text.isSpaceOrTab =
      Rule.arrow :: behind) : behind.length < content.length := by
  have restLe := List.length_dropWhile_le Text.isSymbol content
  have afterLe := List.length_dropWhile_le Text.isSpaceOrTab
    (content.dropWhile Text.isSymbol)
  rw [after, List.length_cons] at afterLe
  omega

theorem readsProduction (isContent : IsContent content)
    (isMargin : IsMargin margin) : ReadsProduction content margin := by
  have restContent := isContent.dropWhile Text.isSymbol
  rcases symbols_cases content isMargin with
    ⟨noPattern, patternFails⟩ | ⟨patternNeNil, patternReads⟩
  · right
    refine ⟨?_, .inl patternFails.bind.located.named⟩
    intro part found
    obtain ⟨_, _, patternNeNil, -⟩ := (productionLine_iff part).mp found
    exact patternNeNil noPattern
  rcases arrow_afterGap_cases restContent isMargin with
    ⟨behind, after, behindEq⟩ | ⟨noArrow, arrowFails⟩
  swap
  · right
    refine ⟨?_, .inl (fails_production_of_arrow patternReads arrowFails)⟩
    intro part found
    obtain ⟨behind, after, -⟩ := (productionLine_iff part).mp found
    exact noArrow behind after
  have behindContent : IsContent behind := by
    have whole := restContent.dropWhile Text.isSpaceOrTab
    rw [after, ← List.singleton_append] at whole
    exact whole.suffix
  -- A production that the line is has all that is behind the arrow.
  have programOfFound {part : Production}
      (found : ProductionLine content part) :
      behind.dropWhile Text.isSpaceOrTab ≠ [] ∧
        Text.isProgram (behind.dropWhile Text.isSpaceOrTab) = true := by
    obtain ⟨_, same, -, neNil, program, -⟩ :=
      (productionLine_iff part).mp found
    rw [after] at same
    cases same
    exact ⟨neNil, program⟩
  rcases symbols_afterGap_cases behindContent isMargin with
    ⟨noReplacement, replacementFails⟩ |
    ⟨replacementNeNil, replacementReads⟩
  · right
    refine ⟨?_, .inl (fails_production_of_replacement patternReads behindEq
      replacementFails)⟩
    intro part found
    obtain ⟨neNil, program⟩ := programOfFound found
    rw [takeWhile_of_isProgram program] at noReplacement
    exact neNil noReplacement
  have reads := reads_production patternReads behindEq replacementReads
  let word := behind.dropWhile Text.isSpaceOrTab
  by_cases junkNil : word.dropWhile Text.isSymbol = []
  · left
    have program := isProgram_iff_dropWhile.mpr junkNil
    have wordEq := takeWhile_of_isProgram program
    rw [junkNil, List.nil_append, wordEq] at reads
    rw [wordEq] at replacementNeNil
    refine ⟨_, (productionLine_iff _).mpr ?_, reads⟩
    exact ⟨behind, after, patternNeNil, replacementNeNil, program, rfl⟩
  · right
    refine ⟨?_, .inr ⟨_, (behindContent.dropWhile _).dropWhile _, junkNil, ?_,
      reads.weaken fun _ _ => trivial⟩⟩
    · intro part found
      exact junkNil (isProgram_iff_dropWhile.mp (programOfFound found).2)
    · have junkLe := List.length_dropWhile_le Text.isSymbol
        (behind.dropWhile Text.isSpaceOrTab)
      have wordLe := List.length_dropWhile_le Text.isSpaceOrTab behind
      have behindLt := length_lt_of_arrow after
      omega

end Productions

end Grammar

end TurtleSystems.Document
