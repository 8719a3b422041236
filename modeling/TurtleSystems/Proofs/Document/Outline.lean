import TurtleSystems.Proofs.Document.Parts

/-!
# Reading an outline

The lines of a text that count are read one after the other: section lines as
long as there are any, the heading of the rules, and production lines as long
as there are any.  A text has an outline exactly if nothing is left then.
-/

namespace TurtleSystems.Document

/-- Lines from the heading of the rules on, or none. -/
def RulesLines (lines : List Text) : Option (List Production) → Prop
  | none => lines = []
  | some productions => ∃ rules, lines = rulesHeading :: rules ∧
      List.Forall₂ ProductionLine rules productions

/-- The lines of an outline. -/
def IsOutline (lines : List Text) (sections : List Section)
    (productions : Option (List Production)) : Prop :=
  ∃ header rest, lines = header ++ rest ∧
    List.Forall₂ SectionLine header sections ∧ RulesLines rest productions

/-- No section stands on the first of the lines. -/
def NoSection (lines : List Text) : Prop :=
  ∀ content ∈ lines.head?, ∀ part, ¬ SectionLine content part

section Lines

variable {header rest others : List Text} {sections parts : List Section}
variable {productions : Option (List Production)}

theorem RulesLines.noSection (isRules : RulesLines rest productions) :
    NoSection rest := by
  cases productions with
  | none =>
      obtain rfl : rest = [] := isRules
      simp [NoSection]
  | some productions =>
      obtain ⟨rules, rfl, -⟩ := isRules
      rintro content ⟨⟩
      exact not_sectionLine_rulesHeading

theorem sections_unique {first : List Text}
    (isHeader : List.Forall₂ SectionLine first sections)
    (noSection : NoSection rest)
    (otherHeader : List.Forall₂ SectionLine header parts)
    (otherNoSection : NoSection others)
    (same : first ++ rest = header ++ others) :
    sections = parts ∧ rest = others := by
  induction isHeader generalizing header parts with
  | nil =>
      cases otherHeader with
      | nil => exact ⟨rfl, same⟩
      | cons isSection _ =>
          rw [List.nil_append] at same
          rw [same] at noSection
          exact absurd isSection (noSection _ rfl _)
  | cons isSection _ ih =>
      cases otherHeader with
      | nil =>
          rw [List.nil_append] at same
          rw [← same] at otherNoSection
          exact absurd isSection (otherNoSection _ rfl _)
      | cons otherSection otherHeader =>
          obtain ⟨rfl, sameRest⟩ := List.cons.inj same
          obtain ⟨rfl, restEq⟩ := ih otherHeader sameRest
          rw [isSection.unique otherSection]
          exact ⟨rfl, restEq⟩

/-- Behind all section lines an outline goes on with its rules. -/
theorem isOutline_append_iff
    (isHeader : List.Forall₂ SectionLine header sections)
    (noSection : NoSection rest) :
    IsOutline (header ++ rest) parts productions ↔
      parts = sections ∧ RulesLines rest productions := by
  constructor
  · rintro ⟨otherHeader, others, same, otherSections, isRules⟩
    obtain ⟨rfl, rfl⟩ := sections_unique isHeader noSection otherSections
      isRules.noSection same
    exact ⟨rfl, isRules⟩
  · rintro ⟨rfl, isRules⟩
    exact ⟨header, rest, rfl, isHeader, isRules⟩

end Lines

namespace Grammar

open Reader

variable {text margin : Text}

theorem exists_repeats_sectionLine (text : Text) (settled : IsSettled text) :
    ∃ header sections left, bodies text = header ++ bodies left ∧
      List.Forall₂ SectionLine header sections ∧ NoSection (bodies left) ∧
      Repeats (do gap; sectionLine) text
        (·.map (·.value.trimmed) = sections) left ∧
      IsSettled left := by
  induction lengthEq : text.length using Nat.strongRecOn generalizing text with
  | ind length ih =>
      subst lengthEq
      have gapReads := reads_gap text
      have gapLe := length_afterGap_le text
      rcases settled.cases with ⟨nothing, noBodies⟩ |
        ⟨content, margin, textEq, isBody, isMargin, bodiesEq⟩
      · rw [nothing] at gapReads
        have fails := gapReads.bind_fails fun _ _ => fails_sectionLine_nil
        refine ⟨[], [], text, rfl, .nil, ?_, .stop fails rfl, settled⟩
        simp [noBodies, NoSection]
      rw [textEq] at gapReads gapLe
      rcases readsSectionLine isBody isMargin with
        ⟨part, middle, isSection, reads, middleEq, middleLe, middleSettled⟩ |
        ⟨fails, sectionless⟩
      · have contentPos := List.length_pos_iff.mpr isBody.ne_nil
        have shorter : middle.length < text.length := by
          rw [List.length_append] at gapLe
          omega
        obtain ⟨header, sections, left, restEq, isHeader, noSection, repeats,
          leftSettled⟩ := ih middle.length shorter middle middleSettled rfl
        refine ⟨content :: header, part :: sections, left, ?_,
          .cons isSection isHeader, noSection, ?_, leftSettled⟩
        · rw [bodiesEq, ← bodies_eq_of_standings middleEq, restEq]
          rfl
        · refine .next (gapReads.bind fun _ _ => reads) shorter repeats ?_
          intro value values valueEq valuesEq
          rw [List.map_cons, valueEq, valuesEq]
      · have fails := gapReads.bind_fails fun _ _ => fails
        refine ⟨[], [], text, rfl, .nil, ?_, .stop fails rfl, settled⟩
        rw [bodiesEq]
        rintro _ ⟨⟩
        exact sectionless

theorem fails_production_nil : production.Fails [] := by
  have symbolsFail : symbols.Fails [] := (fails_word (Text.stops_nil _)).named
  exact symbolsFail.bind.located.named

/-- Production lines are read in some way.  Either they are all that counts
in a text, or something that counts is left and not all of its lines are
production lines. -/
def ReadsRules
    (reads : (List (Located Production) → Prop) → (left : Text) → Prop)
    (lines : List Text) : Prop :=
  (∃ productions left, List.Forall₂ ProductionLine lines productions ∧
    reads (·.map (·.value) = productions) left ∧ bodies left = []) ∨
  ((∀ productions, ¬ List.Forall₂ ProductionLine lines productions) ∧
    ∃ left, reads (fun _ => True) left ∧ bodies left ≠ [])

theorem ReadsRules.mono {lines : List Text}
    {reads others : (List (Located Production) → Prop) → Text → Prop}
    (cases : ReadsRules reads lines)
    (further : ∀ good left, reads good left → others good left) :
    ReadsRules others lines := by
  rcases cases with ⟨productions, left, isRules, reads, nothing⟩ |
    ⟨noRules, left, reads, something⟩
  · exact .inl ⟨productions, left, isRules, further _ _ reads, nothing⟩
  · exact .inr ⟨noRules, left, further _ _ reads, something⟩

theorem fails_gap_productionLine
    (noEnd : afterLineEnd? (afterGap text) = none) :
    Fails (do gap; productionLine) text :=
  (reads_gap text).bind_fails fun _ _ => (fails_newlines noEnd).bind

/-- In front of a production the end of a line is read, up to the body of the
next line that counts, if there is one. -/
theorem lineBreak_cases (isMargin : IsMargin text) :
    (standings text = [] ∧ Fails (do gap; productionLine) text) ∨
    ∃ middle content margin,
      newlines.Reads (afterGap text) (fun _ => True) middle ∧
      afterGap middle = content ++ margin ∧ IsBody content ∧ IsMargin margin ∧
      (content ++ margin).length < text.length ∧
      standings text = ⟨content, content ++ margin⟩ :: standings margin := by
  have gapLe := length_afterGap_le text
  rcases eq_nil_or_afterLineEnd isMargin with nothing | ⟨rest, ends⟩
  · refine .inl ⟨?_, fails_gap_productionLine (by rw [nothing]; rfl)⟩
    rw [← standings_afterGap, nothing]
    rfl
  obtain ⟨middle, newlinesRead, middleEq, middleLe, settled⟩ :=
    exists_reads_newlines ends
  have restLt := length_lt_of_afterLineEnd ends
  have middleGapLe := length_afterGap_le middle
  rw [← standings_of_afterLineEnd ends, standings_afterGap] at middleEq
  rcases settled.standing_cases with ⟨nothing, noStandings⟩ |
    ⟨content, margin, middleShape, isBody, isMargin, standingsEq⟩
  · rw [middleEq] at noStandings
    refine .inl ⟨noStandings, (reads_gap text).bind_fails fun _ _ =>
      newlinesRead.bind_fails fun _ _ =>
        (reads_gap middle).bind_fails fun _ _ => ?_⟩
    rw [nothing]
    exact fails_production_nil
  · rw [middleEq] at standingsEq
    rw [middleShape] at middleGapLe
    exact .inr ⟨middle, content, margin, newlinesRead, middleShape, isBody,
      isMargin, by omega, standingsEq⟩

/-- The next line that counts is read as the production that it is, or it is
none, and then something that counts is left. -/
theorem productionLine_cases (isMargin : IsMargin text) :
    (bodies text = [] ∧ Fails (do gap; productionLine) text) ∨
    ∃ content margin, bodies text = content :: bodies margin ∧
      IsMargin margin ∧ margin.length < text.length ∧
      ((∃ part, ProductionLine content part ∧
          Reads (do gap; productionLine) text (·.value = part) margin) ∨
        ((∀ part, ¬ ProductionLine content part) ∧
          ∃ left, Repeats (do gap; productionLine) text (fun _ => True) left ∧
            bodies left ≠ [])) := by
  simp only [← map_line_standings text]
  rcases lineBreak_cases isMargin with ⟨nothing, fails⟩ |
    ⟨middle, content, margin, newlinesRead, middleShape, isBody, isMargin,
      shorter, standingsEq⟩
  · exact .inl ⟨by rw [nothing]; rfl, fails⟩
  have bodiesEq : (standings text).map (·.line) =
      content :: bodies margin := by
    rw [standingsEq, List.map_cons, map_line_standings]
  have nextGapReads := reads_gap middle
  rw [middleShape] at nextGapReads
  -- What the production does decides what its line does.
  have lineFails (fails : production.Fails (content ++ margin)) :
      Fails (do gap; productionLine) text :=
    (reads_gap text).bind_fails fun _ _ => newlinesRead.bind_fails fun _ _ =>
      nextGapReads.bind_fails fun _ _ => fails
  have lineReads {good : Located Production → Prop} {left : Text}
      (reads : production.Reads (content ++ margin) good left) :
      Reads (do gap; productionLine) text good left :=
    (reads_gap text).bind fun _ _ => newlinesRead.bind fun _ _ =>
      nextGapReads.bind fun _ _ => reads
  right
  rw [List.length_append] at shorter
  refine ⟨content, margin, bodiesEq, isMargin, by omega, ?_⟩
  rcases readsProduction isBody.toIsContent isMargin with
    ⟨part, isProduction, reads⟩ |
    ⟨noProduction, fails | ⟨junk, isJunk, neNil, junkLt, reads⟩⟩
  · exact .inl ⟨part, isProduction, lineReads reads⟩
  · refine .inr ⟨noProduction, text, (lineFails fails).repeats, ?_⟩
    rw [← map_line_standings, bodiesEq]
    exact List.cons_ne_nil _ _
  · have junkShorter : (junk ++ margin).length < text.length := by
      rw [List.length_append]
      omega
    have junkFails : Fails (do gap; productionLine) (junk ++ margin) := by
      refine fails_gap_productionLine ?_
      rw [afterGap_content_append isJunk neNil]
      exact afterLineEnd?_body_append (isJunk.isBody_dropWhile neNil) _
    refine .inr ⟨noProduction, junk ++ margin,
      (lineReads reads).repeats junkShorter junkFails.repeats, ?_⟩
    simp [bodies_content_append isJunk neNil isMargin]

theorem readsRules_repeats (text : Text) (isMargin : IsMargin text) :
    ReadsRules (Repeats (do gap; productionLine) text) (bodies text) := by
  induction lengthEq : text.length using Nat.strongRecOn generalizing text with
  | ind length ih =>
      subst lengthEq
      rcases productionLine_cases isMargin with ⟨noBodies, fails⟩ |
        ⟨content, margin, bodiesEq, isMargin, shorter,
          ⟨part, isProduction, reads⟩ |
          ⟨noProduction, left, repeats, something⟩⟩
      · rw [noBodies]
        exact .inl ⟨[], text, .nil, .stop fails rfl, noBodies⟩
      · rw [bodiesEq]
        rcases ih margin.length shorter margin isMargin rfl with
          ⟨productions, left, isRules, repeats, nothing⟩ |
          ⟨noRules, left, repeats, something⟩
        · refine .inl ⟨part :: productions, left, .cons isProduction isRules,
            .next reads shorter repeats ?_, nothing⟩
          intro value values valueEq valuesEq
          rw [List.map_cons, valueEq, valuesEq]
        · refine .inr ⟨?_, left, .next reads shorter repeats
            fun _ _ _ _ => trivial, something⟩
          rintro _ (_ | ⟨-, isRules⟩)
          exact noRules _ isRules
      · rw [bodiesEq]
        refine .inr ⟨?_, left, repeats, something⟩
        rintro _ (_ | ⟨isProduction, -⟩)
        exact noProduction _ isProduction

theorem readsRules_productions {content : Text}
    (isContent : IsContent content) (isMargin : IsMargin margin) :
    (content = [] ∧ ReadsRules
      (productions.Reads (rulesHeading ++ margin)) (bodies margin)) ∨
    (content ≠ [] ∧ ∃ left,
      productions.Reads (rulesHeading ++ (content ++ margin))
        (fun _ => True) left ∧ bodies left ≠ []) := by
  by_cases neNil : content = []
  · refine .inl ⟨neNil, ?_⟩
    have tailMargin : IsMargin (afterGap margin) := by
      rw [IsMargin, afterGap_afterGap]
      exact isMargin
    have cases := readsRules_repeats (afterGap margin) tailMargin
    rw [bodies_afterGap] at cases
    refine cases.mono fun good left repeats => Reads.named ?_
    exact (reads_literal rulesHeading margin).bind fun _ _ =>
      (reads_gap margin).bind fun _ _ =>
        reads_apart (afterGap_afterGap margin) repeats
  · refine .inr ⟨neNil, afterGap (content ++ margin), ?_, ?_⟩
    · refine Reads.named ((reads_literal rulesHeading _).bind fun _ _ =>
        (reads_gap _).bind fun _ _ =>
          reads_apart (afterGap_afterGap _) (Fails.repeats ?_))
      refine fails_gap_productionLine ?_
      rw [afterGap_afterGap, afterGap_content_append isContent neNil]
      exact afterLineEnd?_body_append (isContent.isBody_dropWhile neNil) _
    · rw [bodies_afterGap, bodies_content_append isContent neNil isMargin]
      simp

theorem fails_productions {content : Text} (isMargin : IsMargin margin)
    (other : ¬ rulesHeading <+: content) :
    productions.Fails (content ++ margin) :=
  (fails_heading rulesHeading_plain isMargin other).bind.named

theorem blankLines_cases (text : Text) :
    ∃ left, blankLines.Reads text (fun _ => True) left ∧
      ((bodies text = [] ∧ left = []) ∨
        (bodies text ≠ [] ∧ finish.Fails left)) := by
  obtain ⟨left, reads, leftEq, -, settled⟩ := exists_reads_blankLines text
  refine ⟨afterGap left, reads, ?_⟩
  rw [← bodies_eq_of_standings leftEq]
  rcases settled.cases with ⟨nothing, noBodies⟩ |
    ⟨content, margin, textEq, isBody, -, someBodies⟩
  · exact .inl ⟨noBodies, nothing⟩
  · refine .inr ⟨by simp [someBodies], fails_finish ?_⟩
    rw [textEq]
    simp [isBody.ne_nil]

/-- What is read behind the sections: the rules, if their heading is there,
and the end of the document. -/
def rulesAndEnd (sections : List (Located Section)) : Reader Outline := do
  gap
  let rules ← optional productions
  blankLines
  finish
  return ⟨sections, rules⟩

theorem document_eq :
    document = (do
      blankLines
      let sections ← apart sectionLine
      rulesAndEnd sections) :=
  rfl

section Ends

variable (sections : List (Located Section))
variable {good : Option (List (Located Production)) → Prop} {left : Text}

theorem reads_rulesAndEnd
    (reads : (optional productions).Reads (afterGap text) good left)
    (nothing : bodies left = []) :
    (rulesAndEnd sections).Reads text
      (fun outline => outline.sections = sections ∧ good outline.productions)
      [] := by
  obtain ⟨last, blankReads, ⟨-, rfl⟩ | ⟨something, -⟩⟩ :=
    blankLines_cases left
  · exact (reads_gap text).bind fun _ _ => reads.bind fun rules rulesGood =>
      blankReads.bind fun _ _ => reads_finish.bind fun _ _ =>
        reads_pure ⟨rfl, rulesGood⟩
  · exact absurd nothing something

theorem fails_rulesAndEnd
    (reads : (optional productions).Reads (afterGap text) good left)
    (something : bodies left ≠ []) : (rulesAndEnd sections).Fails text := by
  obtain ⟨last, blankReads, ⟨nothing, -⟩ | ⟨-, fails⟩⟩ :=
    blankLines_cases left
  · exact absurd nothing something
  · exact (reads_gap text).bind_fails fun _ _ => reads.bind_fails fun _ _ =>
      blankReads.bind_fails fun _ _ => fails.bind

/-- The rules are read to the end if their lines are all that is left. -/
def ReadsToEnd (text : Text) : Prop :=
  (∃ productions, RulesLines (bodies text) productions ∧
    ∀ sections, (rulesAndEnd sections).Reads text
      (fun outline => outline.sections = sections ∧
        outline.productions.map (·.map (·.value)) = productions) []) ∨
  ((∀ productions, ¬ RulesLines (bodies text) productions) ∧
    ∀ sections, (rulesAndEnd sections).Fails text)

theorem readsToEnd_of_heading {content : Text}
    (isContent : IsContent content) (isMargin : IsMargin margin)
    (textEq : afterGap text = rulesHeading ++ (content ++ margin))
    (bodiesEq : bodies text = (rulesHeading ++ content) :: bodies margin) :
    ReadsToEnd text := by
  rcases readsRules_productions isContent isMargin with
    ⟨rfl, ⟨productions, left, isRules, reads, nothing⟩ |
      ⟨noRules, left, reads, something⟩⟩ |
    ⟨neNil, left, reads, something⟩
  · left
    rw [List.nil_append] at textEq
    rw [← textEq] at reads
    refine ⟨some productions, ?_, fun sections => ?_⟩
    · rw [bodiesEq, List.append_nil]
      exact ⟨_, rfl, isRules⟩
    · refine (reads_rulesAndEnd sections reads.optional nothing).weaken ?_
      rintro outline ⟨sectionsEq, values, found, valuesEq⟩
      refine ⟨sectionsEq, ?_⟩
      rw [Option.mem_def.mp found, Option.map_some, valuesEq]
  · right
    rw [List.nil_append] at textEq
    rw [← textEq] at reads
    refine ⟨?_, fun sections =>
      fails_rulesAndEnd sections reads.optional something⟩
    rw [bodiesEq, List.append_nil]
    rintro (_ | productions) isRules
    · cases isRules
    · obtain ⟨rules, same, isRules⟩ := isRules
      cases same
      exact noRules productions isRules
  · right
    rw [← textEq] at reads
    refine ⟨?_, fun sections =>
      fails_rulesAndEnd sections reads.optional something⟩
    rw [bodiesEq]
    rintro (_ | productions) isRules
    · cases isRules
    · obtain ⟨rules, same, -⟩ := isRules
      obtain ⟨headingEq, -⟩ := List.cons.inj same
      exact neNil (List.append_right_eq_self.mp headingEq)

theorem readsToEnd (settled : IsSettled text) : ReadsToEnd text := by
  rcases settled.cases with ⟨nothing, noBodies⟩ |
    ⟨content, margin, textEq, isBody, isMargin, bodiesEq⟩
  · left
    have noneRead : productions.Fails (afterGap text) := by
      rw [nothing]
      exact (fails_literal (by simp [rulesHeading])).bind.named
    refine ⟨none, noBodies, fun sections => ?_⟩
    have reads := reads_rulesAndEnd sections noneRead.optional
      (by rw [nothing]; rfl)
    refine reads.weaken ?_
    rintro outline ⟨sectionsEq, noneEq⟩
    exact ⟨sectionsEq, by rw [noneEq]; rfl⟩
  by_cases isHeading : rulesHeading <+: content
  · obtain ⟨rest, rfl⟩ := isHeading
    rw [List.append_assoc] at textEq
    exact readsToEnd_of_heading isBody.toIsContent.suffix isMargin textEq
      bodiesEq
  · right
    have noneRead : productions.Fails (afterGap text) := by
      rw [textEq]
      exact fails_productions isMargin isHeading
    refine ⟨?_, fun sections => fails_rulesAndEnd sections noneRead.optional
      (by simp [bodies_afterGap, bodiesEq])⟩
    rw [bodiesEq]
    rintro (_ | productions) isRules
    · cases isRules
    · obtain ⟨rules, same, -⟩ := isRules
      cases same
      exact isHeading (List.prefix_refl _)

end Ends

/-- A text has the outline that its lines make up, or it has none. -/
theorem document_cases (text : Text) :
    (∃ sections productions, IsOutline (bodies text) sections productions ∧
      document.Reads text (fun outline =>
        outline.sections.map (·.value.trimmed) = sections ∧
          outline.productions.map (·.map (·.value)) = productions) []) ∨
    ((∀ sections productions,
        ¬ IsOutline (bodies text) sections productions) ∧
      document.Fails text) := by
  obtain ⟨first, blankReads, firstEq, -, settled⟩ :=
    exists_reads_blankLines text
  have firstSettled : IsSettled (afterGap first) := by
    rw [IsSettled, afterGap_afterGap]
    exact settled
  obtain ⟨header, sections, left, restEq, isHeader, noSection, repeats,
    leftSettled⟩ := exists_repeats_sectionLine (afterGap first) firstSettled
  have sectionsRead := reads_apart (afterGap_afterGap first) repeats
  rw [bodies_afterGap, bodies_eq_of_standings firstEq] at restEq
  rw [restEq, document_eq]
  simp only [isOutline_append_iff isHeader noSection]
  rcases readsToEnd leftSettled with ⟨productions, isRules, reads⟩ |
    ⟨noRules, fails⟩
  · refine .inl ⟨sections, productions, ⟨rfl, isRules⟩, ?_⟩
    refine blankReads.bind fun _ _ => sectionsRead.bind
      fun parts partsEq => (reads parts).weaken ?_
    rintro outline ⟨rfl, productionsEq⟩
    exact ⟨partsEq, productionsEq⟩
  · refine .inr ⟨fun _ productions isOutline =>
      noRules productions isOutline.2, ?_⟩
    exact blankReads.bind_fails fun _ _ => sectionsRead.bind_fails
      fun parts _ => fails parts

end Grammar

end TurtleSystems.Document
