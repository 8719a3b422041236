import TurtleSystems.Proofs.Document.Acceptance
import TurtleSystems.Proofs.Reader.Places

/-!
# Where the parts of a document stand

Every part of an outline starts where the line of the part stands in the
text.  The text that is left to be read tells where a reader is, because what
is read and what is left always make up the whole text; and the lines that
count stand in what is left as they stand in the whole text.
-/

namespace TurtleSystems.Document

/-- A section in a text of a given length, read off the line that stands
there. -/
def SectionAt (length : Nat) (standing : Standing)
    (part : Located Section) : Prop :=
  SectionLine standing.line part.value.trimmed ∧
    part.start + standing.onward.length = length

/-- A production in a text of a given length, read off the line that stands
there. -/
def ProductionAt (length : Nat) (standing : Standing)
    (part : Located Production) : Prop :=
  ProductionLine standing.line part.value ∧
    part.start + standing.onward.length = length

/-- The lines from the heading of the rules on, with the productions read off
them, or none. -/
def RulesAt (length : Nat) (lines : List Standing) :
    Option (List (Located Production)) → Prop
  | none => lines = []
  | some productions => ∃ heading rules, lines = heading :: rules ∧
      heading.line = rulesHeading ∧
      List.Forall₂ (ProductionAt length) rules productions

namespace Grammar

open Reader

section Keeping

variable {α : Type} {reader : Reader α}

theorem keeps_spaces : spaces.Keeps :=
  keeps_skipping _

theorem keeps_comment : comment.Keeps :=
  (keeps_literal _).bind fun _ => keeps_skipping _

theorem keeps_gap : gap.Keeps :=
  keeps_spaces.bind fun _ =>
    (keeps_comment.bind fun _ => keeps_spaces).many.bind fun _ => keeps_pure _

theorem keeps_apart (keeps : reader.Keeps) : (apart reader).Keeps :=
  .either
    (keeps.bind fun _ => (keeps_gap.bind fun _ => keeps).many.bind
      fun _ => keeps_pure _)
    (keeps_pure _)

theorem keeps_newline : newline.Keeps :=
  (keeps_literal _).either ((keeps_literal _).either (keeps_literal _))

theorem keeps_newlines : newlines.Keeps :=
  keeps_newline.bind fun _ => keeps_gap.bind fun _ =>
    (keeps_apart keeps_newline).bind fun _ => keeps_pure _

theorem keeps_symbols : symbols.Keeps :=
  (keeps_word _).named

theorem keeps_nameSection : nameSection.Keeps :=
  ((keeps_literal _).bind fun _ => keeps_gap.bind fun _ =>
    (keeps_word _).named.bind fun _ => keeps_pure _).located.named

theorem keeps_seedSection : seedSection.Keeps :=
  ((keeps_literal _).bind fun _ => keeps_gap.bind fun _ =>
    keeps_symbols.bind fun _ => keeps_pure _).located.named

theorem keeps_lineEnd : lineEnd.Keeps :=
  keeps_gap.bind fun _ => keeps_newlines.either (keeps_ahead finish)

theorem keeps_sectionLine : sectionLine.Keeps :=
  (keeps_nameSection.either keeps_seedSection).bind fun _ =>
    keeps_lineEnd.bind fun _ => keeps_pure _

theorem keeps_production : production.Keeps :=
  (keeps_symbols.bind fun _ => keeps_gap.bind fun _ =>
    (keeps_literal _).bind fun _ => keeps_gap.bind fun _ =>
      keeps_symbols.bind fun _ => keeps_pure _).located.named

theorem keeps_productionLine : productionLine.Keeps :=
  keeps_newlines.bind fun _ => keeps_gap.bind fun _ => keeps_production

theorem keeps_blankLines : blankLines.Keeps :=
  keeps_gap.bind fun _ => (keeps_apart keeps_newline).bind fun _ => keeps_gap

theorem keeps_gap_sectionLine : Keeps (do gap; sectionLine) :=
  keeps_gap.bind fun _ => keeps_sectionLine

theorem keeps_gap_productionLine : Keeps (do gap; productionLine) :=
  keeps_gap.bind fun _ => keeps_productionLine

theorem rest_of_gap {place after : Place} {mark : Unit}
    (result : (gap place).result = some (mark, after)) :
    after.rest = afterGap place.rest :=
  ((reads_gap place.rest).of_result rfl result).1

end Keeping

section Repetition

variable {α : Type} {reader : Reader α} {place after : Place}
variable {values : List α}

/-- Where there is no gap in front, parts with gaps in between follow each
other with gaps in front of them. -/
theorem follows_of_apart (ready : afterGap place.rest = place.rest)
    (result : (apart reader place).result = some (values, after)) :
    Follows (do gap; reader) place values after := by
  rcases result_of_either result with read | nothing
  · obtain ⟨first, middle, firstRead, read⟩ := result_bind_eq_some.mp read
    obtain ⟨others, _, othersRead, same⟩ := result_bind_eq_some.mp read
    cases same
    refine .next ?_ (follows_of_many othersRead)
    rw [result_bind, result_gap ready]
    exact firstRead
  · cases nothing
    exact .stop _

end Repetition

section Sections

variable {place after : Place} {part : Located Section}
variable {parts : List (Located Section)}

theorem start_of_sectionLine
    (result : (sectionLine place).result = some (part, after)) :
    part.start = place.offset := by
  obtain ⟨found, middle, foundRead, result⟩ := result_bind_eq_some.mp result
  obtain ⟨_, _, -, same⟩ := result_bind_eq_some.mp result
  cases same
  rcases result_of_either foundRead with read | read
  · exact (result_of_located (result_of_named read)).2
  · exact (result_of_located (result_of_named read)).2

/-- A section is read off the next line that counts. -/
theorem exists_sectionAt (settled : IsSettled place.rest)
    (result : ((do gap; sectionLine) place).result = some (part, after)) :
    ∃ standing, standings place.rest = standing :: standings after.rest ∧
      SectionAt place.total standing part ∧ IsSettled after.rest := by
  obtain ⟨_, middle, gapRead, sectionRead⟩ := result_bind_eq_some.mp result
  have restEq := rest_of_gap gapRead
  have totalEq := keeps_gap _ _ _ gapRead
  rcases settled.standing_cases with ⟨nothing, -⟩ |
    ⟨content, margin, textEq, isBody, isMargin, standingsEq⟩
  · rw [nothing] at restEq
    rw [fails_sectionLine_nil.no_result restEq] at sectionRead
    cases sectionRead
  -- The gap leads to the body of the line, and the section starts there.
  rw [textEq] at restEq
  rcases readsSectionLine isBody isMargin with
    ⟨value, left, isSection, reads, leftEq, -, leftSettled⟩ | ⟨fails, -⟩
  · obtain ⟨rfl, rfl⟩ := reads.of_result restEq sectionRead
    rw [← leftEq] at standingsEq
    refine ⟨_, standingsEq, ⟨isSection, ?_⟩, leftSettled⟩
    rw [start_of_sectionLine sectionRead, ← restEq]
    exact totalEq
  · rw [fails.no_result restEq] at sectionRead
    cases sectionRead

theorem exists_sectionsAt
    (follows : Follows (do gap; sectionLine) place parts after)
    (settled : IsSettled place.rest) :
    ∃ header, standings place.rest = header ++ standings after.rest ∧
      List.Forall₂ (SectionAt place.total) header parts ∧
      IsSettled after.rest := by
  induction follows with
  | stop => exact ⟨[], rfl, .nil, settled⟩
  | next result follows ih =>
      obtain ⟨standing, standingsEq, isSection, settled⟩ :=
        exists_sectionAt settled result
      obtain ⟨header, restEq, isHeader, settled⟩ := ih settled
      rw [keeps_gap_sectionLine _ _ _ result] at isHeader
      refine ⟨standing :: header, ?_, .cons isSection isHeader, settled⟩
      rw [standingsEq, restEq, List.cons_append]

end Sections

section Productions

variable {place after : Place} {part : Located Production}
variable {parts : List (Located Production)} {values : List Production}

theorem start_of_production
    (result : (production place).result = some (part, after)) :
    part.start = place.offset :=
  (result_of_located (result_of_named result)).2

/-- A production is read behind the end of a line and the gap after it. -/
theorem exists_production_result {middle : Text}
    (newlinesRead : newlines.Reads (afterGap place.rest) (fun _ => True)
      middle)
    (result : ((do gap; productionLine) place).result = some (part, after)) :
    ∃ front, front.rest = afterGap middle ∧ front.total = place.total ∧
      (production front).result = some (part, after) := by
  obtain ⟨_, first, firstGap, result⟩ := result_bind_eq_some.mp result
  obtain ⟨_, second, linesRead, result⟩ := result_bind_eq_some.mp result
  obtain ⟨_, front, secondGap, partRead⟩ := result_bind_eq_some.mp result
  have secondRest :=
    (newlinesRead.of_result (rest_of_gap firstGap) linesRead).1
  refine ⟨front, by rw [rest_of_gap secondGap, secondRest], ?_, partRead⟩
  calc
    front.total = second.total := keeps_gap _ _ _ secondGap
    _ = first.total := keeps_newlines _ _ _ linesRead
    _ = place.total := keeps_gap _ _ _ firstGap

/-- Among production lines, a production is read off the next line that
counts. -/
theorem exists_productionAt (isMargin : IsMargin place.rest)
    (isRules : List.Forall₂ ProductionLine (bodies place.rest) values)
    (result : ((do gap; productionLine) place).result = some (part, after)) :
    ∃ standing others,
      standings place.rest = standing :: standings after.rest ∧
      ProductionAt place.total standing part ∧ IsMargin after.rest ∧
      List.Forall₂ ProductionLine (bodies after.rest) others := by
  rcases lineBreak_cases isMargin with ⟨-, fails⟩ |
    ⟨middle, content, margin, newlinesRead, middleShape, isBody, isMargin,
      -, standingsEq⟩
  · rw [fails.no_result rfl] at result
    cases result
  obtain ⟨front, frontRest, frontTotal, partRead⟩ :=
    exists_production_result newlinesRead result
  rw [middleShape] at frontRest
  rw [← map_line_standings, standingsEq, List.map_cons, map_line_standings]
    at isRules
  obtain ⟨value, others, isProduction, isRules, -⟩ :=
    List.forall₂_cons_left_iff.mp isRules
  rcases readsProduction isBody.toIsContent isMargin with
    ⟨found, isFound, reads⟩ | ⟨noProduction, -⟩
  · obtain ⟨rfl, rfl⟩ := reads.of_result frontRest partRead
    refine ⟨_, others, standingsEq, ⟨isFound, ?_⟩, isMargin, isRules⟩
    rw [start_of_production partRead, ← frontRest]
    exact frontTotal
  · exact absurd isProduction (noProduction value)

theorem exists_productionsAt
    (follows : Follows (do gap; productionLine) place parts after)
    (isMargin : IsMargin place.rest)
    (isRules : List.Forall₂ ProductionLine (bodies place.rest) values) :
    ∃ rules, standings place.rest = rules ++ standings after.rest ∧
      List.Forall₂ (ProductionAt place.total) rules parts := by
  induction follows generalizing values with
  | stop => exact ⟨[], rfl, .nil⟩
  | next result follows ih =>
      obtain ⟨standing, _, standingsEq, isProduction, isMargin, isRules⟩ :=
        exists_productionAt isMargin isRules result
      obtain ⟨rules, restEq, others⟩ := ih isMargin isRules
      rw [keeps_gap_productionLine _ _ _ result] at others
      refine ⟨standing :: rules, ?_, .cons isProduction others⟩
      rw [standingsEq, restEq, List.cons_append]

end Productions

section Documents

variable {place middle after : Place}

/-- In front of the end of a text nothing counts any more. -/
theorem standings_of_end {blanks mark : Unit}
    (blanksRead : (blankLines place).result = some (blanks, middle))
    (endRead : (finish middle).result = some (mark, after)) :
    standings place.rest = [] := by
  obtain ⟨left, reads, standingsEq, -⟩ := exists_reads_blankLines place.rest
  have leftNil : afterGap left = [] := by
    rw [← (reads.of_result rfl blanksRead).1]
    exact rest_of_atEnd (result_of_named endRead)
  rw [← standingsEq, ← standings_afterGap, leftNil]
  rfl

/-- The heading of the rules is a line, and the productions are read off the
lines under it. -/
theorem rulesAt_of_productions {parts : List (Located Production)}
    (settled : IsSettled place.rest)
    (isRules : RulesLines (bodies place.rest) (some (parts.map (·.value))))
    (gapEq : middle.rest = afterGap place.rest)
    (result : (productions middle).result = some (parts, after))
    (ends : standings after.rest = []) :
    RulesAt middle.total (standings place.rest) (some parts) := by
  obtain ⟨rules, bodiesEq, isRules⟩ := isRules
  rw [← map_line_standings] at bodiesEq
  rcases settled.standing_cases with ⟨-, nothing⟩ |
    ⟨content, margin, textEq, -, isMargin, standingsEq⟩
  · rw [nothing] at bodiesEq
    cases bodiesEq
  -- The body of the first line is the heading, so its margin is behind it.
  rw [standingsEq, List.map_cons, map_line_standings] at bodiesEq
  obtain ⟨rfl, rfl⟩ := List.cons.inj bodiesEq
  obtain ⟨_, behind, headingRead, result⟩ :=
    result_bind_eq_some.mp (result_of_named result)
  obtain ⟨_, ahead, gapRead, partsRead⟩ := result_bind_eq_some.mp result
  have behindRest : behind.rest = margin := by
    have restEq := rest_of_literal headingRead
    rw [gapEq, textEq] at restEq
    exact (List.append_cancel_left restEq).symm
  have aheadRest : ahead.rest = afterGap margin := by
    rw [rest_of_gap gapRead, behindRest]
  have aheadTotal : ahead.total = middle.total :=
    (keeps_gap _ _ _ gapRead).trans (keeps_literal _ _ _ _ headingRead)
  have follows := follows_of_apart (by rw [aheadRest, afterGap_afterGap])
    partsRead
  obtain ⟨lines, linesEq, productionsAt⟩ := exists_productionsAt follows
    (by rwa [aheadRest, IsMargin, afterGap_afterGap])
    (by rwa [aheadRest, bodies_afterGap])
  rw [aheadRest, standings_afterGap, ends, List.append_nil] at linesEq
  rw [aheadTotal] at productionsAt
  exact ⟨_, lines, by rw [standingsEq, linesEq], rfl, productionsAt⟩

theorem rulesAt_of_optional {rules : Option (List (Located Production))}
    (settled : IsSettled place.rest)
    (isRules : RulesLines (bodies place.rest) (rules.map (·.map (·.value))))
    (gapEq : middle.rest = afterGap place.rest)
    (result : (optional productions middle).result = some (rules, after))
    (ends : standings after.rest = []) :
    RulesAt middle.total (standings place.rest) rules := by
  rcases result_of_optional result with ⟨parts, rfl, partsRead⟩ | ⟨rfl, rfl⟩
  · exact rulesAt_of_productions settled isRules gapEq partsRead ends
  · rwa [gapEq, standings_afterGap] at ends

theorem exists_of_rulesAndEnd {sections : List (Located Section)}
    {outline : Outline}
    (result : (rulesAndEnd sections place).result = some (outline, after)) :
    ∃ rules middle behind, outline = ⟨sections, rules⟩ ∧
      middle.rest = afterGap place.rest ∧ middle.total = place.total ∧
      (optional productions middle).result = some (rules, behind) ∧
      standings behind.rest = [] := by
  obtain ⟨_, middle, gapRead, result⟩ := result_bind_eq_some.mp result
  obtain ⟨rules, behind, rulesRead, result⟩ := result_bind_eq_some.mp result
  obtain ⟨_, third, blanksRead, result⟩ := result_bind_eq_some.mp result
  obtain ⟨_, last, endRead, same⟩ := result_bind_eq_some.mp result
  cases same
  exact ⟨rules, middle, behind, rfl, rest_of_gap gapRead,
    keeps_gap _ _ _ gapRead, rulesRead,
    standings_of_end blanksRead endRead⟩

end Documents

/-- The parts of an outline are those of the lines of the text, and each part
starts where its line stands. -/
theorem exists_standings_of_document {text : Text} {outline : Outline}
    {last : Place}
    (isOutline : IsOutline (bodies text)
      (outline.sections.map (·.value.trimmed))
      (outline.productions.map (·.map (·.value))))
    (result : (document (.first text)).result = some (outline, last)) :
    ∃ header rest, standings text = header ++ rest ∧
      List.Forall₂ (SectionAt text.length) header outline.sections ∧
      RulesAt text.length rest outline.productions := by
  rw [document_eq] at result
  obtain ⟨_, first, blanksRead, result⟩ := result_bind_eq_some.mp result
  obtain ⟨parts, second, partsRead, result⟩ := result_bind_eq_some.mp result
  obtain ⟨rules, third, behind, rfl, thirdRest, thirdTotal, rulesRead,
    ends⟩ := exists_of_rulesAndEnd result
  obtain ⟨left, reads, leftEq, -, settled⟩ := exists_reads_blankLines text
  have firstRest := (reads.of_result rfl blanksRead).1
  have firstTotal : first.total = text.length :=
    (keeps_blankLines _ _ _ blanksRead).trans (Nat.zero_add _)
  have follows := follows_of_apart (by rw [firstRest, afterGap_afterGap])
    partsRead
  have secondTotal := follows.total_eq keeps_gap_sectionLine
  obtain ⟨header, standingsEq, sectionsAt, settled⟩ :=
    exists_sectionsAt follows
      (by rwa [firstRest, IsSettled, afterGap_afterGap])
  rw [firstRest, standings_afterGap, leftEq] at standingsEq
  -- The outline has as many sections as its header has lines.
  obtain ⟨names, rest, bodiesEq, isHeader, isRules⟩ := isOutline
  rw [← map_line_standings, standingsEq, List.map_append,
    map_line_standings] at bodiesEq
  have sameLength : (header.map (·.line)).length = names.length := by
    rw [isHeader.length_eq, List.length_map, List.length_map,
      sectionsAt.length_eq]
  obtain ⟨-, rfl⟩ := List.append_inj bodiesEq sameLength
  have rulesAt := rulesAt_of_optional settled isRules thirdRest rulesRead
    ends
  rw [thirdTotal, secondTotal, firstTotal] at rulesAt
  rw [firstTotal] at sectionsAt
  exact ⟨header, standings second.rest, standingsEq, sectionsAt, rulesAt⟩

end Grammar

theorem exists_standings_of_ofText {text : Text} {outline : Outline}
    (read : Outline.ofText text = .ok outline) :
    ∃ header rest, standings text = header ++ rest ∧
      List.Forall₂ (SectionAt text.length) header outline.sections ∧
      RulesAt text.length rest outline.productions := by
  have isOutline := exists_ofText_iff.mp ⟨outline, read, rfl, rfl⟩
  simp only [Outline.ofText] at read
  split at read
  · next found last result =>
      cases read
      exact Grammar.exists_standings_of_document isOutline result
  · cases read

end TurtleSystems.Document
