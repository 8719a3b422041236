import TurtleSystems.Proofs.Document.Language
import TurtleSystems.Proofs.Text

/-!
# Lines and gaps

What may stand between two parts of a document does not count to the bodies of
its lines, and behind it these stand where they stood.  This file takes the
rest of a text apart, from any place on: the blanks and the comment in front,
the body of the line that it is on, the margin behind that body, and the lines
after it.
-/

namespace TurtleSystems.Document

/-- What follows the end of a line, if there is one in front. -/
def afterLineEnd? : Text → Option Text
  | '\n' :: text => some text
  | '\r' :: '\n' :: text => some text
  | '\r' :: text => some text
  | _ => none

/-- What follows spaces, tabs and a comment. -/
def afterGap (text : Text) : Text :=
  match text.dropWhile Text.isSpaceOrTab with
  | '#' :: comment => comment.dropWhile (!isLineEnd ·)
  | rest => rest

/-- The text is at its end or at the end of a line. -/
def IsBoundary (text : Text) : Prop :=
  text.Stops (!isLineEnd ·)

/-- Nothing counts up to the end of the line. -/
def IsMargin (text : Text) : Prop :=
  IsBoundary (afterGap text)

/-- Neither a comment nor the end of a line. -/
def IsUnmarked (text : Text) : Prop :=
  ∀ character ∈ text,
    isCommentMark character = false ∧ isLineEnd character = false

instance : DecidablePred IsUnmarked := fun text =>
  decidable_of_iff
    (text.all fun character =>
      !isCommentMark character && !isLineEnd character) (by simp [IsUnmarked])

/-- A part of a line, up to its end, that has no comment and no blanks behind
it. -/
structure IsContent (content : Text) : Prop where
  unmarked : IsUnmarked content
  last_not_space : ∀ character ∈ content.getLast?,
    Text.isSpaceOrTab character = false

/-- The body of a line. -/
structure IsBody (content : Text) : Prop extends IsContent content where
  ne_nil : content ≠ []
  stops : content.Stops Text.isSpaceOrTab

section Characters

variable {character : Char}

theorem eq_of_isSpaceOrTab (space : Text.isSpaceOrTab character = true) :
    character = ' ' ∨ character = '\t' := by
  simpa [Text.isSpaceOrTab] using space

theorem eq_of_isLineEnd (lineEnd : isLineEnd character = true) :
    character = '\n' ∨ character = '\r' := by
  simpa [isLineEnd] using lineEnd

theorem isCommentMark_iff :
    isCommentMark character = true ↔ character = '#' := by
  simp [isCommentMark]

theorem not_isLineEnd_of_isSpaceOrTab
    (space : Text.isSpaceOrTab character = true) :
    isLineEnd character = false := by
  rcases eq_of_isSpaceOrTab space with rfl | rfl <;> decide

theorem not_isCommentMark_of_isSpaceOrTab
    (space : Text.isSpaceOrTab character = true) :
    isCommentMark character = false := by
  rcases eq_of_isSpaceOrTab space with rfl | rfl <;> decide

theorem not_isSpaceOrTab_of_isLineEnd (lineEnd : isLineEnd character = true) :
    Text.isSpaceOrTab character = false := by
  rcases eq_of_isLineEnd lineEnd with rfl | rfl <;> decide

theorem not_isCommentMark_of_isLineEnd
    (lineEnd : isLineEnd character = true) :
    isCommentMark character = false := by
  rcases eq_of_isLineEnd lineEnd with rfl | rfl <;> decide

end Characters

section Bodies

variable {text line tail blanks : Text}

theorem eq_nil_or_afterLineEnd (boundary : IsBoundary text) :
    text = [] ∨ ∃ rest, afterLineEnd? text = some rest := by
  unfold IsBoundary at boundary
  cases text with
  | nil => exact .inl rfl
  | cons character text =>
      right
      rw [Text.stops_cons_iff, Bool.not_eq_false'] at boundary
      rcases eq_of_isLineEnd boundary with rfl | rfl
      · exact ⟨text, rfl⟩
      · unfold afterLineEnd?
        split <;> simp_all

theorem isBoundary_of_afterLineEnd {rest : Text}
    (ends : afterLineEnd? text = some rest) : IsBoundary text := by
  unfold afterLineEnd? at ends
  split at ends <;> simp_all [IsBoundary, isLineEnd]

theorem length_lt_of_afterLineEnd {rest : Text}
    (ends : afterLineEnd? text = some rest) : rest.length < text.length := by
  unfold afterLineEnd? at ends
  split at ends <;> cases ends
  · simp
  · simp only [List.length_cons]
    omega
  · simp

theorem lines_cons {character : Char}
    (inside : isLineEnd character = false) (text : Text) :
    lines (character :: text) =
      (lines text).modifyHead (character :: ·) := by
  rw [lines]
  · simp [inside]
  · rintro rest rfl
    simp [isLineEnd] at inside

theorem not_isLineEnd_of_mem_lines (member : line ∈ lines text) :
    ∀ character ∈ line, isLineEnd character = false := by
  induction text using lines.induct generalizing line with
  | case1 =>
      rw [lines, List.mem_singleton] at member
      subst member
      exact List.forall_mem_nil _
  | case2 text ih =>
      rw [lines] at member
      rcases List.mem_cons.mp member with rfl | member
      · exact List.forall_mem_nil _
      · exact ih member
  | case3 character text noPair ends ih =>
      rw [lines, if_pos ends] at member
      · rcases List.mem_cons.mp member with rfl | member
        · exact List.forall_mem_nil _
        · exact ih member
      · exact noPair
  | case4 character text noPair inside ih =>
      rw [lines_cons (by simpa using inside)] at member
      cases shape : lines text with
      | nil =>
          rw [shape] at member
          cases member
      | cons first others =>
          rw [shape] at member ih
          rcases List.mem_cons.mp member with rfl | member
          · exact List.forall_mem_cons.mpr
              ⟨by simpa using inside, ih List.mem_cons_self⟩
          · exact ih (List.mem_cons_of_mem _ member)

theorem mem_of_mem_body {character : Char}
    (member : character ∈ body line) :
    character ∈ line ∧ isCommentMark character = false := by
  have inPlain : character ∈ line.takeWhile (!isCommentMark ·) :=
    (List.dropWhile_suffix _).subset
      ((List.rdropWhile_prefix _ _).subset member)
  refine ⟨(List.takeWhile_prefix _).subset inPlain, ?_⟩
  simpa using Text.passes_of_mem_takeWhile inPlain

/-- A body has no comment and does not reach into another line. -/
theorem isUnmarked_of_mem_bodies {content : Text}
    (member : content ∈ bodies text) : IsUnmarked content := by
  obtain ⟨line, lineMem, rfl⟩ :=
    List.mem_map.mp (List.mem_of_mem_filter member)
  intro character inBody
  obtain ⟨inLine, noMark⟩ := mem_of_mem_body inBody
  exact ⟨noMark, not_isLineEnd_of_mem_lines lineMem character inLine⟩

@[simp]
theorem body_nil : body [] = [] := rfl

theorem body_append_of_blanks
    (blank : ∀ character ∈ blanks, Text.isSpaceOrTab character = true)
    (line : Text) : body (blanks ++ line) = body line := by
  have noMark : ∀ character ∈ blanks, (!isCommentMark character) = true := by
    intro character member
    simp [not_isCommentMark_of_isSpaceOrTab (blank character member)]
  rw [body, List.takeWhile_append_of_pos noMark, strip,
    List.dropWhile_append_of_pos blank]
  rfl

theorem body_of_comment {comment : Text} : body ('#' :: comment) = [] := rfl

/-- The lines, and what they hold, do not depend on where they stand. -/
theorem map_line_standingLines (text : Text) :
    (standingLines text).map (·.line) = lines text := by
  induction text using standingLines.induct with
  | case1 => rfl
  | case2 text ih => rw [standingLines, lines, List.map_cons, ih]
  | case3 character text noPair ends ih =>
      rw [standingLines, lines, if_pos ends, if_pos ends, List.map_cons, ih]
      · exact noPair
      · exact noPair
  | case4 character text noPair inside ih =>
      rw [standingLines, lines, if_neg inside, if_neg inside, ← ih]
      · cases standingLines text <;> rfl
      · exact noPair
      · exact noPair

theorem map_line_standings (text : Text) :
    (standings text).map (·.line) = bodies text := by
  rw [bodies, ← map_line_standingLines, standings, List.map_map,
    List.filter_map, List.filter_map, List.map_map]
  rfl

theorem bodies_eq_of_standings {other : Text}
    (same : standings text = standings other) :
    bodies text = bodies other := by
  rw [← map_line_standings, same, map_line_standings]

theorem standingLines_of_afterLineEnd {rest : Text}
    (ends : afterLineEnd? text = some rest) :
    standingLines text = ⟨[], text⟩ :: standingLines rest := by
  unfold afterLineEnd? at ends
  split at ends
  · cases ends
    simp [standingLines, isLineEnd]
  · cases ends
    rw [standingLines]
  · next only =>
      cases ends
      rw [standingLines]
      · rfl
      · intro rest _ same
        exact only rest same
  · cases ends

theorem lines_of_afterLineEnd {rest : Text}
    (ends : afterLineEnd? text = some rest) :
    lines text = [] :: lines rest := by
  rw [← map_line_standingLines, standingLines_of_afterLineEnd ends,
    List.map_cons, map_line_standingLines]

theorem standingLines_append
    (inside : ∀ character ∈ line, isLineEnd character = false)
    (text : Text) :
    standingLines (line ++ text) = (standingLines text).modifyHead
      fun standing => ⟨line ++ standing.line, line ++ standing.onward⟩ := by
  induction line with
  | nil => cases shape : standingLines text <;> simp [shape]
  | cons character line ih =>
      obtain ⟨here, inside⟩ := List.forall_mem_cons.mp inside
      rw [List.cons_append, standingLines, ih inside]
      · simp only [here, Bool.false_eq_true, if_false]
        cases standingLines text <;> rfl
      · rintro rest rfl
        simp [isLineEnd] at here

@[simp]
theorem bodies_nil : bodies [] = [] := rfl

@[simp]
theorem standings_nil : standings [] = [] := rfl

theorem standings_of_afterLineEnd {rest : Text}
    (ends : afterLineEnd? text = some rest) :
    standings text = standings rest := by
  simp [standings, standingLines_of_afterLineEnd ends, Standing.body]

theorem bodies_of_afterLineEnd {rest : Text}
    (ends : afterLineEnd? text = some rest) : bodies text = bodies rest :=
  bodies_eq_of_standings (standings_of_afterLineEnd ends)

/-- What the line holds comes first, if it counts. -/
theorem standings_append
    (inside : ∀ character ∈ line, isLineEnd character = false)
    (boundary : IsBoundary tail) :
    standings (line ++ tail) =
      [Standing.body ⟨line, line ++ tail⟩].filter (!·.line.isEmpty) ++
        standings tail := by
  rcases eq_nil_or_afterLineEnd boundary with rfl | ⟨rest, ends⟩
  · rw [standings, standingLines_append inside, standingLines]
    simp
  · rw [standings_of_afterLineEnd ends, standings,
      standingLines_append inside, standingLines_of_afterLineEnd ends]
    simp only [List.modifyHead_cons, List.append_nil, List.map_cons]
    rw [← List.singleton_append, List.filter_append]
    rfl

/-- The body of a line comes first, if it counts. -/
theorem bodies_append
    (inside : ∀ character ∈ line, isLineEnd character = false)
    (boundary : IsBoundary tail) :
    bodies (line ++ tail) =
      [body line].filter (!·.isEmpty) ++ bodies tail := by
  rw [← map_line_standings, standings_append inside boundary,
    List.map_append, map_line_standings]
  by_cases nothing : body line = [] <;> simp [Standing.body, nothing]

end Bodies

section Gaps

variable {text blanks comment tail : Text}

theorem exists_line (text : Text) :
    ∃ line tail, text = line ++ tail ∧ IsBoundary tail ∧
      ∀ character ∈ line, isLineEnd character = false := by
  refine ⟨text.takeWhile (!isLineEnd ·), text.dropWhile (!isLineEnd ·),
    List.takeWhile_append_dropWhile.symm, Text.stops_dropWhile _ _, ?_⟩
  intro character member
  simpa using Text.passes_of_mem_takeWhile member

theorem afterGap_margin
    (blank : ∀ character ∈ blanks, Text.isSpaceOrTab character = true)
    (commentary : comment = [] ∨ ∃ words, comment = '#' :: words)
    (inside : ∀ character ∈ comment, isLineEnd character = false)
    (boundary : IsBoundary tail) :
    afterGap (blanks ++ (comment ++ tail)) = tail := by
  rcases commentary with rfl | ⟨words, rfl⟩
  · have stops : tail.Stops Text.isSpaceOrTab := by
      intro character found
      exact not_isSpaceOrTab_of_isLineEnd (by simpa using boundary _ found)
    rw [afterGap, List.nil_append, Text.dropWhile_append_of_stops blank stops]
    split
    · simp [IsBoundary, isLineEnd] at boundary
    · rfl
  · have stops : Text.Stops Text.isSpaceOrTab ('#' :: words ++ tail) := by
      rw [List.cons_append, Text.stops_cons_iff]
      rfl
    rw [afterGap, Text.dropWhile_append_of_stops blank stops]
    refine Text.dropWhile_append_of_stops ?_ boundary
    intro character member
    simp [inside character (List.mem_cons_of_mem _ member)]

/-- A gap is blanks, and then a comment up to the end of its line or something
else. -/
theorem gap_cases (text : Text) :
    ∃ blanks, (∀ character ∈ blanks, Text.isSpaceOrTab character = true) ∧
      ((∃ words, text = blanks ++ ('#' :: words ++ afterGap text) ∧
          IsBoundary (afterGap text) ∧
          ∀ character ∈ words, isLineEnd character = false) ∨
        (text = blanks ++ afterGap text ∧
          (afterGap text).Stops Text.isSpaceOrTab ∧
          (afterGap text).Stops isCommentMark)) := by
  refine ⟨text.takeWhile Text.isSpaceOrTab,
    fun _ => Text.passes_of_mem_takeWhile, ?_⟩
  have whole : text.takeWhile Text.isSpaceOrTab ++
      text.dropWhile Text.isSpaceOrTab = text :=
    List.takeWhile_append_dropWhile
  have stops := Text.stops_dropWhile Text.isSpaceOrTab text
  unfold afterGap
  split
  · next words after =>
      left
      rw [after] at whole
      refine ⟨words.takeWhile (!isLineEnd ·), ?_, Text.stops_dropWhile _ _, ?_⟩
      · rw [List.cons_append, List.takeWhile_append_dropWhile, whole]
      · intro character member
        simpa using Text.passes_of_mem_takeWhile member
  · next notComment =>
      right
      refine ⟨whole.symm, stops, ?_⟩
      intro character found
      obtain ⟨rest, after⟩ := List.head?_eq_some_iff.mp found
      rw [Bool.eq_false_iff, Ne, isCommentMark_iff]
      rintro rfl
      exact notComment rest after

theorem exists_gap (text : Text) :
    ∃ blanks comment, text = blanks ++ (comment ++ afterGap text) ∧
      (∀ character ∈ blanks, Text.isSpaceOrTab character = true) ∧
      (comment = [] ∨ ∃ words, comment = '#' :: words) ∧
      ∀ character ∈ comment, isLineEnd character = false := by
  obtain ⟨blanks, blank, ⟨words, whole, -, inside⟩ | ⟨whole, -⟩⟩ :=
    gap_cases text
  · exact ⟨blanks, '#' :: words, whole, blank, .inr ⟨words, rfl⟩,
      List.forall_mem_cons.mpr ⟨rfl, inside⟩⟩
  · exact ⟨blanks, [], whole, blank, .inl rfl, List.forall_mem_nil _⟩

/-- What may stand between two parts does not count. -/
theorem standings_afterGap (text : Text) :
    standings (afterGap text) = standings text := by
  obtain ⟨blanks, blank, ⟨words, whole, boundary, inside⟩ | ⟨whole, -⟩⟩ :=
    gap_cases text
  · have lineInside : ∀ character ∈ blanks ++ '#' :: words,
        isLineEnd character = false := by
      intro character member
      rcases List.mem_append.mp member with member | member
      · exact not_isLineEnd_of_isSpaceOrTab (blank character member)
      · rcases List.mem_cons.mp member with rfl | member
        · rfl
        · exact inside character member
    have noBody : body (blanks ++ '#' :: words) = [] := by
      rw [body_append_of_blanks blank, body_of_comment]
    conv => rhs; rw [whole]
    rw [← List.append_assoc, standings_append lineInside boundary,
      Standing.body, noBody]
    rfl
  · obtain ⟨line, tail, restEq, boundary, inside⟩ :=
      exists_line (afterGap text)
    have lineInside : ∀ character ∈ blanks ++ line,
        isLineEnd character = false := by
      intro character member
      rcases List.mem_append.mp member with member | member
      · exact not_isLineEnd_of_isSpaceOrTab (blank character member)
      · exact inside character member
    conv => rhs; rw [whole]
    rw [restEq, ← List.append_assoc, standings_append inside boundary,
      standings_append lineInside boundary, Standing.body, Standing.body,
      body_append_of_blanks blank, List.append_assoc,
      List.dropWhile_append_of_pos blank]

theorem bodies_afterGap (text : Text) :
    bodies (afterGap text) = bodies text :=
  bodies_eq_of_standings (standings_afterGap text)

theorem length_afterGap_le (text : Text) :
    (afterGap text).length ≤ text.length := by
  obtain ⟨blanks, -, ⟨words, whole, -⟩ | ⟨whole, -⟩⟩ := gap_cases text <;>
    conv => rhs; rw [whole]
  · simp only [List.length_append]
    omega
  · simp only [List.length_append]
    omega

theorem afterGap_dropWhile (text : Text) :
    afterGap (text.dropWhile Text.isSpaceOrTab) = afterGap text := by
  rw [afterGap, List.dropWhile_idempotent]
  rfl

theorem afterGap_of_stops (spaceStops : text.Stops Text.isSpaceOrTab)
    (markStops : text.Stops isCommentMark) : afterGap text = text := by
  rw [afterGap, Text.dropWhile_of_stops spaceStops]
  split
  · simp [isCommentMark] at markStops
  · rfl

theorem IsBoundary.stops_space (boundary : IsBoundary text) :
    text.Stops Text.isSpaceOrTab := fun character found =>
  not_isSpaceOrTab_of_isLineEnd (by simpa using boundary character found)

theorem IsBoundary.stops_mark (boundary : IsBoundary text) :
    text.Stops isCommentMark := fun character found =>
  not_isCommentMark_of_isLineEnd (by simpa using boundary character found)

theorem stops_afterGap (text : Text) :
    (afterGap text).Stops Text.isSpaceOrTab ∧
      (afterGap text).Stops isCommentMark := by
  obtain ⟨blanks, -, ⟨words, -, boundary, -⟩ | ⟨-, stops⟩⟩ := gap_cases text
  · exact ⟨boundary.stops_space, boundary.stops_mark⟩
  · exact stops

@[simp]
theorem afterGap_afterGap (text : Text) :
    afterGap (afterGap text) = afterGap text :=
  afterGap_of_stops (stops_afterGap text).1 (stops_afterGap text).2

end Gaps

section Contents

variable {content before behind margin text : Text}

theorem IsContent.not_commentMark (isContent : IsContent content) :
    ∀ character ∈ content, isCommentMark character = false :=
  fun character member => (isContent.unmarked character member).1

theorem IsContent.not_lineEnd (isContent : IsContent content) :
    ∀ character ∈ content, isLineEnd character = false :=
  fun character member => (isContent.unmarked character member).2

theorem IsContent.suffix (whole : IsContent (before ++ behind)) :
    IsContent behind := by
  obtain ⟨-, unmarked⟩ := List.forall_mem_append.mp whole.unmarked
  refine ⟨unmarked, ?_⟩
  intro character last
  refine whole.last_not_space character ?_
  rw [List.getLast?_append, Option.mem_def.mp last]
  rfl

theorem IsUnmarked.append (unmarked : IsUnmarked before)
    (behindUnmarked : IsUnmarked behind) : IsUnmarked (before ++ behind) :=
  List.forall_mem_append.mpr ⟨unmarked, behindUnmarked⟩

theorem IsContent.append (isContent : IsContent behind)
    (unmarked : IsUnmarked before) (neNil : behind ≠ []) :
    IsContent (before ++ behind) := by
  refine ⟨unmarked.append isContent.unmarked, ?_⟩
  rw [List.getLast?_append_of_ne_nil before neNil]
  exact isContent.last_not_space

theorem IsContent.dropWhile (isContent : IsContent content)
    (test : Char → Bool) : IsContent (content.dropWhile test) := by
  have whole : content.takeWhile test ++ content.dropWhile test = content :=
    List.takeWhile_append_dropWhile
  exact .suffix (by rw [whole]; exact isContent)

theorem IsContent.isBody_dropWhile (isContent : IsContent content)
    (neNil : content ≠ []) :
    IsBody (content.dropWhile Text.isSpaceOrTab) := by
  have whole : content.takeWhile Text.isSpaceOrTab ++
      content.dropWhile Text.isSpaceOrTab = content :=
    List.takeWhile_append_dropWhile
  refine ⟨isContent.dropWhile _, ?_, Text.stops_dropWhile _ _⟩
  intro nothing
  rw [nothing, List.append_nil] at whole
  have lastMem : content.getLast neNil ∈
      content.takeWhile Text.isSpaceOrTab := by
    rw [whole]
    exact List.getLast_mem neNil
  have lastSpace := Text.passes_of_mem_takeWhile lastMem
  rw [isContent.last_not_space _ (List.getLast?_eq_some_getLast neNil)]
    at lastSpace
  cases lastSpace

theorem IsBody.dropWhile_eq (isBody : IsBody content) :
    content.dropWhile Text.isSpaceOrTab = content :=
  Text.dropWhile_of_stops isBody.stops

theorem dropWhile_content_append (isContent : IsContent content)
    (neNil : content ≠ []) (behind : Text) :
    (content ++ behind).dropWhile Text.isSpaceOrTab =
      content.dropWhile Text.isSpaceOrTab ++ behind := by
  have isBody := isContent.isBody_dropWhile neNil
  rw [List.dropWhile_append, List.isEmpty_eq_false_iff.mpr isBody.ne_nil]
  rfl

theorem afterGap_content_append (isContent : IsContent content)
    (neNil : content ≠ []) (behind : Text) :
    afterGap (content ++ behind) =
      content.dropWhile Text.isSpaceOrTab ++ behind := by
  have isBody := isContent.isBody_dropWhile neNil
  obtain ⟨first, rest, shape⟩ := List.exists_cons_of_ne_nil isBody.ne_nil
  have noMark : isCommentMark first = false :=
    isBody.not_commentMark first (by rw [shape]; exact List.mem_cons_self)
  rw [afterGap, dropWhile_content_append isContent neNil, shape,
    List.cons_append]
  split
  · next words same =>
      cases same
      cases noMark
  · rfl

theorem body_content_append {blanks comment : Text}
    (isContent : IsContent content) (neNil : content ≠ [])
    (blank : ∀ character ∈ blanks, Text.isSpaceOrTab character = true)
    (commentary : comment = [] ∨ ∃ words, comment = '#' :: words) :
    body (content ++ (blanks ++ comment)) =
      content.dropWhile Text.isSpaceOrTab := by
  have isBody := isContent.isBody_dropWhile neNil
  have noMark : ∀ character ∈ content ++ blanks,
      (!isCommentMark character) = true := by
    intro character member
    rcases List.mem_append.mp member with member | member
    · simp [isContent.not_commentMark character member]
    · simp [not_isCommentMark_of_isSpaceOrTab (blank character member)]
  have stops : comment.Stops (!isCommentMark ·) := by
    rcases commentary with rfl | ⟨words, rfl⟩ <;> simp [isCommentMark]
  rw [body, ← List.append_assoc, Text.takeWhile_append_of_stops noMark stops,
    strip, dropWhile_content_append isContent neNil,
    Text.rdropWhile_append_of_pos blank, List.rdropWhile_eq_self_iff]
  intro someLeft
  have last := isBody.last_not_space _
    (List.getLast?_eq_some_getLast someLeft)
  simp [last]

theorem IsBody.body_eq (isBody : IsBody content) : body content = content := by
  have same := body_content_append isBody.toIsContent isBody.ne_nil
    (List.forall_mem_nil _) (.inl rfl)
  rwa [List.append_nil, List.append_nil, isBody.dropWhile_eq] at same

/-- Content in front of a margin makes up a line that counts. -/
theorem standings_content_append (isContent : IsContent content)
    (neNil : content ≠ []) (isMargin : IsMargin margin) :
    standings (content ++ margin) =
      ⟨content.dropWhile Text.isSpaceOrTab,
        content.dropWhile Text.isSpaceOrTab ++ margin⟩ ::
      standings margin := by
  have isBody := isContent.isBody_dropWhile neNil
  obtain ⟨blanks, comment, whole, blank, commentary, inside⟩ :=
    exists_gap margin
  have lineInside : ∀ character ∈ content ++ (blanks ++ comment),
      isLineEnd character = false := by
    intro character member
    rcases List.mem_append.mp member with member | member
    · exact isContent.not_lineEnd character member
    · rcases List.mem_append.mp member with member | member
      · exact not_isLineEnd_of_isSpaceOrTab (blank character member)
      · exact inside character member
  have textEq : content ++ (blanks ++ comment) ++ afterGap margin =
      content ++ margin := by
    conv => rhs; rw [whole]
    simp only [List.append_assoc]
  rw [← textEq, standings_append lineInside isMargin, textEq,
    Standing.body, body_content_append isContent neNil blank commentary,
    dropWhile_content_append isContent neNil, standings_afterGap]
  simp [isBody.ne_nil]

theorem bodies_content_append (isContent : IsContent content)
    (neNil : content ≠ []) (isMargin : IsMargin margin) :
    bodies (content ++ margin) =
      content.dropWhile Text.isSpaceOrTab :: bodies margin := by
  rw [← map_line_standings, standings_content_append isContent neNil isMargin,
    List.map_cons, map_line_standings]

theorem exists_content {line : Text}
    (inside : ∀ character ∈ line, isLineEnd character = false) :
    ∃ content blanks comment, line = content ++ (blanks ++ comment) ∧
      IsContent content ∧
      (∀ character ∈ blanks, Text.isSpaceOrTab character = true) ∧
      (comment = [] ∨ ∃ words, comment = '#' :: words) ∧
      ∀ character ∈ comment, isLineEnd character = false := by
  let plain := line.takeWhile (!isCommentMark ·)
  let comment := line.dropWhile (!isCommentMark ·)
  have lineEq : plain ++ comment = line := List.takeWhile_append_dropWhile
  have plainEq : plain.rdropWhile Text.isSpaceOrTab ++
      plain.rtakeWhile Text.isSpaceOrTab = plain :=
    List.rdropWhile_append_rtakeWhile
  have contentSub : ∀ character ∈ plain.rdropWhile Text.isSpaceOrTab,
      character ∈ plain := fun character member => by
    rw [← plainEq]
    exact List.mem_append_left _ member
  refine ⟨plain.rdropWhile Text.isSpaceOrTab,
    plain.rtakeWhile Text.isSpaceOrTab, comment, ?_, ⟨?_, ?_⟩,
    fun _ => List.mem_rtakeWhile_imp, ?_, ?_⟩
  · rw [← List.append_assoc, plainEq, lineEq]
  · intro character member
    have inPlain := contentSub character member
    have inLine : character ∈ line := by
      rw [← lineEq]
      exact List.mem_append_left _ inPlain
    exact ⟨by simpa using Text.passes_of_mem_takeWhile inPlain,
      inside character inLine⟩
  · intro character last
    obtain ⟨neNil, rfl⟩ := List.mem_getLast?_eq_getLast last
    simpa using List.rdropWhile_last_not _ _ neNil
  · cases shape : comment with
    | nil => exact .inl rfl
    | cons mark words =>
        have stops := Text.stops_dropWhile (!isCommentMark ·) line
        rw [show line.dropWhile (!isCommentMark ·) = mark :: words from shape,
          Text.stops_cons_iff, Bool.not_eq_false', isCommentMark_iff] at stops
        exact .inr ⟨words, by rw [stops]⟩
  · intro character member
    refine inside character ?_
    rw [← lineEq]
    exact List.mem_append_right _ member

/-- Where no gap is left a text is at a boundary or at the body of a line. -/
theorem isBoundary_or_exists_body (ready : afterGap text = text) :
    IsBoundary text ∨
      ∃ content margin, text = content ++ margin ∧ IsBody content ∧
        IsMargin margin ∧
        standings text = ⟨content, content ++ margin⟩ :: standings margin := by
  obtain ⟨line, tail, rfl, boundary, inside⟩ := exists_line text
  obtain ⟨content, blanks, comment, rfl, isContent, blank, commentary,
    commentInside⟩ := exists_content inside
  have afterMargin := afterGap_margin blank commentary commentInside boundary
  have isMargin : IsMargin (blanks ++ (comment ++ tail)) := by
    rw [IsMargin, afterMargin]
    exact boundary
  simp only [List.append_assoc] at ready ⊢
  rcases content with _ | ⟨first, content⟩
  · left
    rw [List.nil_append] at ready ⊢
    rw [← ready]
    exact isMargin
  · right
    have neNil : first :: content ≠ [] := List.cons_ne_nil _ _
    have isBody : IsBody (first :: content) := by
      refine ⟨isContent, neNil, ?_⟩
      have stops := (stops_afterGap
        (first :: content ++ (blanks ++ (comment ++ tail)))).1
      rw [ready, List.cons_append, Text.stops_cons_iff] at stops
      exact Text.stops_cons_iff.mpr stops
    refine ⟨first :: content, _, rfl, isBody, isMargin, ?_⟩
    rw [standings_content_append isContent neNil isMargin,
      isBody.dropWhile_eq]

end Contents

section Margins

variable {content margin : Text}

/-- Neither a space nor a tab, and neither the beginning of a comment nor the
end of a line. -/
def isPlain (character : Char) : Bool :=
  !(Text.isSpaceOrTab character || isCommentMark character ||
    isLineEnd character)

/-- No part of a document goes on in a margin. -/
theorem IsMargin.stops_plain (isMargin : IsMargin margin) :
    margin.Stops isPlain := by
  obtain ⟨blanks, comment, whole, blank, commentary, -⟩ := exists_gap margin
  rw [whole]
  refine .append ?_ (.append ?_ ?_)
  · intro character found
    simp [isPlain, blank character (List.mem_of_mem_head? found)]
  · rcases commentary with rfl | ⟨words, rfl⟩ <;> simp [isPlain, isCommentMark]
  · intro character found
    have lineEnd := isMargin character found
    simp only [Bool.not_eq_false'] at lineEnd
    simp [isPlain, lineEnd]

theorem isPlain_of_isSymbol {character : Char}
    (symbol : Text.isSymbol character = true) : isPlain character = true := by
  unfold Text.isSymbol Symbol.ofChar? at symbol
  split at symbol <;> first | decide | cases symbol

theorem isUnmarked_of_isProgram {word : Text}
    (program : Text.isProgram word = true) : IsUnmarked word := by
  intro character member
  have plain := isPlain_of_isSymbol
    (List.all_eq_true.mp program character member)
  simp only [isPlain, Bool.not_eq_true', Bool.or_eq_false_iff] at plain
  exact ⟨plain.1.2, plain.2⟩

theorem isContent_of_isProgram {word : Text}
    (program : Text.isProgram word = true) : IsContent word := by
  refine ⟨isUnmarked_of_isProgram program, ?_⟩
  intro character last
  have plain := isPlain_of_isSymbol
    (List.all_eq_true.mp program character (List.mem_of_getLast? last))
  simp only [isPlain, Bool.not_eq_true', Bool.or_eq_false_iff] at plain
  exact plain.1.1

theorem IsMargin.stops_symbol (isMargin : IsMargin margin) :
    margin.Stops Text.isSymbol :=
  isMargin.stops_plain.mono fun _ => isPlain_of_isSymbol

/-- A heading in front of a margin is one in front of the line's end. -/
theorem prefix_of_prefix_append_margin {heading : Text}
    (plain : ∀ character ∈ heading, isPlain character = true)
    (isMargin : IsMargin margin) (begins : heading <+: content ++ margin) :
    heading <+: content := by
  obtain ⟨rest, same⟩ := begins
  rcases List.append_eq_append_iff.mp same with
    ⟨others, contentEq, -⟩ | ⟨others, headingEq, marginEq⟩
  · exact ⟨others, contentEq.symm⟩
  · rcases others with _ | ⟨first, others⟩
    · rw [List.append_nil] at headingEq
      exact ⟨[], by rw [headingEq, List.append_nil]⟩
    · have stops := isMargin.stops_plain
      rw [marginEq, List.cons_append, Text.stops_cons_iff] at stops
      have passes := plain first (by rw [headingEq]; simp)
      rw [stops] at passes
      cases passes

theorem IsMargin.dropWhile (isMargin : IsMargin margin) :
    IsMargin (margin.dropWhile Text.isSpaceOrTab) := by
  rw [IsMargin, afterGap_dropWhile]
  exact isMargin

theorem standings_dropWhile (text : Text) :
    standings (text.dropWhile Text.isSpaceOrTab) = standings text := by
  rw [← standings_afterGap, afterGap_dropWhile, standings_afterGap]

end Margins

end TurtleSystems.Document
