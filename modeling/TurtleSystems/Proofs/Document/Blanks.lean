import TurtleSystems.Proofs.Document.Lines
import TurtleSystems.Proofs.Reader

/-!
# Reading what does not count

Gaps and blank lines are read without a look at what they hold, and the lines
that count are the same behind them and stand where they stood.  Behind blank
lines the next of these lines is in front, or nothing counts any more.
-/

namespace TurtleSystems.Document.Grammar

open Reader

variable {α : Type} {reader : Reader α} {text left margin : Text}

theorem reads_spaces (text : Text) :
    spaces.Reads text (fun _ => True)
      (text.dropWhile Text.isSpaceOrTab) :=
  reads_skipping _ text

theorem fails_comment (stops : text.Stops isCommentMark) :
    comment.Fails text := by
  refine Fails.bind (fails_literal ?_)
  rintro ⟨rest, rfl⟩
  simp [isCommentMark] at stops

theorem reads_comment (words : Text) :
    comment.Reads ('#' :: words) (fun _ => True)
      (words.dropWhile (!isLineEnd ·)) :=
  (reads_literal ['#'] words).bind fun _ _ => reads_skipping _ words

theorem repeats_comment (stops : text.Stops Text.isSpaceOrTab) :
    Repeats (do comment; spaces) text (fun _ => True) (afterGap text) := by
  rcases text with _ | ⟨first, words⟩
  · exact (fails_comment (Text.stops_nil _)).bind.repeats
  by_cases mark : first = '#'
  · subst mark
    have boundary : IsBoundary (words.dropWhile (!isLineEnd ·)) :=
      Text.stops_dropWhile _ words
    have spacesRead := reads_spaces (words.dropWhile (!isLineEnd ·))
    rw [Text.dropWhile_of_stops boundary.stops_space] at spacesRead
    have commentRead := (reads_comment words).bind fun _ _ => spacesRead
    have shorter := List.length_dropWhile_le (!isLineEnd ·) words
    exact commentRead.repeats (Nat.lt_succ_of_le shorter)
      (fails_comment boundary.stops_mark).bind.repeats
  · have markStops : Text.Stops isCommentMark (first :: words) := by
      rw [Text.stops_cons_iff, Bool.eq_false_iff, Ne, isCommentMark_iff]
      exact mark
    rw [afterGap_of_stops stops markStops]
    exact (fails_comment markStops).bind.repeats

theorem reads_gap (text : Text) :
    gap.Reads text (fun _ => True) (afterGap text) := by
  have repeats := repeats_comment (Text.stops_dropWhile Text.isSpaceOrTab text)
  rw [afterGap_dropWhile] at repeats
  refine (reads_spaces text).bind fun _ _ => ?_
  exact repeats.many.bind fun _ _ => reads_pure trivial

/-- Where there is no gap the reader of gaps stays in its place. -/
theorem result_gap (ready : afterGap text = text) (offset : Nat) :
    (gap ⟨text, offset⟩).result = some ((), ⟨text, offset⟩) := by
  have stops := stops_afterGap text
  rw [ready] at stops
  have commentaryFails : Fails (do comment; spaces) text :=
    (fails_comment stops.2).bind
  have spacesResult : (spaces ⟨text, offset⟩).result =
      some ((), ⟨text, offset⟩) := by
    change some ((), Place.passing Text.isSpaceOrTab text offset) = _
    rw [passing_of_stops stops.1]
  rw [gap, result_bind, spacesResult]
  simp only [result_bind, commentaryFails.result_many]
  rfl

/-- Without a gap in front, parts with gaps in between are parts with gaps in
front of them. -/
theorem reads_apart {good : List α → Prop} (ready : afterGap text = text)
    (repeats : Repeats (do gap; reader) text good left) :
    (apart reader).Reads text good left := by
  have same (offset : Nat) :
      ((do gap; reader) ⟨text, offset⟩).result =
        (reader ⟨text, offset⟩).result := by
    rw [result_bind, result_gap ready]
  cases repeats with
  | stop fails nilGood =>
      have readerFails : reader.Fails text := fun offset => by
        rw [← same, fails offset]
      exact readerFails.bind.either (reads_pure nilGood)
  | next reads _ repeats consGood =>
      have readerReads := fun offset => by
        simpa only [same] using reads offset
      refine Reads.either (Reads.bind readerReads fun value valueGood => ?_)
      exact repeats.many.bind fun values valuesGood =>
        reads_pure (consGood value values valueGood valuesGood)

theorem reads_newline {rest : Text} (ends : afterLineEnd? text = some rest) :
    newline.Reads text (fun _ => True) rest := by
  unfold afterLineEnd? at ends
  split at ends
  · cases ends
    exact (reads_literal ['\n'] rest).either
  · cases ends
    refine (fails_literal ?_).either (reads_literal ['\r', '\n'] rest).either
    rintro ⟨_, same⟩
    cases same
  · next only =>
      cases ends
      refine (fails_literal ?_).either
        ((fails_literal ?_).either (reads_literal ['\r'] rest))
      · rintro ⟨_, same⟩
        cases same
      · rintro ⟨others, same⟩
        cases same
        exact only others rfl
  · cases ends

theorem fails_newline (noEnd : afterLineEnd? text = none) :
    newline.Fails text := by
  have noFeed : ¬ ['\n'] <+: text := by
    rintro ⟨rest, rfl⟩
    cases noEnd
  have noReturn : ¬ ['\r'] <+: text := by
    rintro ⟨rest, rfl⟩
    unfold afterLineEnd? at noEnd
    split at noEnd <;> simp_all
  have noPair : ¬ ['\r', '\n'] <+: text := by
    rintro ⟨rest, rfl⟩
    cases noEnd
  exact (fails_literal noFeed).either_fails
    ((fails_literal noPair).either_fails (fails_literal noReturn))

/-- No blank line is in front, up to gaps. -/
def IsSettled (text : Text) : Prop :=
  afterLineEnd? (afterGap text) = none

theorem exists_repeats_newline (text : Text) :
    ∃ left, Repeats (do gap; newline) text (fun _ => True) left ∧
      standings left = standings text ∧ left.length ≤ text.length ∧
      IsSettled left := by
  induction lengthEq : text.length using Nat.strongRecOn generalizing text with
  | ind length ih =>
      subst lengthEq
      cases ends : afterLineEnd? (afterGap text) with
      | none =>
          have fails : Fails (do gap; newline) text :=
            (reads_gap text).bind_fails fun _ _ => fails_newline ends
          exact ⟨text, fails.repeats, rfl, Nat.le_refl _, ends⟩
      | some rest =>
          have shorter : rest.length < text.length :=
            Nat.lt_of_lt_of_le (length_lt_of_afterLineEnd ends)
              (length_afterGap_le text)
          obtain ⟨left, repeats, standingsEq, leftLe, settled⟩ :=
            ih rest.length shorter rest rfl
          have reads := (reads_gap text).bind fun _ _ => reads_newline ends
          refine ⟨left, reads.repeats shorter repeats, ?_, by omega, settled⟩
          rw [standingsEq, ← standings_of_afterLineEnd ends,
            standings_afterGap]

theorem exists_reads_newlines {rest : Text}
    (ends : afterLineEnd? text = some rest) :
    ∃ left, newlines.Reads text (fun _ => True) left ∧
      standings left = standings rest ∧ left.length ≤ rest.length ∧
      IsSettled left := by
  obtain ⟨left, repeats, standingsEq, leftLe, settled⟩ :=
    exists_repeats_newline (afterGap rest)
  have shorter := length_afterGap_le rest
  refine ⟨left, ?_, ?_, by omega, settled⟩
  · refine (reads_newline ends).bind fun _ _ =>
      (reads_gap rest).bind fun _ _ => ?_
    exact (reads_apart (afterGap_afterGap rest) repeats).bind fun _ _ =>
      reads_pure trivial
  · rw [standingsEq, standings_afterGap]

theorem fails_newlines (noEnd : afterLineEnd? text = none) :
    newlines.Fails text :=
  (fails_newline noEnd).bind

/-- Behind blank lines, the next line that counts is in front. -/
theorem exists_reads_blankLines (text : Text) :
    ∃ left, blankLines.Reads text (fun _ => True) (afterGap left) ∧
      standings left = standings text ∧ left.length ≤ text.length ∧
      IsSettled left := by
  obtain ⟨left, repeats, standingsEq, leftLe, settled⟩ :=
    exists_repeats_newline (afterGap text)
  have shorter := length_afterGap_le text
  refine ⟨left, ?_, ?_, by omega, settled⟩
  · refine (reads_gap text).bind fun _ _ => ?_
    exact (reads_apart (afterGap_afterGap text) repeats).bind fun _ _ =>
      reads_gap left
  · rw [standingsEq, standings_afterGap]

/-- Where no blank line is in front, there is the body of a line or nothing
that counts. -/
theorem IsSettled.standing_cases (settled : IsSettled text) :
    (afterGap text = [] ∧ standings text = []) ∨
      ∃ content margin, afterGap text = content ++ margin ∧
        IsBody content ∧ IsMargin margin ∧
        standings text = ⟨content, content ++ margin⟩ :: standings margin := by
  rcases isBoundary_or_exists_body (afterGap_afterGap text) with
    boundary | ⟨content, margin, textEq, isBody, isMargin, standingsEq⟩
  · left
    rcases eq_nil_or_afterLineEnd boundary with nothing | ⟨rest, ends⟩
    · refine ⟨nothing, ?_⟩
      rw [← standings_afterGap, nothing]
      rfl
    · rw [IsSettled, ends] at settled
      cases settled
  · right
    rw [standings_afterGap] at standingsEq
    exact ⟨content, margin, textEq, isBody, isMargin, standingsEq⟩

theorem IsSettled.cases (settled : IsSettled text) :
    (afterGap text = [] ∧ bodies text = []) ∨
      ∃ content margin, afterGap text = content ++ margin ∧
        IsBody content ∧ IsMargin margin ∧
        bodies text = content :: bodies margin := by
  simp only [← map_line_standings]
  rcases settled.standing_cases with ⟨nothing, noStandings⟩ |
    ⟨content, margin, textEq, isBody, isMargin, standingsEq⟩
  · exact .inl ⟨nothing, by rw [noStandings]; rfl⟩
  · exact .inr ⟨content, margin, textEq, isBody, isMargin,
      by rw [standingsEq]; rfl⟩

section LineEnds

theorem fails_finish (textNeNil : text ≠ []) : finish.Fails text :=
  (fails_atEnd textNeNil).named

theorem reads_finish : finish.Reads [] (fun _ => True) [] :=
  reads_atEnd.named

theorem exists_reads_lineEnd (isMargin : IsMargin margin) :
    ∃ left, lineEnd.Reads margin (fun _ => True) left ∧
      standings left = standings margin ∧ left.length ≤ margin.length ∧
      IsSettled left := by
  have marginLe := length_afterGap_le margin
  rcases eq_nil_or_afterLineEnd isMargin with nothing | ⟨rest, ends⟩
  · refine ⟨[], (reads_gap margin).bind fun _ _ => ?_, ?_, by simp, rfl⟩
    · rw [nothing]
      exact (fails_newlines rfl).either reads_finish.ahead
    · rw [← standings_afterGap margin, nothing]
  · obtain ⟨left, reads, standingsEq, leftLe, settled⟩ :=
      exists_reads_newlines ends
    have restLt := length_lt_of_afterLineEnd ends
    refine ⟨left, (reads_gap margin).bind fun _ _ => reads.either, ?_,
      by omega, settled⟩
    rw [standingsEq, ← standings_of_afterLineEnd ends, standings_afterGap]

theorem afterLineEnd?_body_append {content : Text} (isBody : IsBody content)
    (behind : Text) : afterLineEnd? (content ++ behind) = none := by
  obtain ⟨first, rest, rfl⟩ := List.exists_cons_of_ne_nil isBody.ne_nil
  have inside := isBody.not_lineEnd first List.mem_cons_self
  cases ends : afterLineEnd? (first :: rest ++ behind) with
  | none => rfl
  | some rest =>
      have boundary := isBoundary_of_afterLineEnd ends
      simp [IsBoundary, inside] at boundary

theorem fails_lineEnd {content : Text} (isContent : IsContent content)
    (neNil : content ≠ []) (behind : Text) :
    lineEnd.Fails (content ++ behind) := by
  have isBody := isContent.isBody_dropWhile neNil
  have reads := reads_gap (content ++ behind)
  rw [afterGap_content_append isContent neNil] at reads
  refine reads.bind_fails fun _ _ => ?_
  refine (fails_newlines (afterLineEnd?_body_append isBody behind)).either_fails
    (fails_finish ?_).ahead
  simp [isBody.ne_nil]

end LineEnds

end TurtleSystems.Document.Grammar
