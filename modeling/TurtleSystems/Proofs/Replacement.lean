import Mathlib.Data.Nat.Find
import TurtleSystems.Proofs.Occurrences
import TurtleSystems.Proofs.Text

/-!
# Leftmost replacement

The occurrences of a pattern that a rule replaces are found one after the
other, each of them as the first one in what is left of the text.  This cuts
the text into pieces in exactly one way, and the scan finds this way.  So does
a loop that looks for the next occurrence again and again and counts what it
replaces in words of 64 bits: the words are never used up, because a text has
at least one byte for each occurrence.
-/

namespace TurtleSystems

namespace Text

/-- A pattern stands at a position of a text, and at no position before. -/
structure IsFirstAt (pattern text : Text) (position : Nat) : Prop where
  here : pattern <+: text.drop position
  not_before : ∀ earlier < position, ¬ pattern <+: text.drop earlier

/-- The pieces of a text around the occurrences of a pattern: behind each
piece stands the first occurrence in what the pieces before it left of the
text, and in the last piece there is none. -/
structure IsCut (pattern text : Text) (pieces : List Text) : Prop where
  pieces_ne_nil : pieces ≠ []
  joined : pattern.intercalate pieces = text
  first : ∀ index (beforeLast : index + 1 < pieces.length),
    IsFirstAt pattern (pattern.intercalate (pieces.drop index))
      pieces[index].length
  last : ∀ piece ∈ pieces.getLast?, ¬ pattern <:+: piece

variable {pattern text rest piece next : Text} {pieces : List Text}

section First

theorem infix_of_isFirstAt {position : Nat}
    (first : IsFirstAt pattern text position) : pattern <:+: text :=
  first.here.isInfix.trans (List.drop_suffix position text).isInfix

theorem IsFirstAt.unique {position other : Nat}
    (first : IsFirstAt pattern text position)
    (firstToo : IsFirstAt pattern text other) : position = other := by
  rcases Nat.lt_trichotomy position other with before | same | behind
  · exact absurd first.here (firstToo.not_before position before)
  · exact same
  · exact absurd firstToo.here (first.not_before other behind)

theorem IsFirstAt.le_length {position : Nat}
    (first : IsFirstAt pattern text position) : position ≤ text.length := by
  by_contra beyond
  have nothing : text.drop position = [] :=
    List.drop_eq_nil_of_le (by omega)
  have patternNil : pattern = [] :=
    List.prefix_nil.mp (nothing ▸ first.here)
  exact first.not_before text.length (by omega)
    (by rw [patternNil]; exact List.nil_prefix)

theorem exists_isFirstAt (present : pattern <:+: text) :
    ∃ piece rest, text = piece ++ pattern ++ rest ∧
      IsFirstAt pattern text piece.length := by
  have somewhere : ∃ position, pattern <+: text.drop position := by
    obtain ⟨before, behind, rfl⟩ := present
    exact ⟨before.length, behind, by simp⟩
  classical
  obtain ⟨rest, restEq⟩ := Nat.find_spec somewhere
  have first : IsFirstAt pattern text (Nat.find somewhere) :=
    ⟨Nat.find_spec somewhere, fun _ => Nat.find_min somewhere⟩
  refine ⟨text.take (Nat.find somewhere), rest, ?_, ?_⟩
  · rw [List.append_assoc, restEq, List.take_append_drop]
  · rwa [List.length_take_of_le first.le_length]

end First

section Cuts

theorem isCut_singleton_iff :
    IsCut pattern text [piece] ↔ text = piece ∧ ¬ pattern <:+: piece := by
  constructor
  · rintro ⟨-, joined, -, last⟩
    exact ⟨by simpa using joined.symm, last piece rfl⟩
  · rintro ⟨rfl, absent⟩
    refine ⟨by simp, by simp, ?_, by simpa using absent⟩
    intro index beforeLast
    simp at beforeLast

theorem isCut_cons_cons_iff :
    IsCut pattern text (piece :: next :: pieces) ↔
      ∃ rest, text = piece ++ pattern ++ rest ∧
        IsFirstAt pattern text piece.length ∧
        IsCut pattern rest (next :: pieces) := by
  constructor
  · rintro ⟨-, rfl, first, last⟩
    refine ⟨pattern.intercalate (next :: pieces),
      List.intercalate_cons_cons, first 0 (by simp), by simp, rfl, ?_, ?_⟩
    · intro index beforeLast
      exact first (index + 1) (by simpa using beforeLast)
    · simpa using last
  · rintro ⟨rest, rfl, first, -, rfl, othersFirst, last⟩
    refine ⟨by simp, List.intercalate_cons_cons, ?_, by simpa using last⟩
    intro index beforeLast
    cases index with
    | zero => simpa using first
    | succ index => exact othersFirst index (by simpa using beforeLast)

/-- There is at most one way to cut a text. -/
theorem IsCut.unique {others : List Text} (cut : IsCut pattern text pieces)
    (cutToo : IsCut pattern text others) : pieces = others := by
  induction pieces generalizing text others with
  | nil => exact absurd rfl cut.pieces_ne_nil
  | cons piece pieces ih =>
      cases others with
      | nil => exact absurd rfl cutToo.pieces_ne_nil
      | cons other others =>
          cases pieces with
          | nil =>
              obtain ⟨rfl, absent⟩ := isCut_singleton_iff.mp cut
              cases others with
              | nil =>
                  obtain ⟨rfl, -⟩ := isCut_singleton_iff.mp cutToo
                  rfl
              | cons =>
                  obtain ⟨-, -, first, -⟩ := isCut_cons_cons_iff.mp cutToo
                  exact absurd (infix_of_isFirstAt first) absent
          | cons next pieces =>
              obtain ⟨rest, restEq, first, cut⟩ := isCut_cons_cons_iff.mp cut
              cases others with
              | nil =>
                  obtain ⟨rfl, absent⟩ := isCut_singleton_iff.mp cutToo
                  exact absurd (infix_of_isFirstAt first) absent
              | cons =>
                  obtain ⟨rest', restEq', first', cutToo⟩ :=
                    isCut_cons_cons_iff.mp cutToo
                  -- Both first pieces end where the first occurrence stands.
                  have lengths := first.unique first'
                  rw [restEq, List.append_assoc, List.append_assoc]
                    at restEq'
                  obtain ⟨rfl, behind⟩ :=
                    List.append_inj restEq' lengths
                  cases List.append_cancel_left behind
                  rw [ih cut cutToo]

theorem scanPieces_append (pattern : Text) (skip : Nat) (piece : Text)
    (pieces : List Text) (text : Text) :
    scanPieces pattern skip piece pieces text =
      pieces.reverse ++ scanPieces pattern skip piece [] text := by
  induction text generalizing skip piece pieces with
  | nil => cases skip <;> simp [scanPieces]
  | cons character text ih =>
      cases skip with
      | succ skip => exact ih skip piece pieces
      | zero =>
          simp only [scanPieces]
          split
          · rw [ih, ih _ _ [piece.reverse]]
            simp
          · exact ih 0 (character :: piece) pieces

theorem scanPieces_drop (pattern : Text) (skip : Nat) (piece : Text)
    (pieces : List Text) (text : Text) :
    scanPieces pattern skip piece pieces text =
      scanPieces pattern 0 piece pieces (text.drop skip) := by
  induction text generalizing skip with
  | nil => cases skip <;> simp [scanPieces]
  | cons character text ih =>
      cases skip with
      | zero => rfl
      | succ skip => exact ih skip

theorem IsFirstAt.tail {character : Char} {position : Nat}
    (first : IsFirstAt pattern (character :: text) (position + 1)) :
    IsFirstAt pattern text position :=
  ⟨first.here, fun earlier before =>
    first.not_before (earlier + 1) (Nat.succ_lt_succ before)⟩

/-- The scan puts aside what stands in front of the first occurrence and goes
on behind it. -/
theorem scanPieces_of_isFirstAt (patternNeNil : pattern ≠ [])
    (first : IsFirstAt pattern (piece ++ pattern ++ rest) piece.length)
    (before : Text) (pieces : List Text) :
    scanPieces pattern 0 before pieces (piece ++ pattern ++ rest) =
      scanPieces pattern 0 [] ((before.reverse ++ piece) :: pieces) rest := by
  induction piece generalizing before with
  | nil =>
      obtain ⟨character, others, rfl⟩ :=
        List.exists_cons_of_ne_nil patternNeNil
      have here : (character :: others).isPrefixOf
          (character :: (others ++ rest)) = true :=
        List.isPrefixOf_iff_prefix.mpr ⟨rest, rfl⟩
      rw [List.nil_append, List.cons_append, scanPieces, if_pos here,
        scanPieces_drop, List.append_nil]
      simp
  | cons character piece ih =>
      have notHere : ¬ pattern.isPrefixOf
          (character :: (piece ++ pattern ++ rest)) = true := by
        rw [List.isPrefixOf_iff_prefix]
        exact first.not_before 0 (Nat.succ_pos _)
      rw [List.cons_append, List.cons_append, scanPieces, if_neg notHere,
        ih first.tail]
      simp

theorem piecesAround_of_isFirstAt (patternNeNil : pattern ≠ [])
    (first : IsFirstAt pattern (piece ++ pattern ++ rest) piece.length) :
    piecesAround pattern (piece ++ pattern ++ rest) =
      piece :: piecesAround pattern rest := by
  have notEmpty : pattern.isEmpty ≠ true := by
    simpa [List.isEmpty_iff] using patternNeNil
  rw [piecesAround, if_neg notEmpty, piecesAround, if_neg notEmpty,
    scanPieces_of_isFirstAt patternNeNil first, scanPieces_append]
  simp

theorem piecesAround_ne_nil (pattern text : Text) :
    piecesAround pattern text ≠ [] := by
  unfold piecesAround
  split
  · simp
  · have more := length_le_length_scanPieces pattern 0 [] [] text
    exact List.ne_nil_of_length_pos more

/-- The scan cuts a text at the occurrences of a pattern. -/
theorem isCut_piecesAround (patternNeNil : pattern ≠ []) (text : Text) :
    IsCut pattern text (piecesAround pattern text) := by
  induction lengthEq : text.length using Nat.strong_induction_on
    generalizing text with
  | _ length ih =>
      by_cases present : pattern <:+: text
      · obtain ⟨piece, rest, rfl, first⟩ := exists_isFirstAt present
        have patternPos := List.length_pos_iff.mpr patternNeNil
        have shorter : rest.length < length := by
          simp only [List.length_append] at lengthEq
          omega
        have cut := ih rest.length shorter rest rfl
        rw [piecesAround_of_isFirstAt patternNeNil first]
        obtain ⟨next, pieces, piecesEq⟩ :=
          List.exists_cons_of_ne_nil (piecesAround_ne_nil pattern rest)
        rw [piecesEq] at cut ⊢
        exact isCut_cons_cons_iff.mpr ⟨rest, rfl, first, cut⟩
      · rw [piecesAround_of_not_isInfix present]
        exact isCut_singleton_iff.mpr ⟨rfl, present⟩

/-- A text has room for the occurrences around which it is cut. -/
theorem IsCut.mul_byteLength_le (cut : IsCut pattern text pieces) :
    (pieces.length - 1) * byteLength pattern ≤ byteLength text := by
  rw [← cut.joined, byteLength_intercalate pattern cut.pieces_ne_nil]
  omega

end Cuts

section Search

/-- Where a pattern stands first in a text, if it does. -/
def find? (pattern text : Text) : Option Nat :=
  (List.range (text.length + 1)).find? fun position =>
    pattern.isPrefixOf (text.drop position)

theorem find?_eq_some_iff {position : Nat} :
    find? pattern text = some position ↔
      IsFirstAt pattern text position := by
  rw [find?, List.find?_range_eq_some]
  simp only [List.isPrefixOf_iff_prefix, List.mem_range, Bool.not_eq_true',
    ← Bool.not_eq_true]
  constructor
  · rintro ⟨here, -, notBefore⟩
    exact ⟨here, notBefore⟩
  · intro first
    exact ⟨first.here, Nat.lt_succ_of_le first.le_length, first.not_before⟩

theorem find?_eq_none_iff :
    find? pattern text = none ↔ ¬ pattern <:+: text := by
  constructor
  · intro nowhere present
    obtain ⟨piece, rest, -, first⟩ := exists_isFirstAt present
    rw [find?_eq_some_iff.mpr first] at nowhere
    cases nowhere
  · intro absent
    cases found : find? pattern text with
    | none => rfl
    | some position =>
        exact absurd (infix_of_isFirstAt (find?_eq_some_iff.mp found)) absent

end Search

end Text

namespace Rule

/-- Replace one occurrence after the other: find the first one in the rest of
the text, count it, and go on behind it.  The count is kept in a word of 64
bits, which would start again at zero if it were used up. -/
def applyCounting (rule : Rule) (limit count : UInt64) (output rest : Text) :
    Except GrowthLimitExceeded Text :=
  match _ : Text.find? rule.pattern rest with
  | none => .ok (output ++ rest)
  | some position =>
    if limit < count + 1 then .error ⟨limit.toNat⟩
    else
      applyCounting rule limit (count + 1)
        (output ++ rest.take position ++ rule.replacement)
        (rest.drop (position + rule.pattern.length))
termination_by rest.length
decreasing_by
  have present := Text.infix_of_isFirstAt (Text.find?_eq_some_iff.mp
    ‹Text.find? rule.pattern rest = some position›)
  have patternPos := List.length_pos_iff.mpr rule.pattern_ne_nil
  have room := present.length_le
  rw [List.length_drop]
  omega

variable {rule : Rule} {limit count : UInt64} {text rest : Text}
variable {pieces : List Text}

/-- While its word is not used up, the loop replaces as many occurrences as
there are, or stops when there are more than are allowed. -/
theorem applyCounting_of_isCut (cut : Text.IsCut rule.pattern rest pieces)
    (within : count ≤ limit)
    (room : count.toNat + (pieces.length - 1) < UInt64.size)
    (output : Text) :
    rule.applyCounting limit count output rest =
      if limit.toNat < count.toNat + (pieces.length - 1) then
        .error ⟨limit.toNat⟩
      else .ok (output ++ rule.replacement.intercalate pieces) := by
  induction pieces generalizing count output rest with
  | nil => exact absurd rfl cut.pieces_ne_nil
  | cons piece pieces ih =>
      cases pieces with
      | nil =>
          obtain ⟨rfl, absent⟩ := Text.isCut_singleton_iff.mp cut
          have allowed : ¬ limit.toNat < count.toNat :=
            Nat.not_lt.mpr (UInt64.le_iff_toNat_le.mp within)
          have nowhere := Text.find?_eq_none_iff.mpr absent
          rw [applyCounting]
          split
          · simp [allowed]
          · next found => rw [nowhere] at found; cases found
      | cons next pieces =>
          obtain ⟨behind, rfl, first, cut⟩ :=
            Text.isCut_cons_cons_iff.mp cut
          have here := Text.find?_eq_some_iff.mpr first
          simp only [List.length_cons, Nat.add_sub_cancel] at room ih ⊢
          have counted : (count + 1).toNat = count.toNat + 1 := by
            rw [UInt64.toNat_add, UInt64.toNat_one]
            exact Nat.mod_eq_of_lt (by simp only [UInt64.size] at room; omega)
          rw [applyCounting]
          split
          · next nowhere => rw [here] at nowhere; cases nowhere
          · next position found =>
              rw [here] at found
              cases found
              split
              · next stopped =>
                  rw [UInt64.lt_iff_toNat_lt, counted] at stopped
                  rw [if_pos (by omega)]
              · next allowed =>
                  have within := UInt64.not_lt.mp allowed
                  have behindEq : (piece ++ rule.pattern ++ behind).drop
                      (piece.length + rule.pattern.length) = behind := by
                    rw [← List.length_append, List.drop_left]
                  rw [behindEq, List.append_assoc piece, List.take_left,
                    ih cut within (by omega), counted,
                    List.intercalate_cons_cons]
                  simp only [List.append_assoc, Nat.add_assoc,
                    Nat.add_comm 1]

theorem applyCounting_eq_apply (rule : Rule) (limit : UInt64) {text : Text}
    (fits : Text.byteLength text < UInt64.size) :
    rule.applyCounting limit 0 [] text = rule.apply limit.toNat text := by
  have cut := Text.isCut_piecesAround rule.pattern_ne_nil text
  have patternPos : 1 ≤ Text.byteLength rule.pattern :=
    Nat.le_trans (List.length_pos_iff.mpr rule.pattern_ne_nil)
      (Text.length_le_byteLength rule.pattern)
  -- Each occurrence takes a byte, so there are fewer than the words can count.
  have countsFit := Nat.le_trans (Nat.le_mul_of_pos_right _ patternPos)
    cut.mul_byteLength_le
  rw [applyCounting_of_isCut cut (UInt64.zero_le) (by simp; omega)]
  simp [apply]

/-- A rule replaces what stands between the pieces, if that is not more than
the limit allows. -/
theorem apply_of_isCut (cut : Text.IsCut rule.pattern text pieces)
    (limit : Nat) :
    rule.apply limit text =
      if pieces.length - 1 ≤ limit then
        .ok (rule.replacement.intercalate pieces)
      else .error ⟨limit⟩ := by
  have scanned := Text.isCut_piecesAround rule.pattern_ne_nil text
  rw [apply, scanned.unique cut]
  split <;> split <;> first | rfl | omega

theorem intercalate_of_apply {limit : Nat} {next : Text}
    (cut : Text.IsCut rule.pattern text pieces)
    (applied : rule.apply limit text = .ok next) :
    rule.replacement.intercalate pieces = next := by
  rw [apply_of_isCut cut] at applied
  split at applied
  · exact Except.ok.inj applied
  · cases applied

/-- The occurrences of the pattern are all that a rule exchanges. -/
theorem byteLength_of_apply {limit : Nat} {next : Text}
    (applied : rule.apply limit text = .ok next) :
    Text.byteLength next +
        Text.occurrences rule.pattern text * Text.byteLength rule.pattern =
      Text.byteLength text +
        Text.occurrences rule.pattern text *
          Text.byteLength rule.replacement := by
  have cut := Text.isCut_piecesAround rule.pattern_ne_nil text
  have textLength := Text.byteLength_intercalate rule.pattern
    cut.pieces_ne_nil
  rw [cut.joined] at textLength
  rw [← intercalate_of_apply cut applied,
    Text.byteLength_intercalate rule.replacement cut.pieces_ne_nil,
    textLength, Text.occurrences]
  omega

/-- A text can be cut at the leftmost occurrences of the pattern of a rule in
exactly one way.  They are the occurrences that are counted, and those that
the rule replaces, unless there are more than the limit allows.  Counting them
one by one in words of 64 bits comes to the same for every limit that is such
a word. -/
theorem apply_replaces_leftmost (rule : Rule) (text : Text) :
    (∃! pieces, Text.IsCut rule.pattern text pieces) ∧
    ∀ pieces, Text.IsCut rule.pattern text pieces →
      Text.occurrences rule.pattern text = pieces.length - 1 ∧
      (∀ limit, rule.apply limit text =
        if pieces.length - 1 ≤ limit then
          .ok (rule.replacement.intercalate pieces)
        else .error ⟨limit⟩) ∧
      (∀ limit : UInt64, Text.byteLength text < UInt64.size →
        rule.applyCounting limit 0 [] text = rule.apply limit.toNat text) ∧
      (pieces.length - 1) * Text.byteLength rule.pattern ≤
        Text.byteLength text ∧
      ∀ limit next, rule.apply limit text = .ok next →
        Text.byteLength next =
          Text.byteLength text -
              (pieces.length - 1) * Text.byteLength rule.pattern +
            (pieces.length - 1) * Text.byteLength rule.replacement := by
  have scanned := Text.isCut_piecesAround rule.pattern_ne_nil text
  refine ⟨⟨_, scanned, fun others cut => cut.unique scanned⟩, ?_⟩
  intro pieces cut
  have counted : Text.occurrences rule.pattern text = pieces.length - 1 := by
    rw [Text.occurrences, scanned.unique cut]
  refine ⟨counted, apply_of_isCut cut, ?_, cut.mul_byteLength_le, ?_⟩
  · intro limit fits
    exact applyCounting_eq_apply rule limit fits
  · intro limit next replaced
    have exchanged := byteLength_of_apply replaced
    have room := cut.mul_byteLength_le
    rw [counted] at exchanged
    omega

/-- A rule whose pattern overlaps itself and comes back in its
replacement. -/
def overlapping : Rule :=
  ⟨['y', 'y'], ['x', 'y', 'y'], by decide, by decide, by decide⟩

/-- Five marks are cut at two pairs, which leaves one of them. -/
theorem apply_replaces_leftmost_overlapping :
    let text : Text := ['y', 'y', 'y', 'y', 'y']
    Text.IsCut overlapping.pattern text [[], [], ['y']] ∧
      Text.occurrences overlapping.pattern text = 2 ∧
      overlapping.apply 2 text = .ok ['x', 'y', 'y', 'x', 'y', 'y', 'y'] ∧
      overlapping.apply 1 text = .error ⟨1⟩ ∧
      overlapping.applyCounting 18446744073709551615 0 [] text =
        .ok ['x', 'y', 'y', 'x', 'y', 'y', 'y'] := by
  intro text
  have cut : Text.IsCut overlapping.pattern text [[], [], ['y']] :=
    Text.isCut_piecesAround overlapping.pattern_ne_nil text
  obtain ⟨-, facts⟩ := apply_replaces_leftmost overlapping text
  obtain ⟨counted, applied, counting, -, -⟩ := facts _ cut
  have fits : Text.byteLength text < UInt64.size := by decide
  refine ⟨cut, counted, applied 2, applied 1, ?_⟩
  rw [counting _ fits, applied]
  rfl

end Rule

end TurtleSystems
