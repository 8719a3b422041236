import Mathlib.Data.List.TakeDrop
import TurtleSystems.Proofs.Text
import TurtleSystems.Reader

/-!
# What readers do with a text

Whether a reader reads depends on the text in front of it alone, and so does
what it leaves; only the numbers in a located part depend on the offset.  So a
reader is described by two statements about texts: that it fails on a text,
and that it takes a good part off a text and leaves another one.
-/

namespace TurtleSystems.Reader

variable {α β : Type}

/-- A reader fails on a text, wherever the text stands. -/
def Fails (reader : Reader α) (text : Text) : Prop :=
  ∀ offset, (reader ⟨text, offset⟩).result = none

/-- A reader reads a good part off a text and leaves `left`, wherever the text
stands. -/
def Reads (reader : Reader α) (text : Text) (good : α → Prop)
    (left : Text) : Prop :=
  ∀ offset, ∃ value stop,
    (reader ⟨text, offset⟩).result = some (value, ⟨left, stop⟩) ∧ good value

/-- A reader reads the good parts of a text one after the other and then
fails.  Every part takes something off. -/
inductive Repeats (reader : Reader α) :
    Text → (List α → Prop) → Text → Prop where
  | stop {text : Text} {good : List α → Prop} (fails : reader.Fails text)
      (nilGood : good []) : Repeats reader text good text
  | next {text middle left : Text} {first : α → Prop}
      {others good : List α → Prop} (reads : reader.Reads text first middle)
      (shorter : middle.length < text.length)
      (repeats : Repeats reader middle others left)
      (consGood : ∀ value values, first value → others values →
        good (value :: values)) : Repeats reader text good left

variable {reader : Reader α} {text middle left : Text} {good first : α → Prop}

theorem Reads.weaken {better : α → Prop}
    (reads : reader.Reads text better left)
    (weaker : ∀ value, better value → good value) :
    reader.Reads text good left := by
  intro offset
  obtain ⟨value, stop, result, holds⟩ := reads offset
  exact ⟨value, stop, result, weaker value holds⟩

/-- A reader that reads a text in some way does not read it in another. -/
theorem Reads.of_result (reads : reader.Reads text good left) {place : Place}
    (textEq : place.rest = text) {value : α} {after : Place}
    (result : (reader place).result = some (value, after)) :
    after.rest = left ∧ good value := by
  obtain ⟨rest, offset⟩ := place
  subst textEq
  obtain ⟨found, stop, foundResult, holds⟩ := reads offset
  rw [result] at foundResult
  cases foundResult
  exact ⟨rfl, holds⟩

theorem Fails.no_result (fails : reader.Fails text) {place : Place}
    (textEq : place.rest = text) : (reader place).result = none := by
  subst textEq
  exact fails place.offset

/-- What is read off a whole text. -/
theorem Reads.read?_eq {value : α}
    (reads : reader.Reads text (· = value) left) :
    reader.read? text = some value := by
  obtain ⟨found, stop, result, rfl⟩ := reads 0
  rw [read?, Place.first, result]
  rfl

section Sequence

variable {next : α → Reader β} {last : β → Prop}

theorem result_bind (reader : Reader α) (next : α → Reader β)
    (place : Place) :
    ((reader >>= next) place).result =
      match (reader place).result with
      | none => none
      | some (value, after) => (next value after).result := by
  simp only [bind, andThen]
  cases (reader place).result <;> rfl

theorem result_bind_eq_some {place : Place} {found : β × Place} :
    ((reader >>= next) place).result = some found ↔
      ∃ value after, (reader place).result = some (value, after) ∧
        (next value after).result = some found := by
  rw [result_bind]
  cases (reader place).result with
  | none => simp
  | some read =>
      obtain ⟨value, after⟩ := read
      simp

theorem reads_pure {value : α} (holds : good value) :
    (pure value : Reader α).Reads text good text :=
  fun offset => ⟨value, offset, rfl, holds⟩

theorem Reads.bind (reads : reader.Reads text first middle)
    (others : ∀ value, first value → (next value).Reads middle last left) :
    (reader >>= next).Reads text last left := by
  intro offset
  obtain ⟨value, after, result, holds⟩ := reads offset
  obtain ⟨final, stop, lastResult, lastHolds⟩ := others value holds after
  refine ⟨final, stop, ?_, lastHolds⟩
  rw [result_bind, result]
  exact lastResult

theorem Fails.bind (fails : reader.Fails text) :
    (reader >>= next).Fails text := by
  intro offset
  rw [result_bind, fails offset]

theorem Reads.bind_fails (reads : reader.Reads text first middle)
    (fails : ∀ value, first value → (next value).Fails middle) :
    (reader >>= next).Fails text := by
  intro offset
  obtain ⟨value, after, result, holds⟩ := reads offset
  rw [result_bind, result]
  exact fails value holds after

end Sequence

section Choice

variable {second : Reader α}

theorem Reads.either (reads : reader.Reads text good left) :
    (Reader.either reader second).Reads text good left := by
  intro offset
  obtain ⟨value, stop, result, holds⟩ := reads offset
  refine ⟨value, stop, ?_, holds⟩
  simp only [Reader.either, result]

theorem Fails.either (fails : reader.Fails text)
    (reads : second.Reads text good left) :
    (Reader.either reader second).Reads text good left := by
  intro offset
  obtain ⟨value, stop, result, holds⟩ := reads offset
  refine ⟨value, stop, ?_, holds⟩
  simp only [Reader.either, fails offset, result]

theorem Fails.either_fails (fails : reader.Fails text)
    (secondFails : second.Fails text) :
    (Reader.either reader second).Fails text := by
  intro offset
  simp only [Reader.either, fails offset, secondFails offset]

theorem result_of_either {place : Place} {found : α × Place}
    (result : (Reader.either reader second place).result = some found) :
    (reader place).result = some found ∨
      (second place).result = some found := by
  simp only [Reader.either] at result
  split at result
  · exact .inl result
  · exact .inr result

theorem result_map (change : α → β) (reader : Reader α) (place : Place) :
    ((change <$> reader) place).result =
      (reader place).result.map fun (value, after) =>
        (change value, after) := by
  have mapped : change <$> reader =
      reader >>= fun value => pure (change value) := rfl
  rw [mapped, result_bind]
  cases (reader place).result <;> rfl

theorem Reads.optional (reads : reader.Reads text good left) :
    (optional reader).Reads text (∃ value ∈ ·, good value) left := by
  refine .either fun offset => ?_
  obtain ⟨value, stop, result, holds⟩ := reads offset
  exact ⟨some value, stop, by rw [result_map, result]; rfl, value, rfl, holds⟩

theorem result_of_optional {place after : Place} {found : Option α}
    (result : (optional reader place).result = some (found, after)) :
    (∃ value, found = some value ∧
      (reader place).result = some (value, after)) ∨
    (found = none ∧ after = place) := by
  rcases result_of_either result with read | nothing
  · rw [result_map] at read
    obtain ⟨⟨value, middle⟩, read, same⟩ := Option.map_eq_some_iff.mp read
    cases same
    exact .inl ⟨value, rfl, read⟩
  · cases nothing
    exact .inr ⟨rfl, rfl⟩

theorem Fails.optional (fails : reader.Fails text) :
    (optional reader).Reads text (· = none) text := by
  have mappedFails : (some <$> reader).Fails text := fun offset => by
    rw [result_map, fails offset]
    rfl
  exact mappedFails.either (reads_pure rfl)

end Choice

section Marks

theorem Reads.named (reads : reader.Reads text good left) :
    (named reader).Reads text good left := by
  intro offset
  obtain ⟨value, stop, result, holds⟩ := reads offset
  refine ⟨value, stop, ?_, holds⟩
  simp only [Reader.named, result]

theorem Fails.named (fails : reader.Fails text) :
    (named reader).Fails text := by
  intro offset
  simp only [Reader.named, fails offset]

theorem result_of_named {place : Place} {found : α × Place}
    (result : (named reader place).result = some found) :
    (reader place).result = some found := by
  simp only [Reader.named] at result
  split at result
  · exact result
  · cases result

theorem Reads.located (reads : reader.Reads text good left) :
    (located reader).Reads text (good ·.value) left := by
  intro offset
  obtain ⟨value, stop, result, holds⟩ := reads offset
  refine ⟨⟨value, offset, stop⟩, stop, ?_, holds⟩
  simp only [Reader.located, result, Option.map_some]

theorem Fails.located (fails : reader.Fails text) :
    (located reader).Fails text := by
  intro offset
  simp only [Reader.located, fails offset, Option.map_none]

theorem Reads.ahead (reads : reader.Reads text good left) :
    (ahead reader).Reads text (fun _ => True) text := by
  intro offset
  obtain ⟨value, stop, result, holds⟩ := reads offset
  refine ⟨(), offset, ?_, trivial⟩
  simp only [Reader.ahead, result, Option.map_some]

theorem Fails.ahead (fails : reader.Fails text) :
    (ahead reader).Fails text := by
  intro offset
  simp only [Reader.ahead, fails offset, Option.map_none]

end Marks

section Characters

variable {test : Char → Bool}

theorem reads_literal (beginning left : Text) :
    (literal beginning).Reads (beginning ++ left) (fun _ => True) left := by
  intro offset
  have begins : beginning.isPrefixOf (beginning ++ left) = true :=
    List.isPrefixOf_iff_prefix.mpr (List.prefix_append _ _)
  refine ⟨(), offset + beginning.length, ?_, trivial⟩
  simp only [literal, begins, if_true, List.drop_left]

theorem fails_literal {beginning : Text} (other : ¬ beginning <+: text) :
    (literal beginning).Fails text := by
  intro offset
  have notBegins : beginning.isPrefixOf text ≠ true := by
    rwa [Ne, List.isPrefixOf_iff_prefix]
  simp only [literal, if_neg notBegins]

theorem reads_word {taken : Text} (takenNeNil : taken ≠ [])
    (pass : ∀ character ∈ taken, test character = true)
    (stops : left.Stops test) :
    (word test).Reads (taken ++ left) (· = taken) left := by
  intro offset
  refine ⟨taken, offset + taken.length, ?_, rfl⟩
  simp only [word, List.span_eq_takeWhile_dropWhile,
    Text.takeWhile_append_of_stops pass stops,
    Text.dropWhile_append_of_stops pass stops, List.isEmpty_iff,
    if_neg takenNeNil]

theorem fails_word (stops : text.Stops test) : (word test).Fails text := by
  intro offset
  simp only [word, List.span_eq_takeWhile_dropWhile,
    Text.takeWhile_of_stops stops, List.isEmpty_nil, if_true]

theorem passing_eq (test : Char → Bool) (text : Text) (offset : Nat) :
    (Place.passing test text offset).rest = text.dropWhile test := by
  induction text generalizing offset with
  | nil => rfl
  | cons character text ih =>
      rw [Place.passing, List.dropWhile_cons]
      split
      · exact ih (offset + 1)
      · rfl

theorem passing_of_stops (stops : text.Stops test) (offset : Nat) :
    Place.passing test text offset = ⟨text, offset⟩ := by
  cases text with
  | nil => rfl
  | cons character text =>
      rw [Place.passing, if_neg]
      simpa using stops

theorem rest_of_literal {beginning : Text} {place after : Place} {mark : Unit}
    (result : (literal beginning place).result = some (mark, after)) :
    place.rest = beginning ++ after.rest := by
  by_cases begins : beginning <+: place.rest
  · obtain ⟨left, textEq⟩ := begins
    rw [← textEq]
    rw [((reads_literal beginning left).of_result textEq.symm result).1]
  · obtain ⟨rest, offset⟩ := place
    rw [fails_literal begins offset] at result
    cases result

theorem rest_of_word {place after : Place} {taken : Text}
    (result : (word test place).result = some (taken, after)) :
    place.rest = taken ++ after.rest ∧ taken ≠ [] ∧
      ∀ character ∈ taken, test character = true := by
  simp only [word, List.span_eq_takeWhile_dropWhile] at result
  split at result
  · cases result
  · next something =>
      cases result
      exact ⟨List.takeWhile_append_dropWhile.symm, by simpa using something,
        fun _ => Text.passes_of_mem_takeWhile⟩

theorem reads_skipping (test : Char → Bool) (text : Text) :
    (skipping test).Reads text (fun _ => True) (text.dropWhile test) := by
  intro offset
  refine ⟨(), (Place.passing test text offset).offset, ?_, trivial⟩
  simp only [skipping, ← passing_eq test text offset]

theorem reads_atEnd : atEnd.Reads [] (fun _ => True) [] :=
  fun offset => ⟨(), offset, rfl, trivial⟩

theorem rest_of_skipping {place after : Place} {mark : Unit}
    (result : (skipping test place).result = some (mark, after)) :
    ∃ skipped, place.rest = skipped ++ after.rest ∧
      ∀ character ∈ skipped, test character = true := by
  obtain ⟨leftEq, -⟩ := (reads_skipping test place.rest).of_result rfl result
  exact ⟨place.rest.takeWhile test,
    by rw [leftEq, List.takeWhile_append_dropWhile],
    fun _ => Text.passes_of_mem_takeWhile⟩

theorem rest_of_atEnd {place after : Place} {mark : Unit}
    (result : (atEnd place).result = some (mark, after)) :
    place.rest = [] := by
  simp only [atEnd, List.isEmpty_iff] at result
  split at result
  · next nothing => exact nothing
  · cases result

theorem fails_atEnd (textNeNil : text ≠ []) : atEnd.Fails text := by
  intro offset
  simp [atEnd, textNeNil]

end Characters

section Repetition

theorem Fails.repeats (fails : reader.Fails text) :
    reader.Repeats text (fun _ => True) text :=
  .stop fails trivial

theorem Reads.repeats (reads : reader.Reads text (fun _ => True) middle)
    (shorter : middle.length < text.length)
    (repeats : reader.Repeats middle (fun _ => True) left) :
    reader.Repeats text (fun _ => True) left :=
  .next reads shorter repeats fun _ _ _ _ => trivial

/-- With rounds enough the rounds of a repetition read all that repeats. -/
theorem Repeats.manyFrom {all : List α → Prop}
    (repeats : reader.Repeats text all left) {bound : Text}
    (enough : text.length < bound.length) (found : List α)
    (furthest offset : Nat) :
    ∃ values stop, (manyFrom reader bound found furthest
      ⟨text, offset⟩).result =
        some (found.reverse ++ values, ⟨left, stop⟩) ∧ all values := by
  induction repeats generalizing bound found furthest offset with
  | stop fails nilGood =>
      refine ⟨[], offset, ?_, nilGood⟩
      cases bound with
      | nil => simp at enough
      | cons mark bound =>
          simp only [Reader.manyFrom, fails offset, List.append_nil]
  | next reads shorter _ consGood ih =>
      obtain ⟨value, after, result, valueGood⟩ := reads offset
      cases bound with
      | nil => simp at enough
      | cons mark bound =>
          have enoughLeft := Nat.lt_of_lt_of_le shorter
            (Nat.le_of_lt_succ enough)
          obtain ⟨values, stop, restResult, valuesGood⟩ :=
            ih enoughLeft (value :: found)
              (max furthest (_ : Attempt α).furthest) after
          refine ⟨value :: values, stop, ?_,
            consGood value values valueGood valuesGood⟩
          simp only [Reader.manyFrom, result]
          rw [restResult]
          simp

theorem Fails.result_many (fails : reader.Fails text) (offset : Nat) :
    (many reader ⟨text, offset⟩).result = some ([], ⟨text, offset⟩) := by
  simp only [Reader.many, manyFrom, fails offset, List.reverse_nil]

theorem Repeats.many {all : List α → Prop}
    (repeats : reader.Repeats text all left) :
    (many reader).Reads text all left := by
  intro offset
  have enough : text.length < ('\n' :: text).length := by simp
  exact repeats.manyFrom enough [] 0 offset

end Repetition

end TurtleSystems.Reader
