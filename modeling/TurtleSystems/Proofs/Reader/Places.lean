import TurtleSystems.Proofs.Reader

/-!
# Where readers read

A reader moves on by as many characters as it takes off the text, so the
offset of a place and the length of the text behind it always come to the
same.  A repetition goes from place to place like this, part by part.
-/

namespace TurtleSystems

/-- The number of characters on both sides of a place. -/
def Place.total (place : Place) : Nat :=
  place.offset + place.rest.length

namespace Reader

variable {α β : Type}

/-- A reader leaves as many characters in front of a place as it takes off the
text behind it. -/
def Keeps (reader : Reader α) : Prop :=
  ∀ place value after, (reader place).result = some (value, after) →
    after.total = place.total

/-- A reader reads some parts from one place on to another, one after the
other. -/
inductive Follows (reader : Reader α) : Place → List α → Place → Prop where
  | stop (place : Place) : Follows reader place [] place
  | next {place middle after : Place} {value : α} {values : List α}
      (result : (reader place).result = some (value, middle))
      (follows : Follows reader middle values after) :
      Follows reader place (value :: values) after

variable {reader second : Reader α}

section Sequence

theorem keeps_pure (value : α) : (pure value : Reader α).Keeps := by
  rintro place _ _ ⟨⟩
  rfl

theorem Keeps.bind {next : α → Reader β} (keeps : reader.Keeps)
    (nextKeeps : ∀ value, (next value).Keeps) :
    (reader >>= next).Keeps := by
  intro place value after result
  obtain ⟨first, middle, firstResult, nextResult⟩ :=
    result_bind_eq_some.mp result
  rw [nextKeeps first middle value after nextResult,
    keeps place first middle firstResult]

theorem Keeps.either (keeps : reader.Keeps) (secondKeeps : second.Keeps) :
    (Reader.either reader second).Keeps := by
  intro place value after result
  rcases result_of_either result with result | result
  · exact keeps place value after result
  · exact secondKeeps place value after result

end Sequence

section Marks

theorem Keeps.named (keeps : reader.Keeps) : (named reader).Keeps :=
  fun place value after result =>
    keeps place value after (result_of_named result)

/-- A located part starts where its reader started. -/
theorem result_of_located {place after : Place} {part : Located α}
    (result : (located reader place).result = some (part, after)) :
    (reader place).result = some (part.value, after) ∧
      part.start = place.offset := by
  obtain ⟨⟨value, middle⟩, read, same⟩ := Option.map_eq_some_iff.mp result
  cases same
  exact ⟨read, rfl⟩

theorem Keeps.located (keeps : reader.Keeps) : (located reader).Keeps :=
  fun place part after result =>
    keeps place part.value after (result_of_located result).1

theorem keeps_ahead (reader : Reader α) : (ahead reader).Keeps := by
  intro place value after result
  obtain ⟨_, -, same⟩ := Option.map_eq_some_iff.mp result
  cases same
  rfl

end Marks

section Characters

variable {test : Char → Bool}

theorem keeps_literal (beginning : Text) : (literal beginning).Keeps := by
  intro place value after result
  have restEq := rest_of_literal result
  unfold literal at result
  split at result
  · cases result
    have lengthEq := congrArg List.length restEq
    rw [List.length_append] at lengthEq
    rw [Place.total, Place.total, lengthEq]
    exact Nat.add_assoc _ _ _
  · cases result

theorem keeps_word (test : Char → Bool) : (word test).Keeps := by
  intro place value after result
  obtain ⟨restEq, -⟩ := rest_of_word result
  unfold word at result
  split at result
  split at result
  · cases result
  · cases result
    rw [Place.total, Place.total, restEq, List.length_append]
    exact Nat.add_assoc _ _ _

theorem total_passing (test : Char → Bool) (text : Text) (offset : Nat) :
    (Place.passing test text offset).total = offset + text.length := by
  induction text generalizing offset with
  | nil => rfl
  | cons character text ih =>
      rw [Place.passing]
      split
      · rw [ih, List.length_cons]
        omega
      · rfl

theorem keeps_skipping (test : Char → Bool) : (skipping test).Keeps := by
  rintro place _ _ ⟨⟩
  exact total_passing test place.rest place.offset

end Characters

section Repetition

variable {place after : Place} {values : List α}

/-- What the rounds of a repetition read follows what was found before. -/
theorem follows_of_manyFrom {bound : Text} {found : List α} {furthest : Nat}
    (result : (manyFrom reader bound found furthest place).result =
      some (values, after)) :
    ∃ others, values = found.reverse ++ others ∧
      reader.Follows place others after := by
  induction bound generalizing found furthest place with
  | nil =>
      cases result
      exact ⟨[], by simp, .stop _⟩
  | cons mark bound ih =>
      simp only [manyFrom] at result
      split at result
      · cases result
        exact ⟨[], by simp, .stop _⟩
      · next value middle read =>
          obtain ⟨others, rfl, follows⟩ := ih result
          exact ⟨value :: others, by simp, .next read follows⟩

theorem follows_of_many
    (result : (many reader place).result = some (values, after)) :
    reader.Follows place values after := by
  obtain ⟨others, rfl, follows⟩ := follows_of_manyFrom result
  exact follows

theorem Follows.total_eq (follows : reader.Follows place values after)
    (keeps : reader.Keeps) : after.total = place.total := by
  induction follows with
  | stop => rfl
  | next result _ ih => rw [ih, keeps _ _ _ result]

theorem Keeps.many (keeps : reader.Keeps) : (many reader).Keeps :=
  fun _ _ _ result => (follows_of_many result).total_eq keeps

end Repetition

end Reader

end TurtleSystems
