import TurtleSystems.Proofs.Json.Numbers

/-!
# Reading what was written

Both ways of writing a JSON value, without blanks and over several lines, are
read in the same way: every string and every integer comes back, and every
floating-point number as far as its digits allow.
-/

namespace TurtleSystems.Json

open Numeral

section Strings

variable {read text : Text} {character : Char}

theorem controlEscape_eq {code : Nat} (control : code < 0x20) :
    controlEscape (Char.ofNat code) =
      ['\\', 'u', '0', '0', Nat.digitChar (code / 16),
        Nat.digitChar (code % 16)] ∧
    codeUnit? '0' '0' (Nat.digitChar (code / 16))
      (Nat.digitChar (code % 16)) = some code := by
  revert code
  decide

/-- One character is read back from its escape. -/
theorem readString_escapeCharacter :
    readString ⟨read, none, false⟩ (escapeCharacter character ++ text) =
      readString ⟨character :: read, none, false⟩ text := by
  unfold escapeCharacter
  split
  -- Seven characters have short escapes, which are read by their own rules.
  iterate 7 rfl
  next noQuote noBackslash _ _ _ _ _ =>
    split
    · next control =>
        obtain ⟨escapeEq, unitEq⟩ := controlEscape_eq control
        rw [Char.ofNat_toNat] at escapeEq
        have pushed : StringState.pushUnit ⟨read, none, false⟩
            character.toNat = ⟨character :: read, none, false⟩ := by
          have noLeading : isLeading character.toNat = false := by
            simp [isLeading]
            omega
          have noTrailing : isTrailing character.toNat = false := by
            simp [isTrailing]
            omega
          simp [StringState.pushUnit, noLeading, noTrailing,
            StringState.push, StringState.settle]
        rw [escapeEq]
        simp [readString, unitEq, pushed]
    · next noControl =>
        have plain : ¬ (character.toNat < 0x20 ∨ character = '\\') := by
          rintro (control | rfl)
          · exact noControl control
          · exact noBackslash rfl
        rw [List.singleton_append, readString, if_neg plain]
        · rfl
        · exact noQuote
        · exact fun _ _ _ _ _ same _ => noBackslash same
        · exact fun _ _ same _ => noBackslash same

theorem readString_content (read content rest : Text) :
    readString ⟨read, none, false⟩
        (content.flatMap escapeCharacter ++ '"' :: rest) =
      some (.string (read.reverse ++ content), rest) := by
  induction content generalizing read with
  | nil => simp [readString, StringState.finish, StringState.settle]
  | cons character content ih =>
      rw [List.flatMap_cons, List.append_assoc, readString_escapeCharacter, ih]
      simp

end Strings

section Spaces

variable {blanks text : Text}

/-- Only blanks that may stand between the parts of a JSON text. -/
def AreSpaces (blanks : Text) : Prop :=
  ∀ character ∈ blanks, isSpace character = true

theorem areSpaces_nil : AreSpaces [] :=
  fun _ member => nomatch member

theorem areSpaces_newLine (level : Nat) : AreSpaces (Value.newLine level) := by
  intro character member
  rcases List.mem_cons.mp member with rfl | member
  · decide
  · rw [List.eq_of_mem_replicate member]
    decide

theorem skipSpace_append (spaces : AreSpaces blanks) (text : Text) :
    skipSpace (blanks ++ text) = skipSpace text :=
  List.dropWhile_append_of_pos spaces

theorem skipSpace_cons {character : Char}
    (visible : isSpace character = false) (text : Text) :
    skipSpace (character :: text) = character :: text :=
  Text.dropWhile_of_stops (Text.stops_cons_iff.mpr visible)

theorem skipSpace_skipSpace (text : Text) :
    skipSpace (skipSpace text) = skipSpace text :=
  Text.dropWhile_of_stops (Text.stops_dropWhile _ text)

theorem ends_append (spaces : AreSpaces blanks) (ends : Ends text) :
    Ends (blanks ++ text) := by
  refine Text.Stops.append (fun character first => ?_) ends
  have space := spaces character (List.mem_of_mem_head? first)
  simp only [isSpace, Bool.or_eq_true, beq_iff_eq] at space
  rcases space with ((rfl | rfl) | rfl) | rfl <;> decide

theorem readValue_skipSpace (fuel : Nat) (text : Text) :
    readValue fuel (skipSpace text) = readValue fuel text := by
  cases fuel with
  | zero => rfl
  | succ fuel => simp only [readValue, skipSpace_skipSpace]

theorem readValue_append (spaces : AreSpaces blanks) (fuel : Nat)
    (text : Text) : readValue fuel (blanks ++ text) = readValue fuel text := by
  rw [← readValue_skipSpace, skipSpace_append spaces, readValue_skipSpace]

end Spaces

section Values

variable {text : Text} {value : Value}

/-- A text is read as a value, whatever ends it. -/
def ReadsAs (text : Text) (value : Value) : Prop :=
  ∀ fuel rest, 4 * text.length ≤ fuel → Ends rest →
    readValue fuel (text ++ rest) = (value, some rest)

/-- It is enough to look at a reader with fuel. -/
theorem readsAs_of_succ (neNil : text ≠ [])
    (reads : ∀ fuel rest, 4 * text.length ≤ fuel + 1 → Ends rest →
      readValue (fuel + 1) (text ++ rest) = (value, some rest)) :
    ReadsAs text value := by
  intro fuel rest enough ends
  have long := List.length_pos_iff.mpr neNil
  obtain ⟨fuel, rfl⟩ := Nat.exists_eq_add_of_lt (show 0 < fuel by omega)
  rw [Nat.zero_add] at enough ⊢
  exact reads fuel rest enough ends

theorem readsAs_null : ReadsAs (Value.compact .null) .null :=
  readsAs_of_succ (by decide) fun _ _ _ _ => rfl

theorem readsAs_boolean (content : Bool) :
    ReadsAs (Value.compact (.boolean content)) (.boolean content) := by
  cases content with
  | false => exact readsAs_of_succ (by decide) fun _ _ _ _ => rfl
  | true => exact readsAs_of_succ (by decide) fun _ _ _ _ => rfl

theorem readsAs_string (content : Text) :
    ReadsAs (stringText content) (.string content) := by
  refine readsAs_of_succ (List.cons_ne_nil _ _) fun fuel rest _ _ => ?_
  have read := readString_content [] content rest
  have textEq : stringText content ++ rest =
      '"' :: (content.flatMap escapeCharacter ++ '"' :: rest) := by
    simp [stringText]
  rw [textEq, readValue, skipSpace_cons (by decide)]
  simp only
  rw [StringState.empty, read]
  rfl

/-- A numeral begins with a sign or a digit. -/
theorem head_of_readNumber {rest : Text}
    (read : readNumber text = (value, some rest)) :
    ∃ first others, text = first :: others ∧
      (first = '-' ∨ Decimal.isDigit first = true) := by
  cases text with
  | nil => cases read
  | cons first others =>
      refine ⟨first, others, rfl, or_iff_not_imp_left.mpr fun noSign => ?_⟩
      by_contra noDigit
      have nothing : readNumber (first :: others) = (.malformed, none) := by
        simp [readNumber, Numeral.read?, readWhole, noSign, noDigit]
      rw [nothing] at read
      cases read

theorem readValue_of_readNumber {rest : Text} (fuel : Nat)
    (read : readNumber text = (value, some rest)) :
    readValue (fuel + 1) text = readNumber text := by
  obtain ⟨first, others, rfl, begins⟩ := head_of_readNumber read
  have visible : isSpace first = false := by
    rw [Bool.eq_false_iff]
    intro space
    simp only [isSpace, Bool.or_eq_true, beq_iff_eq] at space
    rcases space with ((rfl | rfl) | rfl) | rfl <;> simp +decide at begins
  rw [readValue, skipSpace_cons visible]
  split
  -- The seven other kinds of values begin in another way.
  iterate 7 next cut => cases cut <;> simp +decide at begins
  rfl

theorem readsAs_of_readNumber (neNil : text ≠ [])
    (reads : ∀ rest, Ends rest →
      readNumber (text ++ rest) = (value, some rest)) :
    ReadsAs text value := by
  refine readsAs_of_succ neNil fun fuel rest _ ends => ?_
  rw [readValue_of_readNumber fuel (reads rest ends), reads rest ends]

theorem readsAs_integer {number : Int} (fits : FitsWord number) :
    ReadsAs (integerText number) (.number (.integer number)) := by
  refine readsAs_of_readNumber ?_ fun _ ends => readNumber_integer fits ends
  unfold integerText
  split
  · exact List.cons_ne_nil _ _
  · exact Decimal.digits_ne_nil _

theorem readsAs_floating (number : Float) :
    ReadsAs (numberFormat.write number) (readBack number) := by
  cases finite : number.isFinite with
  | false =>
      rw [write_of_not_isFinite finite, readBack_of_not_isFinite finite]
      exact readsAs_null
  | true =>
      refine readsAs_of_readNumber ?_ fun _ ends =>
        readNumber_floating finite ends
      intro empty
      have nothing : readNumber [] = (.malformed, none) := rfl
      have read := readNumber_floating finite (Text.stops_nil _)
      simp [empty, nothing] at read

/-- Parts between brackets, each behind a comma and its blanks but for the
first one, and blanks in front of the closing bracket. -/
def bracketed (opening closing : Char) (before after : Text) :
    List Text → Text
  | [] => [opening, closing]
  | first :: parts =>
    opening :: (before ++ (first ++
      ((parts.flatMap fun part => ',' :: (before ++ part)) ++
        (after ++ [closing]))))

theorem intercalate_cons_eq_append_flatMap (separator first : Text)
    (parts : List Text) :
    separator.intercalate (first :: parts) =
      first ++ parts.flatMap (separator ++ ·) := by
  induction parts generalizing first with
  | nil => simp
  | cons second parts ih => simp [List.intercalate_cons_cons, ih]

theorem bracketed_eq_of_compact (opening closing : Char)
    (parts : List Text) :
    opening :: ([','].intercalate parts ++ [closing]) =
      bracketed opening closing [] [] parts := by
  cases parts with
  | nil => rfl
  | cons first parts =>
      simp [bracketed, intercalate_cons_eq_append_flatMap]

theorem bracketed_eq_enclose (opening closing : Char) (level : Nat)
    (parts : List Text) :
    Value.enclose opening closing level parts =
      bracketed opening closing (Value.newLine (level + 1))
        (Value.newLine level) parts := by
  cases parts with
  | nil => rfl
  | cons first parts =>
      simp [Value.enclose, bracketed, intercalate_cons_eq_append_flatMap]

/-- What stands behind an item of an array or a member of an object is read by
the loop over the others, up to the closing bracket. -/
structure Continues {α : Type} (read : Nat → Text → α × Option Text)
    (text : Text) (result : α) : Prop where
  ends : ∀ rest, Ends (text ++ rest)
  reads : ∀ fuel rest, 4 * text.length ≤ fuel →
    read fuel (text ++ rest) = (result, some rest)

theorem skipSpace_ne_of_readValue {fuel : Nat} {rest others : Text}
    (read : readValue fuel text = (value, some rest)) :
    skipSpace text ≠ ']' :: others := by
  intro closing
  cases fuel with
  | zero => cases read
  | succ fuel =>
      have nothing : readNumber (']' :: others) = (.malformed, none) := by
        simp [readNumber, Numeral.read?, readWhole, Decimal.isDigit]
      rw [readValue, closing] at read
      simp [nothing] at read

section Arrays

variable {write : Value → Text} {back : Value → Value}
  {before after : Text} {items : List Value}

theorem readItems_first {fuel : Nat}
    (opened : ∀ others, skipSpace text ≠ ']' :: others) :
    readItems (fuel + 1) true text = readItem fuel text := by
  have skipped : readItem fuel (skipSpace text) = readItem fuel text := by
    cases fuel with
    | zero => rfl
    | succ fuel => simp only [readItem, readValue_skipSpace]
  unfold readItems
  split
  · next closing => exact absurd closing (opened _)
  · contradiction
  · exact skipped
  · contradiction

theorem readItem_append {part tail : Text} (fuel : Nat) (rest : Text)
    (spaces : AreSpaces before) (reads : ReadsAs part value)
    (continues : Continues (readItems · false) tail items)
    (enough : 4 * (part.length + tail.length) < fuel) :
    readItem fuel (before ++ (part ++ (tail ++ rest))) =
      (value :: items, some rest) := by
  obtain ⟨fuel, rfl⟩ := Nat.exists_eq_add_of_lt enough
  have itemRead := reads (4 * (part.length + tail.length) + fuel)
    (tail ++ rest) (by omega) (continues.ends rest)
  have readOthers := continues.reads
    (4 * (part.length + tail.length) + fuel) rest (by omega)
  simp only [readItem, readValue_append spaces, itemRead, readOthers]

/-- The loop over the items behind the first one. -/
theorem continues_items (beforeSpaces : AreSpaces before)
    (afterSpaces : AreSpaces after)
    (each : ∀ item ∈ items, ReadsAs (write item) (back item)) :
    Continues (readItems · false)
      (((items.map write).flatMap fun part => ',' :: (before ++ part)) ++
        (after ++ [']']))
      (items.map back) := by
  induction items with
  | nil =>
      refine ⟨fun rest => ?_, fun fuel rest enough => ?_⟩
      · rw [List.map_nil, List.flatMap_nil, List.nil_append,
          List.append_assoc]
        exact ends_append afterSpaces (Text.stops_cons_iff.mpr (by decide))
      · obtain ⟨fuel, rfl⟩ := Nat.exists_eq_add_of_lt
          (show 0 < fuel by simp at enough; omega)
        simp only [List.map_nil, List.flatMap_nil, List.nil_append,
          List.append_assoc, List.singleton_append, readItems,
          skipSpace_append afterSpaces]
        rw [skipSpace_cons (by decide)]
        rfl
  | cons item items ih =>
      obtain ⟨itemReads, each⟩ := List.forall_mem_cons.mp each
      refine ⟨fun rest => Text.stops_cons_iff.mpr (by decide),
        fun fuel rest enough => ?_⟩
      simp only [List.map_cons, List.flatMap_cons, List.append_assoc,
        List.cons_append, List.length_cons, List.length_append] at enough ⊢
      obtain ⟨fuel, rfl⟩ := Nat.exists_eq_add_of_lt
        (show 0 < fuel by omega)
      have itemRead := readItem_append (0 + fuel) rest
        beforeSpaces itemReads (ih each) (by
          simp only [List.length_append, List.length_cons]
          omega)
      simp only [List.append_assoc] at itemRead
      simp only [readItems]
      rw [skipSpace_cons (by decide)]
      exact itemRead

theorem readsAs_array (beforeSpaces : AreSpaces before)
    (afterSpaces : AreSpaces after)
    (each : ∀ item ∈ items, ReadsAs (write item) (back item)) :
    ReadsAs (bracketed '[' ']' before after (items.map write))
      (.array (items.map back)) := by
  cases items with
  | nil =>
      refine readsAs_of_succ (List.cons_ne_nil _ _) fun fuel rest enough _ => ?_
      obtain ⟨fuel, rfl⟩ := Nat.exists_eq_add_of_lt
        (show 0 < fuel by simp [bracketed] at enough; omega)
      rfl
  | cons item items =>
      obtain ⟨itemReads, each⟩ := List.forall_mem_cons.mp each
      have others := continues_items beforeSpaces afterSpaces each
      refine readsAs_of_succ (List.cons_ne_nil _ _) fun fuel rest enough _ => ?_
      simp only [List.map_cons, bracketed, List.length_cons,
        List.length_append, List.append_assoc, List.cons_append] at enough ⊢
      obtain ⟨fuel, rfl⟩ := Nat.exists_eq_add_of_lt
        (show 0 < fuel by omega)
      have itemRead := readItem_append (0 + fuel) rest
        beforeSpaces itemReads others (by
          simp only [List.length_append, List.length_cons]
          omega)
      simp only [List.append_assoc, List.cons_append] at itemRead
      rw [readValue, skipSpace_cons (by decide)]
      simp only
      rw [readItems_first, itemRead]
      rw [skipSpace_append beforeSpaces]
      intro closing
      have ends := others.ends rest
      simp only [List.append_assoc, List.cons_append] at ends
      exact skipSpace_ne_of_readValue (itemReads _ _ (Nat.le_refl _) ends)

end Arrays

section Objects

variable {write : Value → Text} {back : Value → Value}
  {before gap after : Text} {fields : List (Text × Value)}

/-- A member of an object with blanks behind its colon. -/
def memberText (gap key part : Text) : Text :=
  stringText key ++ ':' :: (gap ++ part)

theorem readMembers_first (fuel : Nat)
    (quoted : ∃ others, skipSpace text = '"' :: others) :
    readMembers (fuel + 1) true text = readMember fuel text := by
  obtain ⟨others, quoted⟩ := quoted
  have skipped : readMember fuel (skipSpace text) = readMember fuel text := by
    cases fuel with
    | zero => rfl
    | succ fuel => simp only [readMember, skipSpace_skipSpace]
  rw [← skipped, quoted]
  simp only [readMembers, quoted]
  rfl

theorem readMember_append {part tail : Text}
    {members : List (Value × Value)} (fuel : Nat) (key rest : Text)
    (beforeSpaces : AreSpaces before) (gapSpaces : AreSpaces gap)
    (reads : ReadsAs part value)
    (continues : Continues (readMembers · false) tail members)
    (enough : 4 * (part.length + tail.length) < fuel) :
    readMember fuel (before ++ (memberText gap key part ++ (tail ++ rest))) =
      ((.string key, value) :: members, some rest) := by
  obtain ⟨fuel, rfl⟩ := Nat.exists_eq_add_of_lt enough
  have readValue := reads (4 * (part.length + tail.length) + fuel)
    (tail ++ rest) (by omega) (continues.ends rest)
  have readOthers := continues.reads
    (4 * (part.length + tail.length) + fuel) rest (by omega)
  have readKey := readString_content [] key
    (':' :: (gap ++ (part ++ (tail ++ rest))))
  have quoteVisible : isSpace '"' = false := by decide
  have colonVisible : isSpace ':' = false := by decide
  simp only [List.reverse_nil, List.nil_append] at readKey
  simp only [readMember, skipSpace_append beforeSpaces, memberText,
    stringText, List.append_assoc, List.cons_append, List.nil_append,
    skipSpace_cons quoteVisible, StringState.empty, readKey,
    skipSpace_cons colonVisible, readValue_append gapSpaces, readValue,
    readOthers]

/-- The loop over the members behind the first one. -/
theorem continues_members (beforeSpaces : AreSpaces before)
    (gapSpaces : AreSpaces gap) (afterSpaces : AreSpaces after)
    (each : ∀ field ∈ fields, ReadsAs (write field.2) (back field.2)) :
    Continues (readMembers · false)
      (((fields.map fun field => memberText gap field.1 (write field.2)).flatMap
          fun part => ',' :: (before ++ part)) ++ (after ++ ['\x7d']))
      (fields.map fun field => (.string field.1, back field.2)) := by
  induction fields with
  | nil =>
      refine ⟨fun rest => ?_, fun fuel rest enough => ?_⟩
      · rw [List.map_nil, List.flatMap_nil, List.nil_append,
          List.append_assoc]
        exact ends_append afterSpaces (Text.stops_cons_iff.mpr (by decide))
      · obtain ⟨fuel, rfl⟩ := Nat.exists_eq_add_of_lt
          (show 0 < fuel by simp at enough; omega)
        simp only [List.map_nil, List.flatMap_nil, List.nil_append,
          List.append_assoc, List.singleton_append, readMembers,
          skipSpace_append afterSpaces]
        rw [skipSpace_cons (by decide)]
        rfl
  | cons field fields ih =>
      obtain ⟨valueReads, each⟩ := List.forall_mem_cons.mp each
      refine ⟨fun rest => Text.stops_cons_iff.mpr (by decide),
        fun fuel rest enough => ?_⟩
      simp only [List.map_cons, List.flatMap_cons, List.append_assoc,
        List.cons_append, List.length_cons, List.length_append] at enough ⊢
      obtain ⟨fuel, rfl⟩ := Nat.exists_eq_add_of_lt
        (show 0 < fuel by omega)
      have readMember := readMember_append (0 + fuel) field.1 rest
        beforeSpaces gapSpaces valueReads (ih each) (by
          simp only [memberText, List.length_append, List.length_cons]
            at enough ⊢
          omega)
      simp only [List.append_assoc] at readMember
      simp only [readMembers]
      rw [skipSpace_cons (by decide)]
      exact readMember

theorem readsAs_object (beforeSpaces : AreSpaces before)
    (gapSpaces : AreSpaces gap) (afterSpaces : AreSpaces after)
    (each : ∀ field ∈ fields, ReadsAs (write field.2) (back field.2)) :
    ReadsAs
      (bracketed '\x7b' '\x7d' before after
        (fields.map fun field => memberText gap field.1 (write field.2)))
      (.object (fields.map fun field => (.string field.1, back field.2))) := by
  cases fields with
  | nil =>
      refine readsAs_of_succ (List.cons_ne_nil _ _) fun fuel rest enough _ => ?_
      obtain ⟨fuel, rfl⟩ := Nat.exists_eq_add_of_lt
        (show 0 < fuel by simp [bracketed] at enough; omega)
      rfl
  | cons field fields =>
      obtain ⟨valueReads, each⟩ := List.forall_mem_cons.mp each
      have others :=
        continues_members beforeSpaces gapSpaces afterSpaces each
      refine readsAs_of_succ (List.cons_ne_nil _ _) fun fuel rest enough _ => ?_
      simp only [List.map_cons, bracketed, List.length_cons,
        List.length_append, List.append_assoc, List.cons_append] at enough ⊢
      obtain ⟨fuel, rfl⟩ := Nat.exists_eq_add_of_lt
        (show 0 < fuel by omega)
      have readMember := readMember_append (0 + fuel) field.1 rest
        beforeSpaces gapSpaces valueReads others (by
          simp only [memberText, List.length_append, List.length_cons]
            at enough ⊢
          omega)
      simp only [List.append_assoc, List.cons_append] at readMember
      rw [readValue, skipSpace_cons (by decide)]
      simp only
      rw [readMembers_first, readMember]
      rw [skipSpace_append beforeSpaces]
      exact ⟨_, skipSpace_cons (by decide) _⟩

end Objects

end Values

namespace Value

/-- A value that has a text: its integers have at most 64 bits, and strings
name its members. -/
inductive IsWritable : Value → Prop where
  | null : IsWritable .null
  | boolean (content : Bool) : IsWritable (.boolean content)
  | integer {number : Int} (fits : FitsWord number) :
      IsWritable (.number (.integer number))
  | floating (number : Float) : IsWritable (.float number)
  | string (content : Text) : IsWritable (.string content)
  | array {items : List Value} (each : ∀ item ∈ items, IsWritable item) :
      IsWritable (.array items)
  | object {fields : List (Text × Value)}
      (each : ∀ field ∈ fields, IsWritable field.2) :
      IsWritable (.object (fields.map fun field => (.string field.1, field.2)))

mutual

/-- The value with something else in place of each floating-point number. -/
def mapFloats (change : Float → Value) : Value → Value
  | .number (.floating content) => change content
  | .array items => .array (mapItems change items)
  | .object members => .object (mapMembers change members)
  | other => other

def mapItems (change : Float → Value) : List Value → List Value
  | [] => []
  | item :: items => mapFloats change item :: mapItems change items

def mapMembers (change : Float → Value) :
    List (Value × Value) → List (Value × Value)
  | [] => []
  | (key, value) :: members =>
    (key, mapFloats change value) :: mapMembers change members

end

section Lists

variable (change : Float → Value)

theorem mapItems_eq_map (items : List Value) :
    mapItems change items = items.map (mapFloats change) := by
  induction items with
  | nil => rfl
  | cons item items ih => rw [mapItems, ih, List.map_cons]

theorem mapMembers_eq_map (members : List (Value × Value)) :
    mapMembers change members =
      members.map fun member => (member.1, mapFloats change member.2) := by
  induction members with
  | nil => rfl
  | cons member members ih => rw [mapMembers, ih, List.map_cons]

@[simp]
theorem mapFloats_array (items : List Value) :
    mapFloats change (.array items) =
      .array (items.map (mapFloats change)) := by
  rw [mapFloats, mapItems_eq_map]

@[simp]
theorem mapFloats_object (members : List (Value × Value)) :
    mapFloats change (.object members) =
      .object (members.map fun member =>
        (member.1, mapFloats change member.2)) := by
  rw [mapFloats, mapMembers_eq_map]

@[simp]
theorem mapFloats_null : mapFloats change .null = .null := rfl

@[simp]
theorem mapFloats_string (content : Text) :
    mapFloats change (.string content) = .string content := rfl

@[simp]
theorem mapFloats_natural (content : Nat) :
    mapFloats change (.natural content) = .natural content := rfl

@[simp]
theorem mapFloats_float (content : Float) :
    mapFloats change (.float content) = change content := rfl

theorem compactItems_eq_map (items : List Value) :
    compactItems items = items.map compact := by
  induction items with
  | nil => rfl
  | cons item items ih => rw [compactItems, ih, List.map_cons]

theorem compactMembers_eq_map (fields : List (Text × Value)) :
    compactMembers (fields.map fun field => (.string field.1, field.2)) =
      fields.map fun field => memberText [] field.1 field.2.compact := by
  induction fields with
  | nil => rfl
  | cons field fields ih => simp [compactMembers, ih, memberText, compact]

theorem prettyItems_eq_map (level : Nat) (items : List Value) :
    prettyItems level items = items.map (prettyAt level) := by
  induction items with
  | nil => rfl
  | cons item items ih => rw [prettyItems, ih, List.map_cons]

theorem prettyMembers_eq_map (level : Nat) (fields : List (Text × Value)) :
    prettyMembers level
        (fields.map fun field => (.string field.1, field.2)) =
      fields.map fun field =>
        memberText [' '] field.1 (field.2.prettyAt level) := by
  induction fields with
  | nil => rfl
  | cons field fields ih =>
      simp [prettyMembers, ih, memberText, prettyAt, compact]

end Lists

section Writing

variable {value : Value}

theorem readsAs_compact (writable : IsWritable value) :
    ReadsAs value.compact (value.mapFloats readBack) := by
  induction writable with
  | null => exact readsAs_null
  | boolean content => exact readsAs_boolean content
  | integer fits => exact readsAs_integer fits
  | floating number => exact readsAs_floating number
  | string content => exact readsAs_string content
  | array _ ih =>
      rw [compact, compactItems_eq_map, bracketed_eq_of_compact,
        mapFloats_array]
      exact readsAs_array areSpaces_nil areSpaces_nil ih
  | object _ ih =>
      rw [compact, compactMembers_eq_map, bracketed_eq_of_compact,
        mapFloats_object, List.map_map]
      exact readsAs_object areSpaces_nil areSpaces_nil areSpaces_nil ih

theorem readsAs_prettyAt (writable : IsWritable value) (level : Nat) :
    ReadsAs (value.prettyAt level) (value.mapFloats readBack) := by
  induction writable generalizing level with
  | null => exact readsAs_null
  | boolean content => exact readsAs_boolean content
  | integer fits => exact readsAs_integer fits
  | floating number => exact readsAs_floating number
  | string content => exact readsAs_string content
  | array _ ih =>
      rw [prettyAt, prettyItems_eq_map, bracketed_eq_enclose,
        mapFloats_array]
      exact readsAs_array (areSpaces_newLine _) (areSpaces_newLine _)
        fun item member => ih item member _
  | object _ ih =>
      have space : AreSpaces [' '] :=
        List.forall_mem_singleton.mpr (by decide)
      rw [prettyAt, prettyMembers_eq_map, bracketed_eq_enclose,
        mapFloats_object, List.map_map]
      exact readsAs_object (areSpaces_newLine _) space
        (areSpaces_newLine _) fun field member => ih field member _

/-- A finite number, or `null` for another one. -/
def finiteOrNull (content : Float) : Value :=
  if content.isFinite then .float content else .null

theorem write_finiteOrNull (content : Float) :
    (finiteOrNull content).compact = numberFormat.write content := by
  unfold finiteOrNull
  split
  · rfl
  · next special =>
      rw [write_of_not_isFinite (by simpa using special)]
      rfl

theorem mapFloats_fields (change : Float → Value)
    (fields : List (Text × Value)) :
    mapFloats change
        (.object (fields.map fun field => (.string field.1, field.2))) =
      .object ((fields.map fun field =>
        (field.1, mapFloats change field.2)).map
          fun field => (.string field.1, field.2)) := by
  simp [Function.comp_def]

/-- A number that is not finite is written as `null`. -/
theorem compact_finiteOrNull (writable : IsWritable value) :
    (value.mapFloats finiteOrNull).compact = value.compact := by
  induction writable with
  | null | boolean | integer | string => rfl
  | floating content => exact write_finiteOrNull content
  | @array items _ ih =>
      have same : items.map (compact ∘ mapFloats finiteOrNull) =
          items.map compact := List.map_congr_left ih
      rw [mapFloats_array, compact, compact, compactItems_eq_map,
        compactItems_eq_map, List.map_map, same]
  | @object fields _ ih =>
      have same : (fields.map fun field => memberText [] field.1
            (field.2.mapFloats finiteOrNull).compact) =
          fields.map fun field => memberText [] field.1 field.2.compact :=
        List.map_congr_left fun field member => by rw [ih field member]
      rw [mapFloats_fields, compact, compact, compactMembers_eq_map,
        compactMembers_eq_map, List.map_map, ← same]
      rfl

theorem prettyAt_finiteOrNull (writable : IsWritable value) (level : Nat) :
    (value.mapFloats finiteOrNull).prettyAt level = value.prettyAt level := by
  induction writable generalizing level with
  | null | boolean | integer | string => rfl
  | floating content =>
      have plain : (finiteOrNull content).prettyAt level =
          (finiteOrNull content).compact := by
        unfold finiteOrNull
        split <;> rfl
      exact plain.trans (write_finiteOrNull content)
  | @array items _ ih =>
      have same : items.map (prettyAt (level + 1) ∘ mapFloats finiteOrNull) =
          items.map (prettyAt (level + 1)) :=
        List.map_congr_left fun item member => ih item member (level + 1)
      rw [mapFloats_array, prettyAt, prettyAt, prettyItems_eq_map,
        prettyItems_eq_map, List.map_map, same]
  | @object fields _ ih =>
      have same : (fields.map fun field => memberText [' '] field.1
            ((field.2.mapFloats finiteOrNull).prettyAt (level + 1))) =
          fields.map fun field =>
            memberText [' '] field.1 (field.2.prettyAt (level + 1)) :=
        List.map_congr_left fun field member => by
          rw [ih field member (level + 1)]
      rw [mapFloats_fields, prettyAt, prettyAt, prettyMembers_eq_map,
        prettyMembers_eq_map, List.map_map, ← same]
      rfl

end Writing

end Value

theorem read_of_readsAs {text : Text} {value : Value}
    (reads : ReadsAs text value) : read text = (value, true) := by
  have whole := reads (4 * text.length + 4) [] (by omega) (Text.stops_nil _)
  rw [List.append_nil] at whole
  simp [read, whole, skipSpace]

end TurtleSystems.Json
