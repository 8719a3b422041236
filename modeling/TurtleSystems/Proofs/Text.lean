import Mathlib.Data.List.DropRight
import Mathlib.Tactic.ByContra
import TurtleSystems.Symbol

/-!
# Cutting a text

A scan over the characters that pass a test stops where the text is at its end
or where a character fails.  In front of such a place it takes nothing.  A
text that is cut at a separator is cut independently on both sides of it.
-/

namespace TurtleSystems.Text

variable {test : Char → Bool} {taken text : Text}

/-- The text is at its end, or its first character fails the test. -/
def Stops (test : Char → Bool) (text : Text) : Prop :=
  ∀ character ∈ text.head?, test character = false

@[simp]
theorem stops_nil (test : Char → Bool) : Stops test [] := by
  simp [Stops]

@[simp]
theorem stops_cons_iff {character : Char} :
    Stops test (character :: text) ↔ test character = false := by
  simp [Stops]

theorem Stops.mono {other : Char → Bool} (stops : Stops test text)
    (weaker : ∀ character, other character = true → test character = true) :
    Stops other text := by
  intro character found
  rw [Bool.eq_false_iff]
  intro passes
  have passes := weaker character passes
  rw [stops character found] at passes
  cases passes

theorem Stops.append {others : Text} (stops : Stops test text)
    (othersStop : Stops test others) : Stops test (text ++ others) := by
  cases text with
  | nil => exact othersStop
  | cons character text => exact stops

theorem stops_dropWhile (test : Char → Bool) (text : Text) :
    Stops test (text.dropWhile test) := by
  intro character found
  have fails := List.head?_dropWhile_not test text
  rw [Option.mem_def.mp found] at fails
  simpa using fails

theorem takeWhile_of_stops (stops : Stops test text) :
    text.takeWhile test = [] := by
  cases text with
  | nil => rfl
  | cons character text =>
      exact List.takeWhile_cons_of_neg (by simpa using stops)

theorem dropWhile_of_stops (stops : Stops test text) :
    text.dropWhile test = text := by
  cases text with
  | nil => rfl
  | cons character text =>
      exact List.dropWhile_cons_of_neg (by simpa using stops)

theorem takeWhile_append_of_stops
    (pass : ∀ character ∈ taken, test character = true)
    (stops : Stops test text) : (taken ++ text).takeWhile test = taken := by
  rw [List.takeWhile_append_of_pos pass, takeWhile_of_stops stops,
    List.append_nil]

theorem dropWhile_append_of_stops
    (pass : ∀ character ∈ taken, test character = true)
    (stops : Stops test text) : (taken ++ text).dropWhile test = text := by
  rw [List.dropWhile_append_of_pos pass, dropWhile_of_stops stops]

/-- Where the same test ends two beginnings of a text, they are the same. -/
theorem append_inj_of_stops {other rest : Text}
    (takenPasses : ∀ character ∈ taken, test character = true)
    (otherPasses : ∀ character ∈ other, test character = true)
    (textStops : Stops test text) (restStops : Stops test rest)
    (same : taken ++ text = other ++ rest) : taken = other ∧ text = rest := by
  have takenEq : taken = other := by
    rw [← takeWhile_append_of_stops takenPasses textStops, same,
      takeWhile_append_of_stops otherPasses restStops]
  subst takenEq
  exact ⟨rfl, List.append_cancel_left same⟩

theorem rdropWhile_append_of_pos {blanks : Text}
    (pass : ∀ character ∈ blanks, test character = true) (text : Text) :
    (text ++ blanks).rdropWhile test = text.rdropWhile test := by
  rw [List.rdropWhile, List.reverse_append, List.dropWhile_append_of_pos]
  · rfl
  · simpa using pass

theorem passes_of_mem_takeWhile {character : Char}
    (member : character ∈ text.takeWhile test) : test character = true :=
  List.all_eq_true.mp List.all_takeWhile character member

theorem dropWhile_eq_nil_iff_all :
    text.dropWhile test = [] ↔ text.all test = true := by
  rw [List.dropWhile_eq_nil_iff, List.all_eq_true]

theorem trim_append_of_blanks {blanks : Text}
    (blank : ∀ character ∈ blanks, isBlank character = true) (text : Text) :
    trim (blanks ++ text) = trim text := by
  rw [trim, trimStart, List.dropWhile_append_of_pos blank]
  rfl

theorem trim_append_blanks {blanks : Text}
    (blank : ∀ character ∈ blanks, isBlank character = true) (text : Text) :
    trim (text ++ blanks) = trim text := by
  simp only [trim, trimStart]
  rw [List.dropWhile_append]
  split
  · next nothing =>
      rw [List.isEmpty_iff.mp nothing, List.dropWhile_eq_nil_iff.mpr blank]
  · exact rdropWhile_append_of_pos blank _

theorem isBlank_of_isSpaceOrTab {character : Char}
    (space : isSpaceOrTab character = true) : isBlank character = true := by
  simp only [isSpaceOrTab, Bool.or_eq_true, beq_iff_eq] at space
  rcases space with rfl | rfl <;> decide

theorem trim_dropWhile_space (text : Text) :
    trim (text.dropWhile isSpaceOrTab) = trim text := by
  have whole : text.takeWhile isSpaceOrTab ++ text.dropWhile isSpaceOrTab =
      text := List.takeWhile_append_dropWhile
  have blank : ∀ character ∈ text.takeWhile isSpaceOrTab,
      isBlank character = true := fun _ member =>
    isBlank_of_isSpaceOrTab (passes_of_mem_takeWhile member)
  conv => rhs; rw [← whole, trim_append_of_blanks blank]

theorem Stops.of_beginning {first : Text} (stops : Stops test text)
    (isPrefix : first <+: text) : Stops test first := by
  obtain ⟨others, rfl⟩ := isPrefix
  cases first with
  | nil => exact stops_nil test
  | cons character first => exact stops

theorem trim_of_stops (stops : text.Stops isBlank)
    (last : ∀ character ∈ text.getLast?, isBlank character = false) :
    trim text = text := by
  rw [trim, trimStart, dropWhile_of_stops stops]
  refine List.rdropWhile_eq_self_iff.mpr fun neNil => ?_
  simp [last _ (List.getLast?_eq_some_getLast neNil)]

theorem stops_trim (text : Text) : (trim text).Stops isBlank :=
  (stops_dropWhile isBlank text).of_beginning (List.rdropWhile_prefix _ _)

theorem trim_trim (text : Text) : trim (trim text) = trim text := by
  rw [trim, trimStart, dropWhile_of_stops (stops_trim text)]
  exact List.rdropWhile_idempotent _ _

theorem not_isBlank_of_getLast_trim {character : Char}
    (last : character ∈ (trim text).getLast?) : isBlank character = false := by
  obtain ⟨neNil, rfl⟩ := List.mem_getLast?_eq_getLast last
  exact Bool.eq_false_iff.mpr
    (List.rdropWhile_last_not isBlank (trimStart text) neNil)

/-- There are no blanks in front of a trimmed text. -/
theorem eq_nil_of_trim_eq_append {blanks rest : Text}
    (blank : ∀ character ∈ blanks, isBlank character = true)
    (trimmed : trim text = blanks ++ rest) : blanks = [] := by
  have stops := stops_trim text
  cases blanks with
  | nil => rfl
  | cons character blanks =>
      rw [trimmed, List.cons_append, stops_cons_iff,
        blank character List.mem_cons_self] at stops
      cases stops

/-- There are no blanks behind a trimmed text. -/
theorem eq_nil_of_trim_eq_append_blanks {blanks rest : Text}
    (blank : ∀ character ∈ blanks, isBlank character = true)
    (trimmed : trim text = rest ++ blanks) : blanks = [] := by
  by_contra neNil
  have last : blanks.getLast neNil ∈ (trim text).getLast? := by
    rw [trimmed, List.getLast?_append_of_ne_nil _ neNil]
    exact List.getLast?_eq_some_getLast neNil
  have noBlank := not_isBlank_of_getLast_trim last
  rw [blank _ (List.getLast_mem neNil)] at noBlank
  cases noBlank

theorem mem_of_mem_trim {character : Char}
    (member : character ∈ trim text) : character ∈ text :=
  (List.dropWhile_suffix _).subset
    ((List.rdropWhile_prefix _ _).subset member)

theorem stops_blank_of_isProgram (program : isProgram text = true)
    (neNil : text ≠ []) (behind : Text) :
    Stops isBlank (text ++ behind) := by
  obtain ⟨first, text, rfl⟩ := List.exists_cons_of_ne_nil neNil
  have symbol := List.all_eq_true.mp program first List.mem_cons_self
  exact stops_cons_iff.mpr (not_isBlank_of_isSymbol symbol)

theorem stops_space_of_isProgram (program : isProgram text = true)
    (neNil : text ≠ []) (behind : Text) :
    Stops isSpaceOrTab (text ++ behind) :=
  (stops_blank_of_isProgram program neNil behind).mono
    fun _ => isBlank_of_isSpaceOrTab

theorem stops_symbol_of_blanks {blanks : Text}
    (blank : ∀ character ∈ blanks, isSpaceOrTab character = true) :
    blanks.Stops isSymbol := by
  intro character found
  have space := blank character (List.mem_of_mem_head? found)
  rw [Bool.eq_false_iff]
  intro symbol
  have noBlank := not_isBlank_of_isSymbol symbol
  rw [isBlank_of_isSpaceOrTab space] at noBlank
  cases noBlank

theorem splitOn_eq (separator : Char) (text : Text) :
    splitOn separator text = List.splitOn separator text := by
  induction text with
  | nil => simp
  | cons character text ih =>
      simp [splitOn_cons, List.splitOn_cons_eq_if_modifyHead, ih]

theorem splitOn_append_cons (separator : Char) (text others : Text) :
    splitOn separator (text ++ separator :: others) =
      splitOn separator text ++ splitOn separator others := by
  simp only [splitOn_eq, List.splitOn_eq_splitOnP]
  apply List.splitOnP_append_cons
  simp

section Bytes

@[simp]
theorem byteLength_nil : byteLength [] = 0 :=
  rfl

theorem byteLength_cons (character : Char) (text : Text) :
    byteLength (character :: text) =
      character.utf8Size + byteLength text := by
  have shifted (total : Nat) :
      text.foldl (fun total character => total + character.utf8Size) total =
        total + byteLength text := by
    unfold byteLength
    induction text generalizing total with
    | nil => rfl
    | cons character text ih =>
        rw [List.foldl_cons, List.foldl_cons, ih, ih (0 + _)]
        omega
  rw [byteLength, List.foldl_cons, shifted, Nat.zero_add]

@[simp]
theorem byteLength_append (first second : Text) :
    byteLength (first ++ second) = byteLength first + byteLength second := by
  induction first with
  | nil => simp
  | cons character first ih =>
      rw [List.cons_append, byteLength_cons, byteLength_cons, ih,
        Nat.add_assoc]

theorem length_le_byteLength (text : Text) :
    text.length ≤ byteLength text := by
  induction text with
  | nil => simp
  | cons character text ih =>
      have positive := character.utf8Size_pos
      rw [List.length_cons, byteLength_cons]
      omega

/-- Pieces with a separator between them take the bytes of the pieces, and
those of the separator once less often than there are pieces. -/
theorem byteLength_intercalate (separator : Text) {pieces : List Text}
    (piecesNeNil : pieces ≠ []) :
    byteLength (separator.intercalate pieces) =
      byteLength pieces.flatten +
        (pieces.length - 1) * byteLength separator := by
  induction pieces with
  | nil => exact absurd rfl piecesNeNil
  | cons piece pieces ih =>
      cases pieces with
      | nil => simp
      | cons next pieces =>
          rw [List.intercalate_cons_cons, byteLength_append,
            byteLength_append, ih (by simp), List.flatten_cons (l := piece),
            byteLength_append]
          simp only [List.length_cons, Nat.add_sub_cancel, Nat.add_mul,
            Nat.one_mul]
          omega

end Bytes

end TurtleSystems.Text
