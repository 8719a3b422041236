import Mathlib.Data.List.Infix
import TurtleSystems.Proofs.Decimal.Plain
import TurtleSystems.Proofs.RuleLines
import TurtleSystems.Proofs.Unguarded
import TurtleSystems.Svg

/-!
# What a saved picture tells

The rules and the seed of a drawing stand in attributes of its picture.  They
are found behind the first place where the name of the attribute stands, they
end with the next quote, and undoing the entities in one pass gives the text
that was saved, whatever it looked like.
-/

namespace TurtleSystems

/-- What is left of a text behind the first place where a mark stands. -/
def Text.behindFirst? (mark : Text) : Text → Option Text
  | [] => after? mark []
  | character :: text =>
    (after? mark (character :: text)).or (behindFirst? mark text)

namespace Svg

/-- The characters that are not written as they are. -/
def special : List Char := ['&', '"', '<', '>', '\n']

/-- What is written for them. -/
def entities : List Text :=
  ["&amp;".toList, "&quot;".toList, "&lt;".toList, "&gt;".toList,
    "&#10;".toList]

/-- Put the characters back that the entities stand for, in one pass. -/
def unescape : Text → Text
  | '&' :: 'a' :: 'm' :: 'p' :: ';' :: text => '&' :: unescape text
  | '&' :: 'q' :: 'u' :: 'o' :: 't' :: ';' :: text => '"' :: unescape text
  | '&' :: 'l' :: 't' :: ';' :: text => '<' :: unescape text
  | '&' :: 'g' :: 't' :: ';' :: text => '>' :: unescape text
  | '&' :: '#' :: '1' :: '0' :: ';' :: text => '\n' :: unescape text
  | character :: text => character :: unescape text
  | [] => []

/-- The raw value of an attribute: the text behind the first place where its
name and the opening quote stand, up to the next quote. -/
def attribute? (name document : Text) : Option Text :=
  match Text.behindFirst? (name ++ "=\"".toList) document with
  | none => none
  | some rest =>
    if '"' ∈ rest then some (rest.takeWhile (· != '"')) else none

variable {α : Type} {text name : Text} {character : Char}

section Entities

theorem escape_cons (character : Char) (text : Text) :
    escape (character :: text) =
      escapeCharacter character ++ escape text :=
  List.flatMap_cons

theorem escapeCharacter_cases (character : Char) :
    escapeCharacter character ∈ entities ∨
      character ∉ special ∧ escapeCharacter character = [character] := by
  unfold escapeCharacter
  split
  case h_6 => exact .inr ⟨by simp_all [special], rfl⟩
  all_goals exact .inl (by decide)

theorem unescape_cons (notAmpersand : character ≠ '&') (text : Text) :
    unescape (character :: text) = character :: unescape text := by
  rw [unescape]
  all_goals simp_all

theorem unescape_escapeCharacter_append (character : Char) (text : Text) :
    unescape (escapeCharacter character ++ text) =
      character :: unescape text := by
  unfold escapeCharacter
  split
  case h_6 notAmpersand _ _ _ _ => exact unescape_cons notAmpersand text
  all_goals rfl

/-- Escaping is undone, also for a text that looks escaped already. -/
theorem unescape_escape (text : Text) : unescape (escape text) = text := by
  induction text with
  | nil => rfl
  | cons character text ih =>
      rw [escape_cons, unescape_escapeCharacter_append, ih]

/-- A character that is in no entity comes from the text itself and needed no
escape. -/
theorem mem_of_mem_escape (member : character ∈ escape text)
    (notInEntity : ∀ entity ∈ entities, character ∉ entity) :
    character ∈ text ∧ character ∉ special := by
  obtain ⟨original, originalMem, member⟩ := List.mem_flatMap.mp member
  rcases escapeCharacter_cases original with entity | ⟨plain, same⟩
  · exact absurd member (notInEntity _ entity)
  · rw [same, List.mem_singleton] at member
    subst member
    exact ⟨originalMem, plain⟩

theorem not_mem_escape (text : Text) :
    ∀ character ∈ ['"', '<', '>', '\n'], character ∉ escape text := by
  intro character listed member
  simp only [List.mem_cons, List.not_mem_nil, or_false] at listed
  rcases listed with rfl | rfl | rfl | rfl
  all_goals exact (mem_of_mem_escape member (by decide)).2 (by decide)

theorem mem_entities_of_suffix {rest : Text}
    (suffix : '&' :: rest <:+ escapeCharacter character) :
    '&' :: rest ∈ entities := by
  rcases escapeCharacter_cases character with entity | ⟨plain, same⟩
  · have single : ∀ entity ∈ entities, ∀ rest ∈ entity.tails,
        rest.head? = some '&' → rest ∈ entities := by decide
    exact single _ entity _ ((List.mem_tails _ _).mpr suffix) rfl
  · rw [same] at suffix
    have ampersand := List.mem_singleton.mp (suffix.subset List.mem_cons_self)
    exact absurd (ampersand ▸ by decide) plain

/-- Wherever an ampersand stands in an escaped text, an entity begins. -/
theorem exists_entity_of_suffix {rest : Text}
    (suffix : '&' :: rest <:+ escape text) :
    ∃ entity ∈ entities, entity <+: '&' :: rest := by
  induction text with
  | nil => cases List.suffix_nil.mp suffix
  | cons character text ih =>
      obtain ⟨before, joined⟩ := suffix
      rw [escape_cons, List.append_eq_append_iff] at joined
      rcases joined with ⟨begun, written, restEq⟩ | ⟨between, -, written⟩
      · cases begun with
        | nil => exact ih (restEq ▸ List.suffix_refl _)
        | cons first begun =>
            obtain ⟨rfl, rfl⟩ := List.cons.inj restEq
            exact ⟨'&' :: begun, mem_entities_of_suffix ⟨before, written.symm⟩,
              List.prefix_append _ _⟩
      · exact ih ⟨between, written.symm⟩

theorem replaceAll_singleton (original : Char) (written text : Text) :
    Text.replaceAll [original] written text =
      text.flatMap fun character =>
        if character = original then written else [character] := by
  induction text with
  | nil => simp [Text.replaceAll]
  | cons character text ih =>
      rw [Text.replaceAll, List.flatMap_cons, ← ih]
      by_cases same : character = original
      · simp [same]
      · simp [same, Ne.symm same]

/-- The same text comes out when the five characters are replaced one after
the other, as long as the ampersand is the first: no replacement meets what
the ones before it have written. -/
theorem escape_eq_replaceAll (text : Text) :
    escape text =
      Text.replaceAll ['\n'] "&#10;".toList
        (Text.replaceAll ['>'] "&gt;".toList
          (Text.replaceAll ['<'] "&lt;".toList
            (Text.replaceAll ['"'] "&quot;".toList
              (Text.replaceAll ['&'] "&amp;".toList text)))) := by
  simp only [replaceAll_singleton, List.flatMap_assoc]
  rw [escape]
  congr 1
  funext character
  unfold escapeCharacter
  split
  case h_6 notAmpersand notQuote notLess notGreater notNewline =>
    simp only [List.flatMap_cons, List.flatMap_nil, List.append_nil,
      if_neg notAmpersand, if_neg notQuote, if_neg notLess,
      if_neg notGreater, if_neg notNewline]
  all_goals rfl

end Entities

section Attributes

theorem after?_append (mark rest : Text) :
    Text.after? mark (mark ++ rest) = some rest := by
  simp [Text.after?]

theorem behindFirst?_of_here (mark rest : Text) :
    Text.behindFirst? mark (mark ++ rest) = some rest := by
  cases textEq : mark ++ rest with
  | nil =>
      rw [Text.behindFirst?, ← textEq]
      exact after?_append mark rest
  | cons character text =>
      rw [Text.behindFirst?, ← textEq, after?_append, Option.some_or]

/-- A mark is not found before its first character is met. -/
theorem behindFirst?_append {first : Char} {mark before : Text}
    (begins : mark.head? = some first) (absent : first ∉ before)
    (rest : Text) :
    Text.behindFirst? mark (before ++ rest) =
      Text.behindFirst? mark rest := by
  obtain ⟨others, rfl⟩ := List.head?_eq_some_iff.mp begins
  induction before with
  | nil => rfl
  | cons character before ih =>
      rw [List.mem_cons, not_or] at absent
      have notHere : Text.after? (first :: others)
          (character :: (before ++ rest)) = none := by
        simp [Text.after?, absent.1]
      rw [List.cons_append, Text.behindFirst?, notHere, Option.none_or,
        ih absent.2]

theorem attribute?_eq {value document : Text} (rest : Text)
    (found : Text.behindFirst? (name ++ "=\"".toList) document =
      some (value ++ '"' :: rest))
    (noQuote : '"' ∉ value) : attribute? name document = some value := by
  have passes : ∀ character ∈ value, (character != '"') = true := by
    intro character member
    exact bne_iff_ne.mpr fun quote => noQuote (quote ▸ member)
  have ended : '"' ∈ value ++ '"' :: rest := by simp
  rw [attribute?, found]
  simp only [ended, if_true]
  rw [Text.takeWhile_append_of_stops passes (Text.stops_cons_iff.mpr rfl)]

-- The equations of the definition are stated here, because Lean evaluates the
-- literal when it derives them.
theorem viewBox_none (write : α → Text) :
    viewBox write none = "-320 -240 640 480".toList := by
  delta viewBox
  rfl

theorem viewBox_some (write : α → Text) (box : ViewBox α) :
    viewBox write (some box) =
      write box.minX ++ ' ' :: (write box.minY ++ ' ' ::
        (write box.width ++ ' ' :: write box.height)) := by
  delta viewBox
  simp [List.intercalate]

/-- The box of a picture is written with numbers and spaces. -/
theorem isPlain_of_mem_viewBox {box? : Option (ViewBox Float)}
    (member : character ∈ viewBox NumberFormat.plain.write box?) :
    Decimal.isPlain character = true ∨ character = ' ' := by
  cases box? with
  | none =>
      have allPlain : ("-320 -240 640 480".toList.all fun character =>
          Decimal.isPlain character || character == ' ') = true := by decide
      rw [viewBox_none] at member
      simpa using List.all_eq_true.mp allPlain character member
  | some box =>
      simp only [viewBox_some, List.mem_append, List.mem_cons] at member
      rcases member with written | rfl | written | rfl | written | rfl | written
      all_goals
        first
          | exact .inr rfl
          | exact .inl (NumberFormat.isPlain_of_mem_write written)

/-- Rules over the alphabet are written with symbols, arrows and blanks. -/
theorem mem_toText {rules : RuleSet} (words : rules.IsOverAlphabet)
    (member : character ∈ rules.toText) :
    Text.isSymbol character = true ∨
      character ∈ [' ', Rule.arrow, '\n'] := by
  have ofLine {rule : Rule} (ruleWords : rule.IsOverAlphabet)
      (member : character ∈ rule.line) : Text.isSymbol character = true ∨
        character ∈ [' ', Rule.arrow, '\n'] := by
    simp only [Rule.line, List.mem_append, List.mem_cons] at member
    rcases member with side | rfl | rfl | rfl | side
    · exact .inl (List.all_eq_true.mp ruleWords.pattern _ side)
    · exact .inr (by simp)
    · exact .inr (by simp)
    · exact .inr (by simp)
    · exact .inl (List.all_eq_true.mp ruleWords.replacement _ side)
  induction rules with
  | nil => cases member
  | cons rule rules ih =>
      obtain ⟨ruleWords, words⟩ := List.forall_mem_cons.mp words
      cases rules with
      | nil =>
          exact ofLine ruleWords (by simpa [RuleSet.toText] using member)
      | cons next rules =>
          rw [RuleSet.toText, List.map_cons, List.map_cons,
            List.intercalate_cons_cons, List.mem_append, List.mem_append,
            List.mem_singleton] at member
          rcases member with (first | rfl) | others
          · exact ofLine ruleWords first
          · exact .inr (by simp)
          · exact ih words others

theorem exists_picture_eq (margin : Float) (segments : List (Segment Float))
    (rules : RuleSet) (seed : Text) :
    ∃ rest, picture margin segments rules seed =
      "<svg xmlns=\"http://www.w3.org/2000/svg\" viewBox=\"".toList ++
        (viewBox NumberFormat.plain.write
            (ViewBox.ofSegments? margin segments) ++
          ("\" ".toList ++ ("data-rules=\"".toList ++
            (escape rules.toText ++ ("\" ".toList ++ ("data-seed=\"".toList ++
              (escape seed ++ '"' :: rest))))))) := by
  have rulesMark : "\" data-rules=\"".toList =
      "\" ".toList ++ "data-rules=\"".toList := by decide
  have seedMark : "\" data-seed=\"".toList =
      "\" ".toList ++ "data-seed=\"".toList := by decide
  have pathMark : "\">\n  <path d=\"".toList =
      '"' :: ">\n  <path d=\"".toList := by decide
  delta picture document
  rw [rulesMark, seedMark, pathMark]
  simp only [List.append_assoc, List.cons_append]
  exact ⟨_, rfl⟩

/-- The rules and the seed are read back from the attributes of a picture. The
attribute of the rules stands behind the box, and that of the seed behind the
rules: no name of an attribute begins in either. -/
theorem attribute?_picture {rules : RuleSet} (words : rules.IsOverAlphabet)
    (margin : Float) (segments : List (Segment Float)) (seed : Text) :
    attribute? "data-rules".toList (picture margin segments rules seed) =
        some (escape rules.toText) ∧
      attribute? "data-seed".toList (picture margin segments rules seed) =
        some (escape seed) := by
  have noQuote (text : Text) : '"' ∉ escape text :=
    not_mem_escape text '"' (by decide)
  have noDBox : 'd' ∉ viewBox NumberFormat.plain.write
      (ViewBox.ofSegments? margin segments) := fun member =>
    absurd (isPlain_of_mem_viewBox member) (by decide)
  have noDRules : 'd' ∉ escape rules.toText := fun member =>
    absurd (mem_toText words (mem_of_mem_escape member (by decide)).1)
      (by decide)
  have rulesBegins :
      ("data-rules".toList ++ "=\"".toList).head? = some 'd' := by decide
  have seedBegins :
      ("data-seed".toList ++ "=\"".toList).head? = some 'd' := by decide
  have otherName (rest : Text) :
      Text.behindFirst? ("data-seed".toList ++ "=\"".toList)
          ("data-rules=\"".toList ++ rest) =
        Text.behindFirst? ("data-seed".toList ++ "=\"".toList) rest := by
    have noD : 'd' ∉ "ata-rules=\"".toList := by decide
    exact behindFirst?_append seedBegins noD rest
  obtain ⟨rest, pictureEq⟩ := exists_picture_eq margin segments rules seed
  rw [pictureEq]
  constructor
  · refine attribute?_eq (" ".toList ++ ("data-seed=\"".toList ++
      (escape seed ++ '"' :: rest))) ?_ (noQuote rules.toText)
    rw [behindFirst?_append rulesBegins (by decide),
      behindFirst?_append rulesBegins noDBox,
      behindFirst?_append rulesBegins (by decide)]
    exact behindFirst?_of_here _ _
  · refine attribute?_eq rest ?_ (noQuote seed)
    rw [behindFirst?_append seedBegins (by decide),
      behindFirst?_append seedBegins noDBox,
      behindFirst?_append seedBegins (by decide), otherName,
      behindFirst?_append seedBegins noDRules,
      behindFirst?_append seedBegins (by decide)]
    exact behindFirst?_of_here _ _

/-- A picture records where it came from.  Its attributes give back the rules,
in order, when they are over the alphabet, and any seed.  Whatever is put into
an attribute, nothing in it is taken for the end of the attribute or for
markup, and every ampersand begins one of the five entities. -/
theorem picture_records :
    (∀ (margin : Float) (segments : List (Segment Float)) (rules : RuleSet)
        (seed : Text), rules.IsOverAlphabet →
      ((attribute? "data-rules".toList
          (picture margin segments rules seed)).map fun value =>
            RuleSet.ofText (unescape value)) = some rules ∧
        (attribute? "data-seed".toList
          (picture margin segments rules seed)).map unescape = some seed) ∧
    (∀ text : Text,
      (∀ character ∈ ['"', '<', '>', '\n'], character ∉ escape text) ∧
      ∀ before behind, escape text = before ++ '&' :: behind →
        ∃ entity ∈ entities, entity <+: '&' :: behind) := by
  constructor
  · intro margin segments rules seed words
    obtain ⟨rulesFound, seedFound⟩ :=
      attribute?_picture words margin segments seed
    rw [rulesFound, seedFound, Option.map_some, Option.map_some,
      unescape_escape, unescape_escape, RuleSet.ofText_toText words]
    exact ⟨rfl, rfl⟩
  · intro text
    refine ⟨not_mem_escape text, ?_⟩
    intro before behind written
    exact exists_entity_of_suffix ⟨before, written.symm⟩

/-- A seed that looks like an entity, or like the attribute itself, comes back
as it was, and so do two rules. -/
theorem picture_records_sprouting :
    let fading : Rule := ⟨['x', 'y'], ['+'], by decide, by decide, by decide⟩
    let seed := "&quot; data-seed=\"g<\n".toList
    let saved := picture 10 [] [.sprouting, fading] seed
    ((attribute? "data-rules".toList saved).map fun value =>
        RuleSet.ofText (unescape value)) = some [.sprouting, fading] ∧
      (attribute? "data-seed".toList saved).map unescape = some seed := by
  intro fading seed saved
  have words : RuleSet.IsOverAlphabet [.sprouting, fading] := by
    intro rule member
    simp only [List.mem_cons, List.not_mem_nil, or_false] at member
    rcases member with rfl | rfl
    · exact ⟨rfl, rfl⟩
    · exact ⟨rfl, rfl⟩
  exact picture_records.1 10 [] [.sprouting, fading] seed words

end Attributes

end Svg

end TurtleSystems
