import TurtleSystems.Proofs.Document.Acceptance
import TurtleSystems.Proofs.RuleLines

/-!
# Documents that are written

A system is written without any check.  The lines that are written are those
of a document for the system if its name has no blanks around it and neither a
comment nor the end of a line in it, and if its seed and its rules are over the
alphabet.  Every system that was read is of this kind.  What is left to go
wrong is that the name is empty or that the document is too large.  So it is
known exactly which systems come back from what is written for them, also with
blanks printed behind it.
-/

namespace TurtleSystems.Document

section Lines

variable {line : Text} {lines before : List Text}

/-- Lines as a text, each with a line feed behind it. -/
def unlines (lines : List Text) : Text :=
  lines.flatMap (· ++ ['\n'])

theorem bodies_unlines_append
    (unmarked : ∀ line ∈ lines, IsUnmarked line) (text : Text) :
    bodies (unlines lines ++ text) =
      (lines.map body).filter (!·.isEmpty) ++ bodies text := by
  induction lines with
  | nil => rfl
  | cons line lines ih =>
      obtain ⟨here, unmarked⟩ := List.forall_mem_cons.mp unmarked
      have boundary : IsBoundary ('\n' :: (unlines lines ++ text)) :=
        isBoundary_of_afterLineEnd rfl
      have textEq : unlines (line :: lines) ++ text =
          line ++ '\n' :: (unlines lines ++ text) := by
        simp [unlines]
      rw [textEq, bodies_append (fun _ member => (here _ member).2) boundary,
        bodies_of_afterLineEnd rfl, ih unmarked, List.map_cons,
        ← List.append_assoc, ← List.filter_append]
      rfl

/-- Trimming takes only the last line feed off a text of lines, if there are no
blanks at its ends. -/
theorem bodies_trim_unlines
    (unmarked : ∀ other ∈ before ++ [line], IsUnmarked other)
    (stops : Text.Stops Text.isBlank (unlines before ++ line))
    (last : ∀ character ∈ line.getLast?, Text.isBlank character = false)
    (neNil : line ≠ []) :
    bodies (Text.trim (unlines (before ++ [line]))) =
      ((before ++ [line]).map body).filter (!·.isEmpty) := by
  obtain ⟨beforeUnmarked, lineUnmarked⟩ := List.forall_mem_append.mp unmarked
  have textEq : unlines (before ++ [line]) =
      unlines before ++ line ++ ['\n'] := by
    simp [unlines]
  have newlineBlank : ∀ character ∈ ['\n'],
      Text.isBlank character = true := List.forall_mem_singleton.mpr rfl
  have wholeLast : ∀ character ∈ (unlines before ++ line).getLast?,
      Text.isBlank character = false := by
    rwa [List.getLast?_append_of_ne_nil _ neNil]
  have lineBodies := bodies_append
    (fun _ member => (lineUnmarked line (by simp) _ member).2)
    (show IsBoundary [] from Text.stops_nil _)
  rw [List.append_nil, bodies_nil, List.append_nil] at lineBodies
  rw [textEq, Text.trim_append_blanks newlineBlank,
    Text.trim_of_stops stops wholeLast,
    bodies_unlines_append beforeUnmarked, lineBodies, List.map_append,
    List.filter_append]
  rfl

end Lines

section Systems

variable {system found : LSystem} {name seed : Text} {rule : Rule}

/-- The parts of a system fit into the lines of a document. -/
structure IsWritable (system : LSystem) : Prop where
  name_trimmed : Text.trim system.name = system.name
  name_unmarked : IsUnmarked system.name
  seed_word : ∀ seed ∈ system.seed, seed ≠ [] ∧ Text.isProgram seed = true
  rules_ne_nil : system.rules ≠ []
  rules_words : ∀ rule ∈ system.rules, rule.IsOverAlphabet

def nameLine (name : Text) : Text := nameHeading ++ ' ' :: name

def seedLine (seed : Text) : Text := seedHeading ++ ' ' :: seed

def ruleLine (rule : Rule) : Text := [' ', ' '] ++ rule.line

theorem isContent_of_trim_eq (trimmed : Text.trim name = name)
    (unmarked : IsUnmarked name) : IsContent name := by
  refine ⟨unmarked, ?_⟩
  intro character last
  rw [← trimmed] at last
  have blankFails := Text.not_isBlank_of_getLast_trim last
  rw [Bool.eq_false_iff]
  intro space
  rw [Text.isBlank_of_isSpaceOrTab space] at blankFails
  cases blankFails

theorem isBody_nameLine (isContent : IsContent name) (neNil : name ≠ []) :
    IsBody (nameLine name) := by
  have unmarked : IsUnmarked (nameHeading ++ [' ']) := by decide
  refine ⟨?_, List.cons_ne_nil _ _, Text.stops_cons_iff.mpr rfl⟩
  exact isContent.append unmarked neNil

theorem isBody_seedLine (neNil : seed ≠ [])
    (program : Text.isProgram seed = true) : IsBody (seedLine seed) := by
  have unmarked : IsUnmarked (seedHeading ++ [' ']) := by decide
  refine ⟨?_, List.cons_ne_nil _ _, Text.stops_cons_iff.mpr rfl⟩
  exact (isContent_of_isProgram program).append unmarked neNil

theorem isBody_line (words : rule.IsOverAlphabet) : IsBody rule.line := by
  have arrowUnmarked : IsUnmarked [' ', Rule.arrow, ' '] := by decide
  have unmarked : IsUnmarked (rule.pattern ++ [' ', Rule.arrow, ' ']) :=
    (isUnmarked_of_isProgram words.pattern).append arrowUnmarked
  have lineEq : rule.line =
      rule.pattern ++ [' ', Rule.arrow, ' '] ++ rule.replacement := by
    simp [Rule.line]
  refine ⟨?_, ?_, ?_⟩
  · rw [lineEq]
    exact (isContent_of_isProgram words.replacement).append unmarked
      rule.replacement_ne_nil
  · simp [Rule.line]
  · exact Text.stops_space_of_isProgram words.pattern rule.pattern_ne_nil _

theorem body_ruleLine (words : rule.IsOverAlphabet) :
    body (ruleLine rule) = rule.line := by
  have blank : ∀ character ∈ [' ', ' '],
      Text.isSpaceOrTab character = true := List.all_eq_true.mp rfl
  rw [ruleLine, body_append_of_blanks blank, (isBody_line words).body_eq]

theorem last_ruleLine (words : rule.IsOverAlphabet) :
    ∀ character ∈ (ruleLine rule).getLast?,
      Text.isBlank character = false := by
  have lineNeNil : rule.line ≠ [] := by simp [Rule.line]
  rw [ruleLine, List.getLast?_append_of_ne_nil _ lineNeNil]
  exact Rule.not_isBlank_of_getLast_line words

theorem body_nameLine_ne_nil (isContent : IsContent name) :
    body (nameLine name) ≠ [] := by
  by_cases nothing : name = []
  · rw [nothing]
    decide
  · rw [(isBody_nameLine isContent nothing).body_eq]
    exact List.cons_ne_nil _ _

/-- The lines that are written for a system. -/
def writtenLines (system : LSystem) : List Text :=
  nameLine system.name ::
    (system.seed.toList.map seedLine ++
      rulesHeading :: system.rules.map ruleLine)

theorem write_eq (system : LSystem) :
    write system = unlines (writtenLines system) := by
  cases shape : system.seed <;>
    simp [write, shape, unlines, writtenLines, nameLine, seedLine, ruleLine,
      List.flatMap_map]

theorem IsWritable.isContent_name (writable : IsWritable system) :
    IsContent system.name :=
  isContent_of_trim_eq writable.name_trimmed writable.name_unmarked

theorem IsWritable.unmarked_of_mem (writable : IsWritable system) :
    ∀ line ∈ writtenLines system, IsUnmarked line := by
  have headed : IsUnmarked (nameHeading ++ [' ']) := by decide
  have nameUnmarked : IsUnmarked (nameLine system.name) :=
    headed.append writable.name_unmarked
  refine List.forall_mem_cons.mpr ⟨nameUnmarked,
    List.forall_mem_append.mpr ⟨?_, List.forall_mem_cons.mpr ⟨?_, ?_⟩⟩⟩
  · refine List.forall_mem_map.mpr fun seed member => ?_
    obtain ⟨neNil, program⟩ :=
      writable.seed_word seed (Option.mem_toList.mp member)
    exact (isBody_seedLine neNil program).unmarked
  · decide
  · refine List.forall_mem_map.mpr fun rule member => ?_
    have blanksUnmarked : IsUnmarked [' ', ' '] := by decide
    exact blanksUnmarked.append
      (isBody_line (writable.rules_words rule member)).unmarked

theorem IsWritable.map_body (writable : IsWritable system) :
    (writtenLines system).map body =
      body (nameLine system.name) :: (system.seed.toList.map seedLine ++
        rulesHeading :: system.rules.map Rule.line) := by
  have seedBodies : (system.seed.toList.map seedLine).map body =
      system.seed.toList.map seedLine := by
    rw [List.map_map]
    refine List.map_congr_left fun seed member => ?_
    obtain ⟨neNil, program⟩ :=
      writable.seed_word seed (Option.mem_toList.mp member)
    exact (isBody_seedLine neNil program).body_eq
  have ruleBodies : (system.rules.map ruleLine).map body =
      system.rules.map Rule.line := by
    rw [List.map_map]
    exact List.map_congr_left fun rule member =>
      body_ruleLine (writable.rules_words rule member)
  rw [writtenLines, List.map_cons, List.map_append, List.map_cons,
    seedBodies, ruleBodies]
  rfl

/-- What is written counts line by line. -/
theorem IsWritable.bodies_write (writable : IsWritable system) :
    bodies (Text.trim (write system)) =
      body (nameLine system.name) :: (system.seed.toList.map seedLine ++
        rulesHeading :: system.rules.map Rule.line) := by
  obtain ⟨rules, last, rulesEq⟩ :=
    (List.eq_nil_or_concat system.rules).resolve_left writable.rules_ne_nil
  have lastWords : last.IsOverAlphabet :=
    writable.rules_words last (by simp [rulesEq])
  have linesEq : writtenLines system =
      (nameLine system.name :: (system.seed.toList.map seedLine ++
        rulesHeading :: rules.map ruleLine)) ++ [ruleLine last] := by
    simp [writtenLines, rulesEq]
  have unmarked := writable.unmarked_of_mem
  rw [linesEq] at unmarked
  rw [write_eq, linesEq, bodies_trim_unlines unmarked
    (Text.stops_cons_iff.mpr rfl) (last_ruleLine lastWords)
    (List.cons_ne_nil _ _), ← linesEq, writable.map_body]
  refine List.filter_eq_self.mpr ?_
  simp only [Bool.not_eq_true', List.isEmpty_eq_false_iff]
  refine List.forall_mem_cons.mpr ⟨body_nameLine_ne_nil writable.isContent_name,
    List.forall_mem_append.mpr ⟨?_, List.forall_mem_cons.mpr ⟨?_, ?_⟩⟩⟩
  · exact List.forall_mem_map.mpr fun seed _ => List.cons_ne_nil _ _
  · exact List.cons_ne_nil _ _
  · exact List.forall_mem_map.mpr fun rule _ => by simp [Rule.line]

theorem IsWritable.describes_write (writable : IsWritable system)
    (nameNeNil : system.name ≠ [])
    (fits : Text.byteLength (write system) ≤ maximumSize) :
    Describes (write system) system := by
  have blank : ∀ character ∈ [' '], Text.isSpaceOrTab character = true :=
    List.forall_mem_singleton.mpr rfl
  have firstLine : SectionLine (nameLine system.name) (.name system.name) :=
    ⟨[' '], system.name, rfl, blank, nameNeNil,
      writable.name_trimmed.symm⟩
  have seedLines : List.Forall₂ SectionLine
      (system.seed.toList.map seedLine) (system.seed.toList.map .seed) := by
    rw [List.forall₂_map_left_iff, List.forall₂_map_right_iff,
      List.forall₂_same]
    intro seed member
    obtain ⟨neNil, program⟩ :=
      writable.seed_word seed (Option.mem_toList.mp member)
    exact ⟨[' '], rfl, blank, neNil, program⟩
  refine ⟨fits, nameLine system.name :: system.seed.toList.map seedLine,
    .name system.name :: system.seed.toList.map .seed,
    system.rules.map Rule.line, ?_, .cons firstLine seedLines, ⟨?_, ?_⟩, ?_,
    ?_⟩
  · rw [writable.bodies_write, List.cons_append,
      (isBody_nameLine writable.isContent_name nameNeNil).body_eq]
  · cases system.seed <;> rfl
  · cases system.seed <;> rfl
  · simpa using writable.rules_ne_nil
  · rw [List.forall₂_map_left_iff, List.forall₂_same]
    intro rule member
    obtain ⟨patternProgram, replacementProgram⟩ :=
      writable.rules_words rule member
    exact ⟨[' '], [' '], rfl, blank, blank, rule.pattern_ne_nil,
      patternProgram, rule.replacement_ne_nil, replacementProgram⟩

/-- Where the name is empty the first line is that of no section. -/
theorem IsWritable.name_ne_nil_of_describes (writable : IsWritable system)
    (describes : Describes (write system) found) : system.name ≠ [] := by
  obtain ⟨-, header, sections, productions, linesEq, isHeader, -⟩ := describes
  intro nothing
  have noLabel : body (nameLine []) = nameHeading := by decide
  rw [writable.bodies_write, nothing, noLabel] at linesEq
  cases isHeader with
  | nil => cases linesEq
  | cons firstLine _ =>
      rw [List.cons_append] at linesEq
      rw [← (List.cons.inj linesEq).1, ← List.append_nil nameHeading,
        sectionLine_name_iff] at firstLine
      exact firstLine.1 rfl

/-- If what is written can be read, then as the system that was written.  It
can be read if the name is not empty and the document is not too large. -/
theorem IsWritable.read_write_eq_ok_iff (writable : IsWritable system) :
    read (write system) = .ok found ↔
      found = system ∧ system.name ≠ [] ∧
        Text.byteLength (write system) ≤ maximumSize := by
  constructor
  · intro foundRead
    have describes := describes_of_read foundRead
    have nameNeNil := writable.name_ne_nil_of_describes describes
    have read := read_of_describes
      (writable.describes_write nameNeNil describes.1)
    rw [foundRead, Except.ok.injEq] at read
    exact ⟨read, nameNeNil, describes.1⟩
  · rintro ⟨rfl, nameNeNil, fits⟩
    exact read_of_describes (writable.describes_write nameNeNil fits)

end Systems

section Printing

variable {text blanks : Text} {system : LSystem}

/-- A text is read as a system, and so it is with blanks behind it, such as the
end of the line that it is printed on, as long as all of it is not too
large. -/
def IsReadAs (text : Text) (system : LSystem) : Prop :=
  ∀ blanks, (∀ character ∈ blanks, Text.isBlank character = true) →
    Text.byteLength (text ++ blanks) ≤ maximumSize →
      read (text ++ blanks) = .ok system

theorem read_append_blanks
    (blank : ∀ character ∈ blanks, Text.isBlank character = true)
    (fits : Text.byteLength (text ++ blanks) ≤ maximumSize) :
    read (text ++ blanks) = read text := by
  have textFits : Text.byteLength text ≤ maximumSize := by
    rw [Text.byteLength_append] at fits
    omega
  rw [read, read, if_neg (Nat.not_lt.mpr fits),
    if_neg (Nat.not_lt.mpr textFits), Text.trim_append_blanks blank]

theorem IsWritable.isReadAs_write (writable : IsWritable system)
    (nameNeNil : system.name ≠ []) : IsReadAs (write system) system := by
  intro blanks blank fits
  rw [read_append_blanks blank fits]
  rw [Text.byteLength_append] at fits
  exact writable.read_write_eq_ok_iff.mpr ⟨rfl, nameNeNil, by omega⟩

end Printing

section Readings

variable {text : Text} {system : LSystem}

theorem name_of_sectionLine {line name : Text} (unmarked : IsUnmarked line)
    (isName : SectionLine line (.name name)) :
    Text.trim name = name ∧ IsUnmarked name := by
  obtain ⟨blanks, label, rfl, -, -, rfl⟩ := isName
  refine ⟨Text.trim_trim label, fun character member => ?_⟩
  exact unmarked character (by simp [Text.mem_of_mem_trim member])

/-- Every system that is read fits into the lines of a document. -/
theorem isWritable_of_read (read : read text = .ok system) :
    IsWritable system := by
  obtain ⟨-, header, sections, productions, linesEq, isHeader,
    ⟨names, seeds⟩, someRules, isRules⟩ := describes_of_read read
  have nameMem : system.name ∈ sections.filterMap Section.name? := by
    simp [names]
  obtain ⟨part, partMem, partName⟩ := List.mem_filterMap.mp nameMem
  obtain ⟨line, lineMem, isSection⟩ :=
    exists_of_mem_forall₂ isHeader partMem
  have unmarked : IsUnmarked line := isUnmarked_of_mem_bodies
    (by rw [linesEq]; exact List.mem_append_left _ lineMem)
  have isName : SectionLine line (.name system.name) := by
    cases part <;> cases partName
    exact isSection
  obtain ⟨nameTrimmed, nameUnmarked⟩ := name_of_sectionLine unmarked isName
  refine ⟨nameTrimmed, nameUnmarked, ?_, ?_, ?_⟩
  · intro seed found
    have seedMem : seed ∈ sections.filterMap Section.seed? := by
      rw [seeds]
      exact Option.mem_toList.mpr found
    obtain ⟨part, partMem, partSeed⟩ := List.mem_filterMap.mp seedMem
    obtain ⟨line, -, isSeed⟩ := exists_of_mem_forall₂ isHeader partMem
    cases part <;> cases partSeed
    obtain ⟨blanks, -, -, neNil, program⟩ := isSeed
    exact ⟨neNil, program⟩
  · intro noRules
    rw [noRules] at isRules
    cases isRules
    exact someRules rfl
  · intro rule member
    obtain ⟨line, -, before, behind, -, -, -, -, patternProgram, -,
      replacementProgram⟩ := exists_of_mem_forall₂ isRules member
    exact ⟨patternProgram, replacementProgram⟩

theorem isUnmarked_iff :
    IsUnmarked text ↔ '\n' ∉ text ∧ '\r' ∉ text ∧ '#' ∉ text := by
  constructor
  · intro unmarked
    refine ⟨?_, ?_, ?_⟩
    · intro member
      exact absurd (unmarked '\n' member).2 (by decide)
    · intro member
      exact absurd (unmarked '\r' member).2 (by decide)
    · intro member
      exact absurd (unmarked '#' member).1 (by decide)
  · rintro ⟨noFeed, noReturn, noMark⟩ character member
    rw [Bool.eq_false_iff, Bool.eq_false_iff]
    constructor
    · intro mark
      rw [isCommentMark_iff.mp mark] at member
      exact noMark member
    · intro lineEnd
      rcases eq_of_isLineEnd lineEnd with rfl | rfl
      · exact noFeed member
      · exact noReturn member

/-- A system is read back from what is written for it exactly if its name is a
trimmed label without line ends and comment marks, its seed, if it has one, is
a word over the alphabet, its rules are over the alphabet and there is one at
least, and the document is not too large. -/
theorem read_write_self_iff (system : LSystem) :
    read (write system) = .ok system ↔
      (system.name ≠ [] ∧ Text.trim system.name = system.name ∧
        '\n' ∉ system.name ∧ '\r' ∉ system.name ∧ '#' ∉ system.name) ∧
      (∀ seed ∈ system.seed, seed ≠ [] ∧ Text.isProgram seed = true) ∧
      (system.rules ≠ [] ∧ ∀ rule ∈ system.rules,
        Text.isProgram rule.pattern = true ∧
          Text.isProgram rule.replacement = true) ∧
      Text.byteLength (write system) ≤ maximumSize := by
  constructor
  · intro found
    have writable := isWritable_of_read found
    obtain ⟨-, nameNeNil, fits⟩ := writable.read_write_eq_ok_iff.mp found
    have nameUnmarked := isUnmarked_iff.mp writable.name_unmarked
    refine ⟨⟨nameNeNil, writable.name_trimmed, nameUnmarked⟩,
      writable.seed_word, ⟨writable.rules_ne_nil, ?_⟩, fits⟩
    intro rule member
    have words := writable.rules_words rule member
    exact ⟨words.pattern, words.replacement⟩
  · rintro ⟨⟨nameNeNil, nameTrimmed, nameUnmarked⟩, seedWord,
      ⟨rulesNeNil, rulesWords⟩, fits⟩
    have writable : IsWritable system :=
      { name_trimmed := nameTrimmed
        name_unmarked := isUnmarked_iff.mpr nameUnmarked
        seed_word := seedWord
        rules_ne_nil := rulesNeNil
        rules_words := by
          intro rule member
          obtain ⟨pattern, replacement⟩ := rulesWords rule member
          exact ⟨pattern, replacement⟩ }
    exact writable.read_write_eq_ok_iff.mpr ⟨rfl, nameNeNil, fits⟩

end Readings

end TurtleSystems.Document
