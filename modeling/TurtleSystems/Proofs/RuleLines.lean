import TurtleSystems.Proofs.Reader
import TurtleSystems.RuleLines

/-!
# Rules on lines

Reading rules from the lines of a text is lenient, but what it gives are
rules over the alphabet, and these are the rules whose lines are read back.
Lines that are added behind a text add their rules behind the others.
-/

namespace TurtleSystems

/-- A rule with programs on both sides. -/
structure Rule.IsOverAlphabet (rule : Rule) : Prop where
  pattern : Text.isProgram rule.pattern = true
  replacement : Text.isProgram rule.replacement = true

instance (rule : Rule) : Decidable rule.IsOverAlphabet :=
  decidable_of_iff
    (Text.isProgram rule.pattern = true ∧
      Text.isProgram rule.replacement = true)
    ⟨fun ⟨pattern, replacement⟩ => ⟨pattern, replacement⟩,
      fun words => ⟨words.pattern, words.replacement⟩⟩

/-- Rules with programs on all sides. -/
def RuleSet.IsOverAlphabet (rules : RuleSet) : Prop :=
  ∀ rule ∈ rules, rule.IsOverAlphabet

instance (rules : RuleSet) : Decidable rules.IsOverAlphabet :=
  inferInstanceAs (Decidable (∀ rule ∈ rules, rule.IsOverAlphabet))

namespace Reader

variable {blanks word left : Text}

theorem reads_blanks
    (blank : ∀ character ∈ blanks, Text.isSpaceOrTab character = true)
    (stops : left.Stops Text.isSpaceOrTab) :
    spaces.Reads (blanks ++ left) (fun _ => True) left := by
  have reads := reads_skipping Text.isSpaceOrTab (blanks ++ left)
  rwa [Text.dropWhile_append_of_stops blank stops] at reads

theorem reads_symbols (program : Text.isProgram word = true)
    (neNil : word ≠ []) (stops : left.Stops Text.isSymbol) :
    symbols.Reads (word ++ left) (· = word) left :=
  (reads_word neNil (List.all_eq_true.mp program) stops).named

theorem rest_of_symbols {place after : Place} {taken : Text}
    (result : (symbols place).result = some (taken, after)) :
    place.rest = taken ++ after.rest ∧ taken ≠ [] ∧
      Text.isProgram taken = true := by
  obtain ⟨restEq, neNil, pass⟩ := rest_of_word (result_of_named result)
  exact ⟨restEq, neNil, List.all_eq_true.mpr pass⟩

end Reader

namespace Rule

/-- Two sides with an arrow between them, and spaces and tabs around the arrow
and around the whole. -/
structure AreSides (text pattern replacement : Text) : Prop where
  pattern_ne_nil : pattern ≠ []
  pattern_program : Text.isProgram pattern = true
  replacement_ne_nil : replacement ≠ []
  replacement_program : Text.isProgram replacement = true
  spaced : ∃ first before behind last,
    text = first ++ (pattern ++
      (before ++ ([arrow] ++ (behind ++ (replacement ++ last))))) ∧
    ∀ blanks ∈ [first, before, behind, last], ∀ character ∈ blanks,
      Text.isSpaceOrTab character = true

variable {text pattern replacement : Text}

theorem areSides_of_readSides {place after : Place}
    (result : (readSides place).result =
      some ((pattern, replacement), after)) :
    AreSides place.rest pattern replacement := by
  simp only [readSides, Reader.result_bind_eq_some] at result
  obtain ⟨_, _, firstRead, _, _, patternRead, _, _, beforeRead, _, _,
    arrowRead, _, _, behindRead, _, _, replacementRead, _, _, lastRead, _,
    _, endRead, same⟩ := result
  cases same
  obtain ⟨first, firstEq, firstBlank⟩ := Reader.rest_of_skipping firstRead
  obtain ⟨patternEq, patternNeNil, patternProgram⟩ :=
    Reader.rest_of_symbols patternRead
  obtain ⟨before, beforeEq, beforeBlank⟩ :=
    Reader.rest_of_skipping beforeRead
  have arrowEq := Reader.rest_of_literal arrowRead
  obtain ⟨behind, behindEq, behindBlank⟩ :=
    Reader.rest_of_skipping behindRead
  obtain ⟨replacementEq, replacementNeNil, replacementProgram⟩ :=
    Reader.rest_of_symbols replacementRead
  obtain ⟨last, lastEq, lastBlank⟩ := Reader.rest_of_skipping lastRead
  rw [Reader.rest_of_atEnd endRead, List.append_nil] at lastEq
  refine ⟨patternNeNil, patternProgram, replacementNeNil,
    replacementProgram, first, before, behind, last, ?_, ?_⟩
  · rw [firstEq, patternEq, beforeEq, arrowEq, behindEq, replacementEq,
      lastEq]
  · simp only [List.forall_mem_cons]
    exact ⟨firstBlank, beforeBlank, behindBlank, lastBlank,
      List.forall_mem_nil _⟩

theorem AreSides.reads (areSides : AreSides text pattern replacement) :
    readSides.Reads text (· = (pattern, replacement)) [] := by
  obtain ⟨patternNeNil, patternProgram, replacementNeNil,
    replacementProgram, first, before, behind, last, rfl, blank⟩ := areSides
  simp only [List.forall_mem_cons] at blank
  obtain ⟨firstBlank, beforeBlank, behindBlank, lastBlank, -⟩ := blank
  have arrowStops (test : Char → Bool) (fails : test arrow = false)
      (rest : Text) : Text.Stops test ([arrow] ++ rest) :=
    Text.stops_cons_iff.mpr fails
  have patternStops :=
    Text.stops_space_of_isProgram patternProgram patternNeNil
  have replacementStops :=
    Text.stops_space_of_isProgram replacementProgram replacementNeNil
  have lastRead := Reader.reads_blanks lastBlank
    (Text.stops_nil Text.isSpaceOrTab)
  rw [List.append_nil] at lastRead
  apply (Reader.reads_blanks firstBlank (patternStops _)).bind
  intro _ _
  apply (Reader.reads_symbols patternProgram patternNeNil
    ((Text.stops_symbol_of_blanks beforeBlank).append
      (arrowStops _ rfl _))).bind
  rintro _ rfl
  apply (Reader.reads_blanks beforeBlank (arrowStops _ rfl _)).bind
  intro _ _
  apply (Reader.reads_literal [arrow] _).bind
  intro _ _
  apply (Reader.reads_blanks behindBlank (replacementStops _)).bind
  intro _ _
  apply (Reader.reads_symbols replacementProgram replacementNeNil
    (Text.stops_symbol_of_blanks lastBlank)).bind
  rintro _ rfl
  apply lastRead.bind
  intro _ _
  apply Reader.reads_atEnd.bind
  intro _ _
  exact Reader.reads_pure rfl

/-- The rules that are read from a line are those whose sides stand on it. -/
theorem ofLine?_eq_some_iff_areSides {line : Text} {rule : Rule} :
    ofLine? line = some rule ↔
      AreSides (Text.trim line) rule.pattern rule.replacement := by
  constructor
  · intro found
    unfold ofLine? at found
    split at found
    · cases found
    · next pattern replacement sidesRead =>
        obtain ⟨⟨_, after⟩, result, same⟩ :=
          Option.map_eq_some_iff.mp sidesRead
        cases same
        have areSides := areSides_of_readSides result
        cases makeEq : make pattern replacement with
        | error fault =>
            rw [makeEq] at found
            cases found
        | ok made =>
            rw [makeEq] at found
            cases found
            obtain ⟨rfl, rfl⟩ := sides_of_make makeEq
            exact areSides
  · intro areSides
    simp only [ofLine?, areSides.reads.read?_eq, make_sides,
      Except.toOption]

theorem isOverAlphabet_of_ofLine {line : Text} {rule : Rule}
    (found : ofLine? line = some rule) : rule.IsOverAlphabet := by
  have areSides := ofLine?_eq_some_iff_areSides.mp found
  exact ⟨areSides.pattern_program, areSides.replacement_program⟩

variable {rule : Rule}

theorem areSides_line (words : rule.IsOverAlphabet) :
    AreSides rule.line rule.pattern rule.replacement := by
  refine ⟨rule.pattern_ne_nil, words.pattern, rule.replacement_ne_nil,
    words.replacement, [], [' '], [' '], [], by simp [line], ?_⟩
  simp [Text.isSpaceOrTab]

theorem not_isBlank_of_getLast_line (words : rule.IsOverAlphabet) :
    ∀ character ∈ rule.line.getLast?, Text.isBlank character = false := by
  have lineEq : rule.line =
      rule.pattern ++ [' ', arrow, ' '] ++ rule.replacement := by
    simp [line]
  rw [lineEq, List.getLast?_append_of_ne_nil _ rule.replacement_ne_nil]
  intro character last
  exact Text.not_isBlank_of_isSymbol (List.all_eq_true.mp words.replacement
    character (List.mem_of_getLast? last))

theorem trim_line (words : rule.IsOverAlphabet) :
    Text.trim rule.line = rule.line := by
  apply Text.trim_of_stops
  · exact Text.stops_blank_of_isProgram words.pattern rule.pattern_ne_nil _
  · exact not_isBlank_of_getLast_line words

theorem newline_not_mem_line (words : rule.IsOverAlphabet) :
    '\n' ∉ rule.line := by
  have newlineNotSymbol : Text.isSymbol '\n' = false := rfl
  have notMem {side : Text} (program : Text.isProgram side = true) :
      '\n' ∉ side := by
    intro member
    have symbol := List.all_eq_true.mp program '\n' member
    rw [newlineNotSymbol] at symbol
    cases symbol
  simp [line, arrow, notMem words.pattern, notMem words.replacement]

/-- A rule is read back from its line. -/
theorem ofLine?_line (words : rule.IsOverAlphabet) :
    ofLine? rule.line = some rule := by
  rw [ofLine?_eq_some_iff_areSides, trim_line words]
  exact areSides_line words

end Rule

namespace RuleSet

variable {rules : RuleSet} {text : Text} {rule : Rule}

/-- The rules on the lines of a text are over the alphabet. -/
theorem isOverAlphabet_of_mem_ofText (member : rule ∈ ofText text) :
    rule.IsOverAlphabet := by
  obtain ⟨line, -, found⟩ := List.mem_filterMap.mp member
  exact Rule.isOverAlphabet_of_ofLine found

theorem isOverAlphabet_ofText (text : Text) : (ofText text).IsOverAlphabet :=
  fun _ => isOverAlphabet_of_mem_ofText

theorem ofText_append_cons (text others : Text) :
    ofText (text ++ '\n' :: others) = ofText text ++ ofText others := by
  rw [ofText, Text.splitOn_append_cons, List.filterMap_append]
  rfl

theorem ofText_toText (words : rules.IsOverAlphabet) :
    ofText (toText rules) = rules := by
  by_cases nothing : rules = []
  · subst nothing
    rfl
  · have oneLine : ∀ line ∈ rules.map Rule.line, '\n' ∉ line := by
      intro line listed
      obtain ⟨rule, member, rfl⟩ := List.mem_map.mp listed
      exact Rule.newline_not_mem_line (words rule member)
    have readBack : ∀ rule ∈ rules,
        (Rule.ofLine? ∘ Rule.line) rule = some rule := by
      intro rule member
      exact Rule.ofLine?_line (words rule member)
    rw [ofText, toText, Text.splitOn_eq,
      List.splitOn_intercalate '\n' oneLine (by simpa using nothing),
      List.filterMap_map, List.filterMap_congr readBack,
      List.filterMap_some]

/-- The rules that are read back from their text are those over the alphabet.
The rules of every text are, so writing and reading them again changes
nothing. -/
theorem ofText_toText_eq_self_iff (rules : RuleSet) (text : Text) :
    (ofText (toText rules) = rules ↔ rules.IsOverAlphabet) ∧
      (ofText text).IsOverAlphabet ∧
      ofText (toText (ofText text)) = ofText text := by
  refine ⟨⟨?_, ofText_toText⟩, isOverAlphabet_ofText text,
    ofText_toText (isOverAlphabet_ofText text)⟩
  intro same
  rw [← same]
  exact isOverAlphabet_ofText (toText rules)

end RuleSet

end TurtleSystems
