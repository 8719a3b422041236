import TurtleSystems.Proofs.Document.Acceptance
import TurtleSystems.Proofs.RuleLines.Language

/-!
# Documents as rule lines

A document can also be read as a text of rule lines.  This reading cuts lines
at line feeds only and takes all blanks off their ends, where the other one
knows three ends of a line and takes spaces and tabs off.  Both come to the
same lines if every carriage return belongs to a line feed.  Then the rules of
the document are found again on their lines, apart from those with a comment
behind them, and no other line of a document holds a rule.
-/

namespace TurtleSystems

section Trailing

/-- One line is the other one with blanks behind it. -/
def Text.Trails (line other : Text) : Prop :=
  ∃ blanks, (∀ character ∈ blanks, isBlank character = true) ∧
    line = other ++ blanks

variable {line other text blanks : Text} {lines others : List Text}
variable {character : Char}

theorem Text.Trails.refl (line : Text) : Text.Trails line line :=
  ⟨[], List.forall_mem_nil _, (List.append_nil line).symm⟩

theorem Text.Trails.cons (trails : Text.Trails line other)
    (character : Char) :
    Text.Trails (character :: line) (character :: other) := by
  obtain ⟨blanks, blank, rfl⟩ := trails
  exact ⟨blanks, blank, rfl⟩

theorem Text.trails_modifyHead
    (related : List.Forall₂ Text.Trails lines others) (character : Char) :
    List.Forall₂ Text.Trails (lines.modifyHead (character :: ·))
      (others.modifyHead (character :: ·)) := by
  cases related with
  | nil => exact .nil
  | cons here related => exact .cons (here.cons character) related

theorem Rule.ofLine?_of_trim_eq (same : Text.trim line = Text.trim other) :
    Rule.ofLine? line = Rule.ofLine? other := by
  rw [ofLine?, ofLine?, same]

theorem Rule.filterMap_ofLine_of_trails
    (related : List.Forall₂ Text.Trails lines others) :
    lines.filterMap Rule.ofLine? = others.filterMap Rule.ofLine? := by
  induction related with
  | nil => rfl
  | cons here _ ih =>
      obtain ⟨blanks, blank, rfl⟩ := here
      rw [List.filterMap_cons, List.filterMap_cons, ih,
        ofLine?_of_trim_eq (Text.trim_append_blanks blank _)]

/-- A blank in front of a text adds a line without a rule, or stands in front
of the first line. -/
theorem RuleSet.ofText_blank_cons (blank : Text.isBlank character = true)
    (text : Text) : ofText (character :: text) = ofText text := by
  rw [ofText, ofText, Text.splitOn_cons]
  split
  · rw [List.filterMap_cons_none]
    rfl
  · have inFront (line : Text) :
        Rule.ofLine? (character :: line) = Rule.ofLine? line :=
      Rule.ofLine?_of_trim_eq (Text.trim_append_of_blanks
        (List.forall_mem_singleton.mpr blank) line)
    cases Text.splitOn '\n' text with
    | nil => rfl
    | cons line lines =>
        rw [List.modifyHead_cons, List.filterMap_cons, List.filterMap_cons,
          inFront]

theorem Text.trails_splitOn_concat (blank : isBlank character = true)
    (inside : character ≠ '\n') (text : Text) :
    List.Forall₂ Trails (splitOn '\n' (text ++ [character]))
      (splitOn '\n' text) := by
  induction text with
  | nil =>
      rw [List.nil_append, splitOn_cons, if_neg inside]
      exact .cons ⟨[character], List.forall_mem_singleton.mpr blank, rfl⟩ .nil
  | cons first text ih =>
      rw [List.cons_append, splitOn_cons, splitOn_cons]
      split
      · exact .cons (Trails.refl []) ih
      · exact trails_modifyHead ih first

theorem RuleSet.ofText_concat_blank (blank : Text.isBlank character = true)
    (text : Text) : ofText (text ++ [character]) = ofText text := by
  by_cases lineFeed : character = '\n'
  · subst lineFeed
    have nothing : ofText [] = [] := rfl
    rw [ofText_append_cons, nothing, List.append_nil]
  · exact Rule.filterMap_ofLine_of_trails
      (Text.trails_splitOn_concat blank lineFeed text)

theorem RuleSet.ofText_blanks_append
    (blank : ∀ character ∈ blanks, Text.isBlank character = true)
    (text : Text) : ofText (blanks ++ text) = ofText text := by
  induction blanks with
  | nil => rfl
  | cons character blanks ih =>
      obtain ⟨here, blank⟩ := List.forall_mem_cons.mp blank
      rw [List.cons_append, ofText_blank_cons here, ih blank]

theorem RuleSet.ofText_append_blanks
    (blank : ∀ character ∈ blanks, Text.isBlank character = true)
    (text : Text) : ofText (text ++ blanks) = ofText text := by
  induction blanks generalizing text with
  | nil => rw [List.append_nil]
  | cons character blanks ih =>
      obtain ⟨here, blank⟩ := List.forall_mem_cons.mp blank
      rw [← List.singleton_append, ← List.append_assoc, ih blank,
        ofText_concat_blank here]

/-- A text is trimmed by taking blanks off both of its ends. -/
theorem Text.exists_trim (text : Text) :
    ∃ front back, text = front ++ (trim text ++ back) ∧
      (∀ character ∈ front, isBlank character = true) ∧
      ∀ character ∈ back, isBlank character = true := by
  refine ⟨text.takeWhile isBlank, (trimStart text).rtakeWhile isBlank, ?_,
    fun _ => passes_of_mem_takeWhile, fun _ => List.mem_rtakeWhile_imp⟩
  have startEq : trim text ++ (trimStart text).rtakeWhile isBlank =
      trimStart text := List.rdropWhile_append_rtakeWhile
  rw [startEq, trimStart, List.takeWhile_append_dropWhile]

/-- The rules on the lines of a text are those of the trimmed text. -/
theorem RuleSet.ofText_trim (text : Text) :
    ofText (Text.trim text) = ofText text := by
  obtain ⟨front, back, textEq, frontBlank, backBlank⟩ :=
    Text.exists_trim text
  conv => rhs; rw [textEq]
  rw [ofText_blanks_append frontBlank, ofText_append_blanks backBlank]

theorem Text.mem_trim_of_not_isBlank (member : character ∈ text)
    (noBlank : isBlank character = false) : character ∈ trim text := by
  obtain ⟨front, back, textEq, frontBlank, backBlank⟩ := exists_trim text
  rw [textEq] at member
  rcases List.mem_append.mp member with member | member
  · rw [frontBlank character member] at noBlank
    cases noBlank
  rcases List.mem_append.mp member with member | member
  · exact member
  · rw [backBlank character member] at noBlank
    cases noBlank

end Trailing

namespace Document

section Returns

variable {text : Text} {character : Char}

/-- Every carriage return stands in front of a line feed. -/
def HasPairedReturns (text : Text) : Prop :=
  ∀ before behind, text = before ++ '\r' :: behind →
    ∃ others, behind = '\n' :: others

theorem hasPairedReturns_iff :
    HasPairedReturns text ↔ ∀ index < text.length,
      text[index]? = some '\r' → text[index + 1]? = some '\n' := by
  constructor
  · intro paired index indexLt found
    obtain ⟨_, returnEq⟩ := List.getElem?_eq_some_iff.mp found
    have textEq : text = text.take index ++ '\r' :: text.drop (index + 1) := by
      rw [← returnEq, ← List.drop_eq_getElem_cons, List.take_append_drop]
    obtain ⟨others, behindEq⟩ := paired _ _ textEq
    rw [← List.head?_drop, behindEq]
    rfl
  · rintro paired before behind rfl
    have found := paired before.length (by simp) (by simp)
    have behindIndex : before.length + 1 - before.length = 1 := by omega
    rw [List.getElem?_append_right (Nat.le_succ _), behindIndex,
      List.getElem?_cons_succ] at found
    cases behind with
    | nil => cases found
    | cons first behind =>
        cases found
        exact ⟨behind, rfl⟩

instance : DecidablePred HasPairedReturns := fun _ =>
  decidable_of_iff _ hasPairedReturns_iff.symm

theorem HasPairedReturns.of_cons
    (paired : HasPairedReturns (character :: text)) :
    HasPairedReturns text := by
  rintro before behind rfl
  exact paired (character :: before) behind rfl

/-- No carriage return at the end of a text loses its line feed by
trimming. -/
theorem HasPairedReturns.trim (paired : HasPairedReturns text) :
    HasPairedReturns (Text.trim text) := by
  intro before behind trimmed
  obtain ⟨front, back, textEq, -, -⟩ := Text.exists_trim text
  have textSplit : text = (front ++ before) ++ '\r' :: (behind ++ back) := by
    rw [trimmed] at textEq
    simpa only [List.append_assoc, List.cons_append] using textEq
  obtain ⟨others, behindEq⟩ := paired _ _ textSplit
  cases behind with
  | nil =>
      have returnBlank : ∀ character ∈ ['\r'],
          Text.isBlank character = true := List.forall_mem_singleton.mpr rfl
      cases Text.eq_nil_of_trim_eq_append_blanks returnBlank trimmed
  | cons first behind =>
      rw [List.cons_append] at behindEq
      obtain ⟨rfl, -⟩ := List.cons.inj behindEq
      exact ⟨behind, rfl⟩

/-- Between line feeds there are the same lines, some of them with the carriage
return of their end behind them. -/
theorem HasPairedReturns.trails_lines (paired : HasPairedReturns text) :
    List.Forall₂ Text.Trails (Text.splitOn '\n' text) (lines text) := by
  induction text using lines.induct with
  | case1 => exact .cons (Text.Trails.refl []) .nil
  | case2 text ih =>
      have returnBlank : ∀ character ∈ ['\r'],
          Text.isBlank character = true := List.forall_mem_singleton.mpr rfl
      rw [lines, Text.splitOn_cons, if_neg (by decide), Text.splitOn_cons,
        if_pos rfl, List.modifyHead_cons]
      exact .cons ⟨['\r'], returnBlank, rfl⟩ (ih paired.of_cons.of_cons)
  | case3 character text noPair ends ih =>
      rcases eq_of_isLineEnd ends with rfl | rfl
      · rw [Text.splitOn_cons, if_pos rfl, lines_of_afterLineEnd rfl]
        exact .cons (Text.Trails.refl []) (ih paired.of_cons)
      · obtain ⟨others, rfl⟩ := paired [] text rfl
        exact absurd rfl (noPair others rfl)
  | case4 character text noPair inside ih =>
      have notEnd : isLineEnd character = false := by simpa using inside
      have notFeed : character ≠ '\n' := by
        rintro rfl
        cases notEnd
      rw [Text.splitOn_cons, if_neg notFeed, lines_cons notEnd]
      exact Text.trails_modifyHead (ih paired.of_cons) character

theorem HasPairedReturns.ofText_eq (paired : HasPairedReturns text) :
    RuleSet.ofText text =
      (lines (Text.trim text)).filterMap Rule.ofLine? := by
  rw [← RuleSet.ofText_trim]
  exact Rule.filterMap_ofLine_of_trails paired.trim.trails_lines

end Returns

section Lines

variable {line content : Text} {rule : Rule} {part : Section}
variable {production : Production} {character : Char}

/-- The characters of which the line of a production is made up. -/
theorem ProductionLine.character_cases
    (isProduction : ProductionLine content production)
    (member : character ∈ content) :
    Text.isSymbol character = true ∨ Text.isSpaceOrTab character = true ∨
      character = Rule.arrow := by
  obtain ⟨before, behind, rfl, beforeBlank, behindBlank, -, patternProgram,
    -, replacementProgram⟩ := isProduction
  simp only [List.mem_append, List.mem_cons] at member
  rcases member with member | member | rfl | member | member
  · exact .inl (List.all_eq_true.mp patternProgram character member)
  · exact .inr (.inl (beforeBlank character member))
  · exact .inr (.inr rfl)
  · exact .inr (.inl (behindBlank character member))
  · exact .inl (List.all_eq_true.mp replacementProgram character member)

/-- A character that belongs to no rule keeps every rule off its line. -/
theorem ofLine?_eq_none_of_mem (member : character ∈ line)
    (noBlank : Text.isBlank character = false)
    (noSymbol : Text.isSymbol character = false)
    (noArrow : character ≠ Rule.arrow) : Rule.ofLine? line = none := by
  rw [Rule.ofLine?_eq_none_iff]
  intro rule isOn
  have inTrim := Text.mem_trim_of_not_isBlank member noBlank
  rcases ProductionLine.character_cases isOn inTrim with symbol | space | arrow
  · rw [noSymbol] at symbol
    cases symbol
  · rw [Text.isBlank_of_isSpaceOrTab space] at noBlank
    cases noBlank
  · exact noArrow arrow

theorem ofLine?_of_commentMark (mark : '#' ∈ line) :
    Rule.ofLine? line = none :=
  ofLine?_eq_none_of_mem mark rfl rfl (by decide)

theorem takeWhile_of_no_commentMark (noMark : '#' ∉ line) :
    line.takeWhile (!isCommentMark ·) = line := by
  refine List.takeWhile_eq_self_iff.mpr fun character member => ?_
  rw [Bool.not_eq_true', Bool.eq_false_iff, Ne, isCommentMark_iff]
  rintro rfl
  exact noMark member

theorem trim_strip (text : Text) : Text.trim (strip text) = Text.trim text := by
  have whole : strip text ++
      (text.dropWhile Text.isSpaceOrTab).rtakeWhile Text.isSpaceOrTab =
        text.dropWhile Text.isSpaceOrTab :=
    List.rdropWhile_append_rtakeWhile
  have blank : ∀ character ∈
      (text.dropWhile Text.isSpaceOrTab).rtakeWhile Text.isSpaceOrTab,
      Text.isBlank character = true := fun _ member =>
    Text.isBlank_of_isSpaceOrTab (List.mem_rtakeWhile_imp member)
  rw [← Text.trim_append_blanks blank, whole, Text.trim_dropWhile_space]

theorem ProductionLine.trim_eq
    (isProduction : ProductionLine content production) :
    Text.trim content = content := by
  obtain ⟨before, behind, rfl, -, -, patternNeNil, patternProgram,
    replacementNeNil, replacementProgram⟩ := isProduction
  apply Text.trim_of_stops
  · exact Text.stops_blank_of_isProgram patternProgram patternNeNil _
  · intro character last
    have textEq : production.pattern ++
        (before ++ Rule.arrow :: (behind ++ production.replacement)) =
          production.pattern ++ (before ++ Rule.arrow :: behind) ++
            production.replacement := by
      simp
    rw [textEq, List.getLast?_append_of_ne_nil _ replacementNeNil] at last
    exact Text.not_isBlank_of_isSymbol (List.all_eq_true.mp
      replacementProgram character (List.mem_of_getLast? last))

/-- A rule of a document is found again on its line, if nothing is behind
it. -/
theorem ofLine?_of_productionLine (noMark : '#' ∉ line)
    (isProduction : ProductionLine (body line) (sides rule)) :
    Rule.ofLine? line = some rule := by
  have trimmed := isProduction.trim_eq
  rw [body, takeWhile_of_no_commentMark noMark] at trimmed isProduction
  rw [trim_strip] at trimmed
  rw [Rule.ofLine?_eq_some_iff, Rule.IsOn, trimmed]
  exact isProduction

theorem ofLine?_of_mem_body (member : character ∈ body line)
    (noBlank : Text.isBlank character = false)
    (noSymbol : Text.isSymbol character = false)
    (noArrow : character ≠ Rule.arrow) : Rule.ofLine? line = none :=
  ofLine?_eq_none_of_mem (mem_of_mem_body member).1 noBlank noSymbol noArrow

/-- The line of a section holds no rule, whatever its label is. -/
theorem ofLine?_of_sectionLine (isSection : SectionLine (body line) part) :
    Rule.ofLine? line = none := by
  cases part with
  | name name =>
      obtain ⟨blanks, label, bodyEq, -⟩ := isSection
      have member : 'n' ∈ body line := by simp [bodyEq, nameHeading]
      exact ofLine?_of_mem_body member rfl rfl (by decide)
  | seed word =>
      obtain ⟨blanks, bodyEq, -⟩ := isSection
      have member : 's' ∈ body line := by simp [bodyEq, seedHeading]
      exact ofLine?_of_mem_body member rfl rfl (by decide)

theorem ofLine?_of_rulesHeading (isHeading : body line = rulesHeading) :
    Rule.ofLine? line = none := by
  have member : 'r' ∈ body line := by simp [isHeading, rulesHeading]
  exact ofLine?_of_mem_body member rfl rfl (by decide)

theorem ofLine?_of_body_eq_nil (nothing : body line = []) :
    Rule.ofLine? line = none := by
  by_cases mark : '#' ∈ line
  · exact ofLine?_of_commentMark mark
  · rw [body, takeWhile_of_no_commentMark mark] at nothing
    have trimmed := trim_strip line
    rw [nothing] at trimmed
    rw [← Rule.ofLine?_of_trim_eq trimmed]
    rfl

end Lines

section Readings

variable {text : Text} {lines : List Text} {rules : RuleSet}

/-- On the lines of rules, those with a comment drop out. -/
theorem filterMap_ofLine_of_productionLines
    (isRules : List.Forall₂
      (fun line rule => ProductionLine (body line) (sides rule))
      lines rules) :
    lines.filterMap Rule.ofLine? =
      ((lines.zip rules).filter fun (line, _) => '#' ∉ line).map Prod.snd := by
  induction isRules with
  | nil => rfl
  | @cons line rule lines rules here _ ih =>
      rw [List.zip_cons_cons]
      by_cases mark : '#' ∈ line
      · rw [List.filterMap_cons_none (ofLine?_of_commentMark mark), ih,
          List.filter_cons_of_neg (by simpa using mark)]
      · rw [List.filterMap_cons_some (ofLine?_of_productionLine mark here), ih,
          List.filter_cons_of_pos (by simpa using mark), List.map_cons]

theorem filterMap_ofLine_of_sectionLines {sections : List Section}
    (isHeader : List.Forall₂ (fun line part => SectionLine (body line) part)
      lines sections) : lines.filterMap Rule.ofLine? = [] := by
  induction isHeader with
  | nil => rfl
  | cons here _ ih =>
      rw [List.filterMap_cons_none (ofLine?_of_sectionLine here), ih]

/-- Lines without a body hold no rule. -/
theorem filterMap_ofLine_filter_body (lines : List Text) :
    (lines.filter fun line => !(body line).isEmpty).filterMap Rule.ofLine? =
      lines.filterMap Rule.ofLine? := by
  rw [List.filterMap_filter]
  refine List.filterMap_congr fun line _ => ?_
  split
  · rfl
  · next nothing =>
      exact (ofLine?_of_body_eq_nil (by simpa using nothing)).symm

/-- The lines of a document that count: those of its sections, the heading of
its rules, and one line for each rule. -/
structure HasLines (text : Text) (sections : List Section) (rules : RuleSet)
    (header : List Text) (heading : Text) (productions : List Text) :
    Prop where
  lines_eq : (Document.lines (Text.trim text)).filter
      (fun line => !(body line).isEmpty) = header ++ heading :: productions
  isHeader : List.Forall₂ (fun line part => SectionLine (body line) part)
    header sections
  isHeading : body heading = rulesHeading
  isRules : List.Forall₂
    (fun line rule => ProductionLine (body line) (sides rule))
    productions rules

theorem exists_hasLines_of_describes {system : LSystem}
    (describes : Describes text system) :
    ∃ sections header heading productions,
      HasLines text sections system.rules header heading productions := by
  obtain ⟨-, headers, sections, bodiesOfRules, bodiesEq, isHeader, -, -,
    isRules⟩ := describes
  rw [bodies, List.filter_map] at bodiesEq
  obtain ⟨header, rest, linesEq, rfl, restEq⟩ :=
    List.map_eq_append_iff.mp bodiesEq
  obtain ⟨heading, productions, rfl, isHeading, rfl⟩ :=
    List.map_eq_cons_iff.mp restEq
  exact ⟨sections, header, heading, productions, linesEq,
    List.forall₂_map_left_iff.mp isHeader, isHeading,
    List.forall₂_map_left_iff.mp isRules⟩

/-- The strict and the lenient reading of a document agree.  If every carriage
return stands in front of a line feed, the rules on the lines of a document
are those of the system that is read, in their order, but for the rules whose
line has a comment.  The lines of the sections, the heading of the rules and
lines without a body give no rule. -/
theorem ofText_of_read {system : LSystem} (paired : HasPairedReturns text)
    (found : read text = .ok system) :
    ∃ sections header heading productions,
      HasLines text sections system.rules header heading productions ∧
      RuleSet.ofText text =
        ((productions.zip system.rules).filter
          fun (line, _) => '#' ∉ line).map Prod.snd ∧
      (∀ line ∈ header ++ [heading], Rule.ofLine? line = none) ∧
      ∀ line, body line = [] → Rule.ofLine? line = none := by
  obtain ⟨sections, header, heading, productions, hasLines⟩ :=
    exists_hasLines_of_describes (describes_of_read found)
  have headerNil := filterMap_ofLine_of_sectionLines hasLines.isHeader
  have headingNone := ofLine?_of_rulesHeading hasLines.isHeading
  refine ⟨sections, header, heading, productions, hasLines, ?_, ?_,
    fun line => ofLine?_of_body_eq_nil⟩
  · rw [paired.ofText_eq, ← filterMap_ofLine_filter_body, hasLines.lines_eq,
      List.filterMap_append, headerNil, List.filterMap_cons_none headingNone,
      List.nil_append]
    exact filterMap_ofLine_of_productionLines hasLines.isRules
  · rw [List.forall_mem_append, List.forall_mem_singleton]
    exact ⟨List.filterMap_eq_nil_iff.mp headerNil, headingNone⟩

/-- A document with a comment behind its name and behind the first of its two
rules, and with a no-break space behind the second. -/
def commented : Text :=
  Text.ofString ("name: f # f → g\r\nrules:\r\n  f → ff # twice\r\n" ++
    "\tg → f \u00a0\r\n")

/-- Of its rules only the second is found leniently. -/
theorem ofText_of_read_commented :
    let doubling : Rule :=
      ⟨['f'], ['f', 'f'], by decide, by decide, by decide⟩
    let drawing : Rule := ⟨['g'], ['f'], by decide, by decide, by decide⟩
    HasPairedReturns commented ∧
      read commented = .ok ⟨['f'], none, [doubling, drawing]⟩ ∧
      RuleSet.ofText commented = [drawing] ∧
      ∃ sections header heading productions,
        HasLines commented sections [doubling, drawing] header heading
          productions ∧
        ((productions.zip [doubling, drawing]).filter
          fun (line, _) => '#' ∉ line).map Prod.snd = [drawing] := by
  intro doubling drawing
  have paired : HasPairedReturns commented := by decide
  have found : read commented = .ok ⟨['f'], none, [doubling, drawing]⟩ := by
    decide
  have lenient : RuleSet.ofText commented = [drawing] := by decide
  obtain ⟨sections, header, heading, productions, hasLines, ofTextEq, -⟩ :=
    ofText_of_read paired found
  rw [lenient] at ofTextEq
  exact ⟨paired, found, lenient, sections, header, heading, productions,
    hasLines, ofTextEq.symm⟩

end Readings

end Document

end TurtleSystems
