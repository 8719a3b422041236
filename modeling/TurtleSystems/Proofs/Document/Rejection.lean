import TurtleSystems.Proofs.Document.Places

/-!
# Why a text is not a document

Several things may be wrong with a text at once.  The first of them that
applies is reported: the size, the grammar, the first line that repeats a
section or maps a pattern to itself, then the missing name, the missing
heading of the rules, and the missing rules.  Lines are looked at in the order
of the document, each with the lines before it.
-/

namespace TurtleSystems.Document

/-- A section stands on one of the lines. -/
def HasSection (lines : List Text) (part : Section) : Prop :=
  ∃ line ∈ lines, SectionLine line part

/-- A production stands on one of the lines. -/
def HasProduction (lines : List Text) : Prop :=
  ∃ line ∈ lines, ∃ production, ProductionLine line production

/-- What may not stand on a line, behind the lines before it. -/
inductive Offends (earlier : List Text) (line : Text) : Offence → Prop where
  | repeatedName {name other : Text}
      (isName : SectionLine line (.name name))
      (named : HasSection earlier (.name other)) :
      Offends earlier line .repeatedName
  | repeatedSeed {word other : Text}
      (isSeed : SectionLine line (.seed word))
      (seeded : HasSection earlier (.seed other)) :
      Offends earlier line .repeatedSeed
  | selfMapping {side : Text}
      (isProduction : ProductionLine line ⟨side, side⟩) :
      Offends earlier line (.rule (.selfMapping side))

/-- The first of some lines that offends, where it stands. -/
inductive FirstOffence :
    (earlier : List Text) → List Standing → Offence → Standing → Prop where
  | here {earlier : List Text} {standing : Standing} {later : List Standing}
      {offence : Offence} (offends : Offends earlier standing.line offence) :
      FirstOffence earlier (standing :: later) offence standing
  | later {earlier : List Text} {standing found : Standing}
      {others : List Standing} {offence : Offence}
      (clean : ∀ other, ¬ Offends earlier standing.line other)
      (first : FirstOffence (earlier ++ [standing.line]) others offence
        found) :
      FirstOffence earlier (standing :: others) offence found

/-- None of some lines offends, behind earlier lines and those before it. -/
def NoOffence (earlier lines : List Text) : Prop :=
  ∀ before line later, lines = before ++ line :: later →
    ∀ offence, ¬ Offends (earlier ++ before) line offence

/-- The lines of a document are those of an outline. -/
def IsWellFormed (document : Text) : Prop :=
  ∃ sections productions, IsOutline (bodies document) sections productions

/-- Where a line of a document starts. -/
def Standing.start (standing : Standing) (document : Text) : Position :=
  .ofOffset document (document.length - standing.onward.length)

/-- Nothing is wrong with what stands in a text. -/
structure Passes (text : Text) : Prop where
  fits : Text.byteLength text ≤ maximumSize
  wellFormed : IsWellFormed (Text.trim text)
  no_offence : NoOffence [] (bodies (Text.trim text))

/-- What reading a text has to come to: to the first fault that applies, or to
a system where none does. -/
structure Verdict (text : Text) (outcome : Except Fault LSystem) : Prop where
  too_large : maximumSize < Text.byteLength text →
    outcome = .error .tooLarge
  bad_syntax : Text.byteLength text ≤ maximumSize →
    ¬ IsWellFormed (Text.trim text) →
    ∃ place, outcome = .error (.badSyntax place)
  first_offence : Text.byteLength text ≤ maximumSize →
    IsWellFormed (Text.trim text) →
    ∀ offence standing,
      FirstOffence [] (standings (Text.trim text)) offence standing →
      ∃ stop, outcome = .error
        (.offence offence (standing.start (Text.trim text)) stop)
  missing_name : Passes text →
    (∀ name, ¬ HasSection (bodies (Text.trim text)) (.name name)) →
    outcome = .error .missingName
  missing_rules : Passes text →
    ∀ name, HasSection (bodies (Text.trim text)) (.name name) →
    rulesHeading ∉ bodies (Text.trim text) →
    outcome = .error .missingRules
  no_rules : Passes text →
    ∀ name, HasSection (bodies (Text.trim text)) (.name name) →
    rulesHeading ∈ bodies (Text.trim text) →
    ¬ HasProduction (bodies (Text.trim text)) →
    outcome = .error (.noRules name)
  accepts_iff : (∃ system, outcome = .ok system) ↔
    Passes text ∧ (∃ name, HasSection (bodies (Text.trim text)) (.name name)) ∧
      rulesHeading ∈ bodies (Text.trim text) ∧
      HasProduction (bodies (Text.trim text))

section Lines

variable {line : Text} {production : Production}

theorem not_sectionLine_of_productionLine
    (isProduction : ProductionLine line production) (part : Section) :
    ¬ SectionLine line part := by
  obtain ⟨_, -, patternNeNil, -⟩ := (productionLine_iff production).mp
    isProduction
  refine not_sectionLine ?_ ?_ part
  · rintro ⟨rest, rfl⟩
    exact patternNeNil rfl
  · rintro ⟨rest, rfl⟩
    exact patternNeNil rfl

theorem not_productionLine_rulesHeading (production : Production) :
    ¬ ProductionLine rulesHeading production := by
  intro isProduction
  obtain ⟨_, -, patternNeNil, -⟩ := (productionLine_iff production).mp
    isProduction
  exact patternNeNil rfl

end Lines

section Offences

variable {earlier first second lines : List Text} {line : Text}
variable {offence : Offence}

theorem not_offends_rulesHeading : ¬ Offends earlier rulesHeading offence := by
  rintro (⟨isName, -⟩ | ⟨isSeed, -⟩ | ⟨isProduction⟩)
  · exact not_sectionLine_rulesHeading _ isName
  · exact not_sectionLine_rulesHeading _ isSeed
  · exact not_productionLine_rulesHeading _ isProduction

theorem noOffence_nil : NoOffence earlier [] := by
  intro before line later nilEq
  simp at nilEq

theorem noOffence_cons_iff :
    NoOffence earlier (line :: lines) ↔
      (∀ offence, ¬ Offends earlier line offence) ∧
        NoOffence (earlier ++ [line]) lines := by
  constructor
  · intro none
    refine ⟨fun offence => ?_, ?_⟩
    · have here := none [] line lines rfl offence
      rwa [List.append_nil] at here
    · rintro before other later rfl offence
      have there := none (line :: before) other later rfl offence
      rwa [← List.singleton_append, ← List.append_assoc] at there
  · rintro ⟨here, none⟩ before other later linesEq offence
    cases before with
    | nil =>
        obtain ⟨rfl, -⟩ := List.cons.inj linesEq
        rw [List.append_nil]
        exact here offence
    | cons first before =>
        obtain ⟨rfl, rfl⟩ := List.cons.inj linesEq
        have there := none before other later rfl offence
        rwa [List.append_assoc, List.singleton_append] at there

theorem noOffence_append_iff :
    NoOffence earlier (first ++ second) ↔
      NoOffence earlier first ∧ NoOffence (earlier ++ first) second := by
  induction first generalizing earlier with
  | nil => simp [noOffence_nil]
  | cons line first ih =>
      rw [List.cons_append, noOffence_cons_iff, noOffence_cons_iff, ih,
        List.append_assoc, List.singleton_append, and_assoc]

variable {before behind : List Standing} {found : Standing}

/-- If some of the lines offend, there is a first one. -/
theorem exists_firstOffence
    (someOffence : ¬ NoOffence earlier (before.map (·.line))) :
    ∃ offence found, FirstOffence earlier before offence found := by
  induction before generalizing earlier with
  | nil => exact absurd noOffence_nil someOffence
  | cons standing before ih =>
      rw [List.map_cons, noOffence_cons_iff] at someOffence
      by_cases clean : ∀ offence, ¬ Offends earlier standing.line offence
      · obtain ⟨offence, found, first⟩ :=
          ih fun none => someOffence ⟨clean, none⟩
        exact ⟨offence, found, .later clean first⟩
      · obtain ⟨offence, offends⟩ := not_forall_not.mp clean
        exact ⟨offence, standing, .here offends⟩

theorem FirstOffence.append_cases
    (first : FirstOffence earlier (before ++ behind) offence found) :
    FirstOffence earlier before offence found ∨
      (NoOffence earlier (before.map (·.line)) ∧
        FirstOffence (earlier ++ before.map (·.line)) behind offence
          found) := by
  induction before generalizing earlier with
  | nil =>
      right
      rw [List.map_nil, List.append_nil]
      exact ⟨noOffence_nil, first⟩
  | cons standing before ih =>
      cases first with
      | here offends => exact .inl (.here offends)
      | later clean first =>
          rcases ih first with inFront | ⟨none, after⟩
          · exact .inl (.later clean inFront)
          · right
            rw [List.append_assoc, List.singleton_append] at after
            exact ⟨noOffence_cons_iff.mpr ⟨clean, none⟩, after⟩

end Offences

section Headers

variable {earlier others : List Text} {line : Text} {header : Header}
variable {part : Located Section} {offence : Offence}

/-- A header holds the name and the seed of the lines that were read. -/
structure Header.Sums (header : Header) (lines : List Text) : Prop where
  name_iff : ∀ name, header.name = some name ↔ HasSection lines (.name name)
  seed_iff : ∀ word, header.seed = some word ↔ HasSection lines (.seed word)

theorem header_sums_nil : Header.Sums ⟨none, none⟩ [] where
  name_iff name := by simp [HasSection]
  seed_iff word := by simp [HasSection]

theorem hasSection_append_iff {part : Section} :
    HasSection (earlier ++ others) part ↔
      HasSection earlier part ∨ HasSection others part := by
  simp only [HasSection, List.mem_append, or_and_right, exists_or]

theorem hasSection_singleton_iff {part other : Section}
    (isSection : SectionLine line part) :
    HasSection [line] other ↔ other = part := by
  simp only [HasSection, List.mem_singleton, exists_eq_left]
  exact ⟨(·.unique isSection), fun same => by rwa [same]⟩

/-- A section that comes again is an offence. -/
theorem add_of_offends (sums : header.Sums earlier)
    (isSection : SectionLine line part.value.trimmed)
    (offends : Offends earlier line offence) :
    header.add part = .error ⟨offence, part.start, part.stop⟩ := by
  obtain ⟨value, start, stop⟩ := part
  cases offends with
  | repeatedName isName named =>
      have headerName := (sums.name_iff _).mpr named
      cases value with
      | name label => simp [Header.add, headerName]
      | seed word => cases isName.unique isSection
  | repeatedSeed isSeed seeded =>
      have headerSeed := (sums.seed_iff _).mpr seeded
      cases value with
      | name label => cases isSeed.unique isSection
      | seed word => simp [Header.add, headerSeed]
  | selfMapping isProduction =>
      exact absurd isSection (not_sectionLine_of_productionLine isProduction _)

theorem exists_add_of_clean (sums : header.Sums earlier)
    (isSection : SectionLine line part.value.trimmed)
    (clean : ∀ offence, ¬ Offends earlier line offence) :
    ∃ next, header.add part = .ok next ∧ next.Sums (earlier ++ [line]) := by
  obtain ⟨value, start, stop⟩ := part
  cases value with
  | name label =>
      have unnamed : header.name = none := by
        cases headerName : header.name with
        | none => rfl
        | some other =>
            exact absurd (.repeatedName isSection
              ((sums.name_iff other).mp headerName)) (clean _)
      refine ⟨{ header with name := some (Text.trim label) },
        by simp [Header.add, unnamed], fun name => ?_, fun word => ?_⟩
      · rw [hasSection_append_iff, hasSection_singleton_iff isSection,
          ← sums.name_iff, unnamed]
        simp [eq_comm]
      · rw [hasSection_append_iff, hasSection_singleton_iff isSection,
          ← sums.seed_iff]
        simp
  | seed word =>
      have unseeded : header.seed = none := by
        cases headerSeed : header.seed with
        | none => rfl
        | some other =>
            exact absurd (.repeatedSeed isSection
              ((sums.seed_iff other).mp headerSeed)) (clean _)
      refine ⟨{ header with seed := some word },
        by simp [Header.add, unseeded], fun name => ?_, fun other => ?_⟩
      · rw [hasSection_append_iff, hasSection_singleton_iff isSection,
          ← sums.name_iff]
        simp
      · rw [hasSection_append_iff, hasSection_singleton_iff isSection,
          ← sums.seed_iff, unseeded]
        simp [eq_comm]

variable {length : Nat} {lines : List Standing} {standing : Standing}
variable {parts : List (Located Section)}

/-- The first offence stops the reading of the sections, where it stands. -/
theorem foldlM_add_of_firstOffence (sums : header.Sums earlier)
    (sectionsAt : List.Forall₂ (SectionAt length) lines parts)
    (first : FirstOffence earlier lines offence standing) :
    ∃ start stop, parts.foldlM Header.add header =
        .error ⟨offence, start, stop⟩ ∧
      start + standing.onward.length = length := by
  -- The header sums up the clean lines up to the one that offends.
  induction first generalizing header parts with
  | here offends =>
      obtain ⟨part, others, ⟨isSection, startEq⟩, -, rfl⟩ :=
        List.forall₂_cons_left_iff.mp sectionsAt
      refine ⟨part.start, part.stop, ?_, startEq⟩
      rw [List.foldlM_cons, add_of_offends sums isSection offends]
      rfl
  | later clean _ ih =>
      obtain ⟨part, others, ⟨isSection, -⟩, othersAt, rfl⟩ :=
        List.forall₂_cons_left_iff.mp sectionsAt
      obtain ⟨next, added, sums⟩ := exists_add_of_clean sums isSection clean
      rw [List.foldlM_cons, added]
      exact ih sums othersAt

theorem exists_foldlM_add_of_noOffence (sums : header.Sums earlier)
    (sectionsAt : List.Forall₂ (SectionAt length) lines parts)
    (none : NoOffence earlier (lines.map (·.line))) :
    ∃ next, parts.foldlM Header.add header = .ok next ∧
      next.Sums (earlier ++ lines.map (·.line)) := by
  induction sectionsAt generalizing header earlier with
  | nil => exact ⟨header, rfl, by simpa using sums⟩
  | cons sectionAt _ ih =>
      obtain ⟨clean, none⟩ := noOffence_cons_iff.mp none
      obtain ⟨next, added, sums⟩ := exists_add_of_clean sums sectionAt.1 clean
      rw [List.foldlM_cons, added, List.map_cons, ← List.singleton_append,
        ← List.append_assoc]
      exact ih sums none

end Headers

section Rules

variable {earlier : List Text} {line : Text} {offence : Offence}
variable {part : Located Production} {length : Nat}
variable {lines : List Standing} {standing : Standing}
variable {parts : List (Located Production)}

/-- A production with equal sides is an offence. -/
theorem rule_of_offends (isProduction : ProductionLine line part.value)
    (offends : Offends earlier line offence) :
    Production.rule part = .error ⟨offence, part.start, part.stop⟩ := by
  cases offends with
  | repeatedName isName =>
      exact absurd isName (not_sectionLine_of_productionLine isProduction _)
  | repeatedSeed isSeed =>
      exact absurd isSeed (not_sectionLine_of_productionLine isProduction _)
  | selfMapping isSelf =>
      have same := isProduction.unique isSelf
      obtain ⟨_, _, -, -, -, sideNeNil, -⟩ := isSelf
      have sideNeNil : _ ≠ [] := sideNeNil
      simp [Production.rule, same, Rule.make, sideNeNil]

theorem exists_rule_of_clean (isProduction : ProductionLine line part.value)
    (clean : ∀ offence, ¬ Offends earlier line offence) :
    ∃ rule, Production.rule part = .ok rule := by
  obtain ⟨⟨pattern, replacement⟩, start, stop⟩ := part
  have different : pattern ≠ replacement := by
    rintro rfl
    exact clean _ (.selfMapping isProduction)
  obtain ⟨_, _, -, -, -, patternNeNil, -, replacementNeNil, -⟩ :=
    isProduction
  exact ⟨⟨pattern, replacement, patternNeNil, replacementNeNil,
    different⟩, rule_eq_ok_iff.mpr rfl⟩

theorem mapM_rule_of_firstOffence
    (productionsAt : List.Forall₂ (ProductionAt length) lines parts)
    (first : FirstOffence earlier lines offence standing) :
    ∃ start stop, parts.mapM Production.rule =
        .error ⟨offence, start, stop⟩ ∧
      start + standing.onward.length = length := by
  induction first generalizing parts with
  | here offends =>
      obtain ⟨part, others, ⟨isProduction, startEq⟩, -, rfl⟩ :=
        List.forall₂_cons_left_iff.mp productionsAt
      refine ⟨part.start, part.stop, ?_, startEq⟩
      rw [List.mapM_cons, rule_of_offends isProduction offends]
      rfl
  | later clean _ ih =>
      obtain ⟨part, others, ⟨isProduction, -⟩, othersAt, rfl⟩ :=
        List.forall₂_cons_left_iff.mp productionsAt
      obtain ⟨rule, made⟩ := exists_rule_of_clean isProduction clean
      obtain ⟨start, stop, failed, startEq⟩ := ih othersAt
      refine ⟨start, stop, ?_, startEq⟩
      rw [List.mapM_cons, made, failed]
      rfl

theorem exists_mapM_rule_of_noOffence
    (productionsAt : List.Forall₂ (ProductionAt length) lines parts)
    (none : NoOffence earlier (lines.map (·.line))) :
    ∃ rules, parts.mapM Production.rule = .ok rules ∧
      (rules = [] ↔ lines = []) := by
  induction productionsAt generalizing earlier with
  | nil => exact ⟨[], rfl, by simp⟩
  | cons productionAt _ ih =>
      obtain ⟨clean, none⟩ := noOffence_cons_iff.mp none
      obtain ⟨rule, made⟩ := exists_rule_of_clean productionAt.1 clean
      obtain ⟨rules, mapped, -⟩ := ih none
      refine ⟨rule :: rules, ?_, by simp⟩
      rw [List.mapM_cons, made, mapped]
      rfl

end Rules

section Kinds

variable {header rules : List Text}

theorem rulesHeading_not_mem
    (isHeader : ∀ line ∈ header, ∃ part, SectionLine line part) :
    rulesHeading ∉ header := by
  intro member
  obtain ⟨part, isSection⟩ := isHeader _ member
  exact not_sectionLine_rulesHeading part isSection

/-- Sections stand in front of the rules only. -/
theorem hasSection_rules_iff
    (isRules : ∀ line ∈ rules, ∃ production, ProductionLine line production)
    (part : Section) :
    HasSection (header ++ rulesHeading :: rules) part ↔
      HasSection header part := by
  rw [hasSection_append_iff, or_iff_left]
  rintro ⟨line, member, isSection⟩
  rcases List.mem_cons.mp member with rfl | member
  · exact not_sectionLine_rulesHeading _ isSection
  · obtain ⟨production, isProduction⟩ := isRules line member
    exact not_sectionLine_of_productionLine isProduction _ isSection

/-- Productions stand under the heading of the rules only. -/
theorem hasProduction_rules_iff
    (isHeader : ∀ line ∈ header, ∃ part, SectionLine line part)
    (isRules : ∀ line ∈ rules, ∃ production, ProductionLine line production) :
    HasProduction (header ++ rulesHeading :: rules) ↔ rules ≠ [] := by
  constructor
  · rintro ⟨line, member, production, isProduction⟩ rfl
    rcases List.mem_append.mp member with member | member
    · obtain ⟨part, isSection⟩ := isHeader line member
      exact not_sectionLine_of_productionLine isProduction part isSection
    · rw [List.mem_singleton.mp member] at isProduction
      exact not_productionLine_rulesHeading production isProduction
  · intro neNil
    obtain ⟨line, others, rfl⟩ := List.exists_cons_of_ne_nil neNil
    exact ⟨line, by simp, isRules line List.mem_cons_self⟩

end Kinds

section Contents

variable {document : Text} {outline : Outline}

/-- The first offence of a document is what is wrong with its outline. -/
theorem contents_of_firstOffence {offence : Offence} {standing : Standing}
    (read : Outline.ofText document = .ok outline)
    (first : FirstOffence [] (standings document) offence standing) :
    ∃ start stop, outline.contents = .error ⟨offence, start, stop⟩ ∧
      start + standing.onward.length = document.length := by
  obtain ⟨header, rest, standingsEq, sectionsAt, rulesAt⟩ :=
    exists_standings_of_ofText read
  obtain ⟨sections, productions⟩ := outline
  rw [standingsEq] at first
  -- All sections are added before the first production is looked at.
  rcases first.append_cases with first | ⟨none, first⟩
  · obtain ⟨start, stop, failed, startEq⟩ :=
      foldlM_add_of_firstOffence header_sums_nil sectionsAt first
    refine ⟨start, stop, ?_, startEq⟩
    simp only [Outline.contents, failed]
    rfl
  obtain ⟨sums, folded, -⟩ :=
    exists_foldlM_add_of_noOffence header_sums_nil sectionsAt none
  cases productions with
  | none =>
      obtain rfl : rest = [] := rulesAt
      cases first
  | some parts =>
      obtain ⟨heading, rules, rfl, headingEq, productionsAt⟩ := rulesAt
      cases first with
      | here offends =>
          rw [headingEq] at offends
          exact absurd offends not_offends_rulesHeading
      | later _ first =>
          obtain ⟨start, stop, failed, startEq⟩ :=
            mapM_rule_of_firstOffence productionsAt first
          refine ⟨start, stop, ?_, startEq⟩
          simp only [Outline.contents, folded, failed, bind, Except.bind]

/-- Without an offence the contents of a document tell what is missing. -/
theorem exists_contents_of_noOffence
    (read : Outline.ofText document = .ok outline)
    (noOffence : NoOffence [] (bodies document)) :
    ∃ header rules, outline.contents = .ok (header, rules) ∧
      (∀ name, header.name = some name ↔
        HasSection (bodies document) (.name name)) ∧
      (rules = none ↔ rulesHeading ∉ bodies document) ∧
      (rules = some [] ↔ rulesHeading ∈ bodies document ∧
        ¬ HasProduction (bodies document)) := by
  obtain ⟨headers, rest, standingsEq, sectionsAt, rulesAt⟩ :=
    exists_standings_of_ofText read
  obtain ⟨sections, productions⟩ := outline
  rw [← map_line_standings, standingsEq, List.map_append] at noOffence ⊢
  obtain ⟨headerClean, restClean⟩ := noOffence_append_iff.mp noOffence
  obtain ⟨header, folded, sums⟩ :=
    exists_foldlM_add_of_noOffence header_sums_nil sectionsAt headerClean
  rw [List.nil_append] at sums
  have isHeader : ∀ line ∈ headers.map (·.line),
      ∃ part, SectionLine line part := by
    refine List.forall_mem_map.mpr fun standing member => ?_
    obtain ⟨part, -, isSection, -⟩ :=
      exists_of_mem_forall₂ sectionsAt.flip member
    exact ⟨_, isSection⟩
  have unheaded := rulesHeading_not_mem isHeader
  cases productions with
  | none =>
      obtain rfl : rest = [] := rulesAt
      refine ⟨header, none, ?_, ?_, ?_, ?_⟩
      · simp only [Outline.contents, folded]
        rfl
      · simpa using sums.name_iff
      · simpa using unheaded
      · simp [unheaded]
  | some parts =>
      obtain ⟨heading, lines, rfl, headingEq, productionsAt⟩ := rulesAt
      obtain ⟨rules, mapped, nilIff⟩ := exists_mapM_rule_of_noOffence
        productionsAt (noOffence_cons_iff.mp restClean).2
      have isRules : ∀ line ∈ lines.map (·.line),
          ∃ production, ProductionLine line production := by
        refine List.forall_mem_map.mpr fun standing member => ?_
        obtain ⟨part, -, isProduction, -⟩ :=
          exists_of_mem_forall₂ productionsAt.flip member
        exact ⟨_, isProduction⟩
      rw [List.map_cons, headingEq]
      refine ⟨header, some rules, ?_, fun name => ?_, ?_, ?_⟩
      · simp only [Outline.contents, folded, mapped, bind, Except.bind]
        rfl
      · rw [hasSection_rules_iff isRules, sums.name_iff]
      · simp
      · rw [hasProduction_rules_iff isHeader isRules]
        simp [nilIff]

end Contents

section Reading

variable {text : Text}

theorem isWellFormed_iff {document : Text} :
    IsWellFormed document ↔
      ∃ outline, Outline.ofText document = .ok outline := by
  constructor
  · rintro ⟨sections, productions, isOutline⟩
    obtain ⟨outline, read, -⟩ := exists_ofText_iff.mpr isOutline
    exact ⟨outline, read⟩
  · rintro ⟨outline, read⟩
    exact ⟨_, _, exists_ofText_iff.mp ⟨outline, read, rfl, rfl⟩⟩

theorem read_of_large (large : maximumSize < Text.byteLength text) :
    read text = .error .tooLarge := by
  rw [read, if_pos large]

theorem exists_read_of_not_wellFormed
    (fits : Text.byteLength text ≤ maximumSize)
    (illFormed : ¬ IsWellFormed (Text.trim text)) :
    ∃ place, read text = .error (.badSyntax place) := by
  rw [read, if_neg (Nat.not_lt.mpr fits)]
  cases outlineRead : Outline.ofText (Text.trim text) with
  | error offset =>
      simp only [outlineRead]
      exact ⟨_, rfl⟩
  | ok outline =>
      exact absurd (isWellFormed_iff.mpr ⟨outline, outlineRead⟩) illFormed

theorem exists_read_of_firstOffence {offence : Offence} {standing : Standing}
    (fits : Text.byteLength text ≤ maximumSize)
    (wellFormed : IsWellFormed (Text.trim text))
    (first : FirstOffence [] (standings (Text.trim text)) offence standing) :
    ∃ stop, read text = .error
      (.offence offence (standing.start (Text.trim text)) stop) := by
  obtain ⟨outline, outlineRead⟩ := isWellFormed_iff.mp wellFormed
  obtain ⟨start, stop, contentsEq, startEq⟩ :=
    contents_of_firstOffence outlineRead first
  have startEq : start =
      (Text.trim text).length - standing.onward.length := by omega
  refine ⟨.ofOffset (Text.trim text) stop, ?_⟩
  rw [read, if_neg (Nat.not_lt.mpr fits), Standing.start, ← startEq]
  simp only [outlineRead, contentsEq]

/-- Of a text that passes a system is put together from what it has. -/
theorem Passes.exists_read_eq (passes : Passes text) :
    ∃ header rules, read text = assemble header rules ∧
      (∀ name, header.name = some name ↔
        HasSection (bodies (Text.trim text)) (.name name)) ∧
      (rules = none ↔ rulesHeading ∉ bodies (Text.trim text)) ∧
      (rules = some [] ↔ rulesHeading ∈ bodies (Text.trim text) ∧
        ¬ HasProduction (bodies (Text.trim text))) := by
  obtain ⟨outline, outlineRead⟩ := isWellFormed_iff.mp passes.wellFormed
  obtain ⟨header, rules, contentsEq, facts⟩ :=
    exists_contents_of_noOffence outlineRead passes.no_offence
  refine ⟨header, rules, ?_, facts⟩
  rw [read, if_neg (Nat.not_lt.mpr passes.fits)]
  simp only [outlineRead, contentsEq]

theorem Passes.read_of_no_name (passes : Passes text)
    (unnamed : ∀ name, ¬ HasSection (bodies (Text.trim text)) (.name name)) :
    read text = .error .missingName := by
  obtain ⟨⟨name, seed⟩, rules, readEq, nameIff, -⟩ := passes.exists_read_eq
  cases name with
  | none => simp only [readEq, assemble]
  | some name => exact absurd ((nameIff name).mp rfl) (unnamed name)

theorem Passes.read_of_no_heading {name : Text} (passes : Passes text)
    (named : HasSection (bodies (Text.trim text)) (.name name))
    (unheaded : rulesHeading ∉ bodies (Text.trim text)) :
    read text = .error .missingRules := by
  obtain ⟨header, rules, readEq, nameIff, noneIff, -⟩ :=
    passes.exists_read_eq
  simp only [readEq, assemble, (nameIff name).mpr named,
    noneIff.mpr unheaded]

theorem Passes.read_of_no_production {name : Text} (passes : Passes text)
    (named : HasSection (bodies (Text.trim text)) (.name name))
    (headed : rulesHeading ∈ bodies (Text.trim text))
    (unruled : ¬ HasProduction (bodies (Text.trim text))) :
    read text = .error (.noRules name) := by
  obtain ⟨header, rules, readEq, nameIff, -, nilIff⟩ :=
    passes.exists_read_eq
  simp only [readEq, assemble, (nameIff name).mpr named,
    nilIff.mpr ⟨headed, unruled⟩]

theorem Passes.exists_read_ok {name : Text} (passes : Passes text)
    (named : HasSection (bodies (Text.trim text)) (.name name))
    (headed : rulesHeading ∈ bodies (Text.trim text))
    (ruled : HasProduction (bodies (Text.trim text))) :
    ∃ system, read text = .ok system := by
  obtain ⟨header, rules, readEq, nameIff, noneIff, nilIff⟩ :=
    passes.exists_read_eq
  have headerName := (nameIff name).mpr named
  rcases rules with _ | _ | ⟨rule, rules⟩
  · exact absurd headed (noneIff.mp rfl)
  · exact absurd ruled (nilIff.mp rfl).2
  · exact ⟨⟨name, header.seed, rule :: rules⟩,
      by simp only [readEq, assemble, headerName]⟩

theorem passes_of_read {system : LSystem} (accepted : read text = .ok system) :
    Passes text := by
  have fits : Text.byteLength text ≤ maximumSize := by
    refine Nat.not_lt.mp fun large => ?_
    rw [read_of_large large] at accepted
    cases accepted
  have wellFormed : IsWellFormed (Text.trim text) := by
    by_contra illFormed
    obtain ⟨place, rejected⟩ := exists_read_of_not_wellFormed fits illFormed
    rw [rejected] at accepted
    cases accepted
  refine ⟨fits, wellFormed, ?_⟩
  by_contra someOffence
  rw [← map_line_standings] at someOffence
  obtain ⟨offence, found, first⟩ := exists_firstOffence someOffence
  obtain ⟨stop, rejected⟩ := exists_read_of_firstOffence fits wellFormed first
  rw [rejected] at accepted
  cases accepted

/-- What has been read has a name, the heading of the rules and rules. -/
theorem parts_of_read {system : LSystem} (accepted : read text = .ok system) :
    (∃ name, HasSection (bodies (Text.trim text)) (.name name)) ∧
      rulesHeading ∈ bodies (Text.trim text) ∧
      HasProduction (bodies (Text.trim text)) := by
  have passes := passes_of_read accepted
  have named : ∃ name, HasSection (bodies (Text.trim text)) (.name name) := by
    by_contra unnamed
    rw [passes.read_of_no_name (not_exists.mp unnamed)] at accepted
    cases accepted
  obtain ⟨name, named⟩ := named
  have headed : rulesHeading ∈ bodies (Text.trim text) := by
    by_contra unheaded
    rw [passes.read_of_no_heading named unheaded] at accepted
    cases accepted
  refine ⟨⟨name, named⟩, headed, ?_⟩
  by_contra unruled
  rw [passes.read_of_no_production named headed unruled] at accepted
  cases accepted

/-- The first fault that applies is reported, and a system is read where none
does. -/
theorem read_verdict (text : Text) : Verdict text (read text) where
  too_large := read_of_large
  bad_syntax := exists_read_of_not_wellFormed
  first_offence fits wellFormed _ _ :=
    exists_read_of_firstOffence fits wellFormed
  missing_name := Passes.read_of_no_name
  missing_rules passes _ := passes.read_of_no_heading
  no_rules passes _ := passes.read_of_no_production
  accepts_iff := by
    constructor
    · rintro ⟨system, accepted⟩
      exact ⟨passes_of_read accepted, parts_of_read accepted⟩
    · rintro ⟨passes, ⟨name, named⟩, headed, ruled⟩
      exact passes.exists_read_ok named headed ruled

/-- The second of two names comes before everything that is missing. -/
example :
    read (Text.ofString "seed: f\n\tname: a\n name: b # again\nrules:\n") =
      .error (.offence .repeatedName ⟨3, 2⟩ ⟨3, 10⟩) := by
  decide +kernel

end Reading

end TurtleSystems.Document
