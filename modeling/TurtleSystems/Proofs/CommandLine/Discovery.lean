import TurtleSystems.CommandLine.Session
import TurtleSystems.Proofs.Config
import TurtleSystems.Proofs.Document.Writing
import TurtleSystems.Proofs.Json.Numbers
import TurtleSystems.Proofs.Search

/-!
# Documents of discoveries

A discovery is written under a name that counts the candidates, with the seed
of accepted settings and with rules that were drawn.  Each of these fits into
the lines of a document, so what is printed for a discovery is read back as
the system that was found.  This holds of whatever random words lead to, and
so of every run of the command line that searches for its rules.
-/

namespace TurtleSystems

namespace Document

theorem isUnmarked_digits (number : Nat) :
    IsUnmarked (Decimal.digits number) := by
  have notMem {character : Char}
      (noDigit : Decimal.isDigit character = false) :
      character ∉ Decimal.digits number := by
    intro member
    rw [Decimal.isDigit_of_mem_digits member] at noDigit
    cases noDigit
  exact isUnmarked_iff.mpr ⟨notMem rfl, notMem rfl, notMem rfl⟩

end Document

namespace CommandLine

section Names

theorem randomName_ne_nil (attempts : Nat) : randomName attempts ≠ [] := by
  have behind : " attempts)".toList ≠ [] := by decide
  exact List.append_ne_nil_of_right_ne_nil _ behind

theorem trim_randomName (attempts : Nat) :
    Text.trim (randomName attempts) = randomName attempts := by
  have begins : "Random (".toList = 'R' :: "andom (".toList := by decide
  have ends : " attempts)".toList.getLast? = some ')' := by decide
  unfold randomName
  refine Text.trim_of_stops ?_ ?_
  · rw [begins, List.cons_append, List.cons_append, Text.stops_cons_iff]
    decide
  · intro character last
    rw [List.getLast?_append, ends, Option.some_or] at last
    cases last
    decide

theorem isUnmarked_randomName (attempts : Nat) :
    Document.IsUnmarked (randomName attempts) := by
  have before : Document.IsUnmarked "Random (".toList := by decide
  have behind : Document.IsUnmarked " attempts)".toList := by decide
  exact (before.append (Document.isUnmarked_digits attempts)).append behind

end Names

section Settings

variable {options : Options} {files : File.Files} {config : Config}

/-- Whatever settings a run works with, they were accepted. -/
theorem validate_of_loadConfig
    (loaded : loadConfig options files = .ok config) :
    config.validate = .ok () := by
  unfold loadConfig at loaded
  extract_lets withSeed at loaded
  -- The seed among the options comes last, and is checked with the rest.
  have validateOfWithSeed {settings : Config}
      (accepted : settings.validate = .ok ())
      (changed : withSeed settings = .ok config) :
      config.validate = .ok () := by
    simp only [withSeed] at changed
    split at changed
    · cases changed
      exact accepted
    · split at changed
      · cases changed
      · next seedAccepted =>
          cases changed
          exact seedAccepted
  split at loaded
  · exact validateOfWithSeed Config.validate_standard loaded
  · split at loaded
    · cases loaded
    · split at loaded
      · cases loaded
      · next read =>
          exact validateOfWithSeed (Config.validate_of_read read) loaded

end Settings

section Discoveries

variable {config : Config} {discovery : Discovery} {options : Options}

theorem isWritable_originOfDiscovery (sound : config.IsSound)
    (drawable : discovery.rules.IsDrawable) :
    Document.IsWritable (originOfDiscovery config discovery).toSystem where
  name_trimmed := trim_randomName discovery.attempts
  name_unmarked := isUnmarked_randomName discovery.attempts
  seed_word := by
    intro seed found
    cases found
    exact ⟨sound.seed_ne_nil, sound.seed_program⟩
  rules_ne_nil := List.ne_nil_of_length_pos
    (Nat.lt_of_lt_of_le Nat.two_pos drawable.two_le_length)
  rules_words := drawable.isOverAlphabet

theorem isReadAs_originOfDiscovery (accepted : config.validate = .ok ())
    (drawable : discovery.rules.IsDrawable) :
    Document.IsReadAs
      (Document.write (originOfDiscovery config discovery).toSystem)
      (originOfDiscovery config discovery).toSystem :=
  (isWritable_originOfDiscovery (Config.isSound_of_validate accepted)
    drawable).isReadAs_write (randomName_ne_nil discovery.attempts)

theorem output_deliver_of_lsys (formatEq : options.format = .lsys)
    (config : Config) (origin : Origin) :
    (deliver options config origin).output =
      some (Document.write origin.toSystem) := by
  rw [deliver, formatEq]

/-- Whatever stream of words a rule set is drawn from, and however often its
parts are drawn again, it has two to five rules.  Each has one or two symbols
in its pattern and one to five in its replacement, all of the alphabet, and
its sides differ.  So the rule set comes back from its rule lines, and the
document that the command line prints for it, as a discovery after any number
of attempts and with the seed of accepted settings, is read as the system with
that name, seed and rules. -/
theorem drawn_rules_read_back {σ : Type} [WordSource σ] {budget : Nat}
    {source rest : σ} {rules : RuleSet}
    (drawn : Draw.ruleSet budget source = some (rules, rest)) :
    (2 ≤ rules.length ∧ rules.length ≤ 5) ∧
    (∀ rule ∈ rules,
      (1 ≤ rule.pattern.length ∧ rule.pattern.length ≤ 2) ∧
      (1 ≤ rule.replacement.length ∧ rule.replacement.length ≤ 5) ∧
      Text.isProgram rule.pattern = true ∧
      Text.isProgram rule.replacement = true ∧
      rule.pattern ≠ rule.replacement) ∧
    RuleSet.ofText rules.toText = rules ∧
    ∀ (options : Options) (config : Config) (attempts : Nat),
      options.format = .lsys → config.validate = .ok () →
        ∃ document,
          (deliver options config
            (originOfDiscovery config ⟨rules, attempts⟩)).output =
              some document ∧
          Document.IsReadAs document
            ⟨randomName attempts, some config.seed, rules⟩ := by
  have drawable := Draw.onlyGives_ruleSet budget drawn
  refine ⟨⟨drawable.two_le_length, drawable.length_le_five⟩, ?_,
    RuleSet.ofText_toText drawable.isOverAlphabet, ?_⟩
  · intro rule member
    have ruleDrawable := drawable.rules_drawable rule member
    have patternPos := List.length_pos_iff.mpr rule.pattern_ne_nil
    have replacementPos := List.length_pos_iff.mpr rule.replacement_ne_nil
    exact ⟨⟨patternPos, ruleDrawable.pattern_length⟩,
      ⟨replacementPos, ruleDrawable.replacement_length⟩,
      ruleDrawable.pattern_program, ruleDrawable.replacement_program,
      rule.pattern_ne_replacement⟩
  · intro options config attempts formatEq accepted
    refine ⟨_, output_deliver_of_lsys formatEq config _, ?_⟩
    exact isReadAs_originOfDiscovery accepted drawable

/-- Words by which a number of rules is refused, a rule that maps `f` to itself
is drawn, and then two other rules are. -/
def refusedWords : List UInt32 :=
  [0x20000000, 0,
    0, 0, 0, 0, 0, 0,
    0, 0, 0, 0, 0x33333334, 0, 0x6db6db6e,
    0, 0x80000000, 0, 0x92492493, 0, 0, 0x4924924a]

/-- What is printed for the two rules is read back, with the end of its last
line. -/
theorem drawn_rules_read_back_refused :
    ∃ rules rest options document,
      Draw.ruleSet 10 (ListedWords.ofList refusedWords) =
        some (rules, rest) ∧
      RuleSet.ofText rules.toText = rules ∧
      Options.ofArguments ["--format".toList, "lsys".toList] =
        some options ∧
      options.format = .lsys ∧ Config.standard.validate = .ok () ∧
      (deliver options Config.standard
        (originOfDiscovery Config.standard ⟨rules, 3⟩)).output =
          some document ∧
      document = ("name: Random (3 attempts)\nseed: f\n" ++
        "rules:\n  f → f+\n  f- → g\n").toList ∧
      Document.read (document ++ ['\n']) =
        .ok ⟨"Random (3 attempts)".toList, some ['f'], rules⟩ := by
  have found : (Draw.ruleSet 10 (ListedWords.ofList refusedWords)).map
      (fun drawn => Document.write
        (originOfDiscovery Config.standard ⟨drawn.1, 3⟩).toSystem) =
      some ("name: Random (3 attempts)\nseed: f\n" ++
        "rules:\n  f → f+\n  f- → g\n").toList := by
    decide +kernel
  obtain ⟨⟨rules, rest⟩, drawn, written⟩ := Option.map_eq_some_iff.mp found
  obtain ⟨options, given, formatEq⟩ : ∃ options,
      Options.ofArguments ["--format".toList, "lsys".toList] =
        some options ∧ options.format = .lsys := ⟨_, rfl, rfl⟩
  obtain ⟨-, -, lines, printed⟩ := drawn_rules_read_back drawn
  obtain ⟨document, output, isReadAs⟩ :=
    printed options Config.standard 3 formatEq Config.validate_standard
  have documentEq := output
  rw [output_deliver_of_lsys formatEq, written, Option.some.injEq]
    at documentEq
  have nameEq : randomName 3 = "Random (3 attempts)".toList := by
    decide +kernel
  refine ⟨rules, rest, options, document, drawn, lines, given, formatEq,
    Config.validate_standard, output, documentEq.symm, ?_⟩
  rw [← nameEq]
  refine isReadAs ['\n'] (List.forall_mem_singleton.mpr rfl) ?_
  rw [← documentEq]
  decide +kernel

end Discoveries

section Runs

variable {config : Config} {options : Options} {surroundings : Surroundings}

/-- The options ask for the document of rules that are searched for, unless
there is an input. -/
structure Options.AskForDiscovery (options : Options) : Prop where
  not_listing : options.listPresets = false
  rules_eq : options.rules = none
  preset_eq : options.preset = none
  format_eq : options.format = .lsys

theorem exists_discovery_of_chooseSearch {seed : UInt64} {origin : Origin}
    (chosen : chooseSearch config seed = .ok origin) :
    ∃ discovery, Search.MayComeTo config (.ok discovery) ∧
      origin = originOfDiscovery config discovery := by
  unfold chooseSearch at chosen
  split at chosen
  · cases chosen
  · cases chosen
  · next discovery rest found =>
      cases chosen
      exact ⟨discovery, ⟨_, _, _, rest, found⟩, rfl⟩

theorem exists_discovery_of_chooseOrigin {origin : Origin}
    (asks : options.AskForDiscovery) (noInput : surroundings.input = none)
    (chosen : chooseOrigin options surroundings config = .ok origin) :
    ∃ discovery, Search.MayComeTo config (.ok discovery) ∧
      origin = originOfDiscovery config discovery := by
  simp only [chooseOrigin, asks.rules_eq, asks.preset_eq, noInput]
    at chosen
  split at chosen
  · exact exists_discovery_of_chooseSearch chosen
  · exact exists_discovery_of_chooseSearch chosen

/-- A run that searches for rules and comes to their document prints what is
read back: under a name that counts the candidates, with the seed of the
settings and with live rules that some words lead to. -/
theorem exists_discovery_of_runWith (asks : options.AskForDiscovery)
    (noInput : surroundings.input = none)
    (succeeds : (runWith options surroundings).code = 0) :
    ∃ config discovery document,
      loadConfig options surroundings.files = .ok config ∧
      Search.MayComeTo config (.ok discovery) ∧
      (runWith options surroundings).output = some document ∧
      Document.IsReadAs document
        ⟨randomName discovery.attempts, some config.seed,
          discovery.rules⟩ := by
  simp only [runWith, asks.not_listing, Bool.false_eq_true, if_false]
    at succeeds ⊢
  split at succeeds
  · cases succeeds
  · next config loaded =>
      split at succeeds
      · cases succeeds
      · next origin chosen =>
          obtain ⟨discovery, found, rfl⟩ :=
            exists_discovery_of_chooseOrigin asks noInput chosen
          have reseeded : (if options.seed.isSome then
              { originOfDiscovery config discovery with seed := config.seed }
              else originOfDiscovery config discovery) =
                originOfDiscovery config discovery := ite_self _
          refine ⟨config, discovery, _, loaded, found, ?_,
            isReadAs_originOfDiscovery (validate_of_loadConfig loaded)
              (Search.isDrawable_of_mayComeTo found).1⟩
          rw [output_deliver_of_lsys asks.format_eq, reseeded]

end Runs

end CommandLine

end TurtleSystems
