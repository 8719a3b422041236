import TurtleSystems.Proofs.Alphabet
import TurtleSystems.Proofs.Terminal.Alphabet
import TurtleSystems.Proofs.Terminal.Frame
import TurtleSystems.Proofs.Terminal.Rows
import TurtleSystems.Terminal.Screen

/-!
# The program that is shown

In every state the program of the application was derived from its seed by its
rules.  All of them are over the alphabet, so the program is, and what the
screen says about it is about symbols: their number, and the symbols
themselves as far as there is room for them.
-/

namespace TurtleSystems

/-- The program of an animation is that of some depth. -/
def Animation.IsDerived (config : Config) (animation : Animation) : Prop :=
  ∃ depth, animation.rules.derive config.growthLimit depth animation.seed =
    .ok animation.program

section Derived

variable {config : Config} {animation after : Animation} {shown : Tick}

theorem Animation.IsDerived.tick
    (derived : IsDerived animation.config animation)
    (ticked : animation.tick = (shown, after)) :
    IsDerived animation.config after := by
  obtain ⟨-, seedEq, rulesEq⟩ := keeps_of_tick ticked
  have programCases := program_of_tick animation
  rw [ticked] at programCases
  rw [IsDerived, seedEq, rulesEq]
  rcases programCases with ⟨programEq, -⟩ | ⟨derivedNext, -⟩
  · rw [programEq]
    exact derived
  · exact ⟨_, derivedNext⟩

theorem InStep.exists_pictures {frame : Option Frame}
    (inStep : InStep config animation frame) :
    ∃ depth, Pictures config animation.rules animation.seed depth frame := by
  cases inStep with
  | going _ pictures | halted pictures => exact ⟨_, pictures⟩

end Derived

namespace Terminal.App

variable {config : Config} {app : App}

theorem isDerived_of_reachable (reachable : Reachable config app) :
    Animation.IsDerived config app.animation := by
  induction reachable using Reachable.invariant with
  | started app begins =>
      obtain ⟨origin, message, rfl, -⟩ := begins.exists_origin
      exact ⟨0, rfl⟩
  | effect before after reachable _ effect ih =>
      have configEq := (inStep_of_reachable reachable).config_eq
      cases effect with
      | display => exact ih
      | frame ticked | halt ticked =>
          rw [← configEq] at ih ⊢
          exact ih.tick ticked
      | restart | found | edited => exact ⟨0, rfl⟩
      | preset => exact ⟨0, rfl⟩

theorem isWord_seed_of_reachable (sound : config.IsSound)
    (reachable : Reachable config app) : app.animation.seed.IsWord := by
  obtain ⟨-, configured | ⟨text, system, read, own⟩⟩ :=
    seed_of_reachable reachable
  · rw [configured]
    exact ⟨sound.seed_ne_nil, sound.seed_program⟩
  · obtain ⟨neNil, program⟩ :=
      (Document.isWritable_of_read read).seed_word _ own
    exact ⟨neNil, program⟩

theorem isWord_program_of_reachable (sound : config.IsSound)
    (reachable : Reachable config app) : app.animation.program.IsWord := by
  obtain ⟨depth, derived⟩ := isDerived_of_reachable reachable
  exact RuleSet.isWord_of_derive (isOverAlphabet_of_reachable reachable)
    (isWord_seed_of_reachable sound reachable) derived

theorem isWord_of_frame (sound : config.IsSound)
    (reachable : Reachable config app) {frame : Frame}
    (shown : app.frame = some frame) : frame.program.IsWord := by
  obtain ⟨depth, pictures⟩ :=
    (inStep_of_reachable reachable).exists_pictures
  rw [shown] at pictures
  obtain ⟨program, derived, -, rfl⟩ := pictures.exists_program
  exact RuleSet.isWord_of_derive (isOverAlphabet_of_reachable reachable)
    (isWord_seed_of_reachable sound reachable) derived

end Terminal.App

namespace Terminal.Screen

/-- The line about the animation, when it tells of a number of symbols. -/
def progressLine (app : App) (symbols : Nat) : String :=
  "Depth: " ++ toString app.animation.depth ++ " | Symbols: " ++
    toString symbols ++ " | Segments: " ++ toString (segmentCount app) ++
    " | Status: " ++ statusWord app.animation

theorem isPrintable_of_mem_toString {number : Nat} {character : Char}
    (member : character ∈ (toString number).toList) :
    Text.Cluster.isPrintable character = true := by
  have digit : character.isDigit = true := by
    refine Nat.isDigit_of_mem_toDigits (by decide) (Nat.le_refl 10) (?_ :
      character ∈ Nat.toDigits 10 number)
    simpa [toString, Nat.repr] using member
  simp only [Char.isDigit, Bool.and_eq_true, decide_eq_true_eq,
    UInt32.le_iff_toNat_le] at digit
  simp only [Text.Cluster.isPrintable, Bool.and_eq_true, decide_eq_true_eq]
  exact ⟨Nat.le_trans (by decide) digit.1,
    Nat.lt_of_le_of_lt digit.2 (by decide)⟩

theorem isPrintable_of_mem_statusWord {animation : Animation}
    {character : Char} (member : character ∈ (statusWord animation).toList) :
    Text.Cluster.isPrintable character = true := by
  have words : ∀ word ∈ ["HALTED", "READY", "RUNNING"],
      word.toList.all Text.Cluster.isPrintable = true := by decide
  refine List.all_eq_true.mp (words (statusWord animation) ?_) character member
  unfold statusWord
  split
  · simp
  · split <;> simp

theorem isPlain_progressLine (app : App) (symbols : Nat) :
    Row.IsPlain (progressLine app symbols).toList := by
  have labels : ∀ label ∈ ["Depth: ", " | Symbols: ", " | Segments: ",
      " | Status: "],
      label.toList.all Text.Cluster.isPrintable = true := by decide
  have printable {label : String} (known : label ∈ ["Depth: ",
      " | Symbols: ", " | Segments: ", " | Status: "]) {character : Char} :
      character ∈ label.toList →
        Text.Cluster.isPrintable character = true :=
    List.all_eq_true.mp (labels label known) character
  refine Row.isPlain_of_isPrintable fun character member => ?_
  simp only [progressLine, String.toList_append, List.mem_append] at member
  rcases member with ((((((member | member) | member) | member) | member) |
    member) | member) | member
  · exact printable (by simp) member
  · exact isPrintable_of_mem_toString member
  · exact printable (by simp) member
  · exact isPrintable_of_mem_toString member
  · exact printable (by simp) member
  · exact isPrintable_of_mem_toString member
  · exact printable (by simp) member
  · exact isPrintable_of_mem_statusWord member

/-- The second line tells the number of bytes of the program. -/
theorem info_second (app : App) :
    (ofApp app).info[1]? = some (Text.trimEnd
      ((progressLine app (Text.byteLength app.animation.program)).toList.take
        panelWidth)) := by
  rw [← Row.shown_fitting_clusters (isPlain_progressLine app _)]
  simp [ofApp, infoOf, progressLine]

theorem trimEnd_of_last {text : Text}
    (last : ∀ character ∈ text.getLast?, Text.isBlank character = false) :
    Text.trimEnd text = text :=
  List.rdropWhile_eq_self_iff.mpr fun neNil => by
    simp [last _ (List.getLast?_eq_some_getLast neNil)]

theorem linesOf_of_unbroken {text : Text} (neNil : text ≠ [])
    (unbroken : '\n' ∉ text) : linesOf text = [text] := by
  have single : Text.splitOn '\n' text = [text] := by
    rw [Text.splitOn_eq, List.splitOn_eq_singleton unbroken]
  cases text with
  | nil => exact absurd rfl neNil
  | cons => simp [linesOf, single]

/-- A word is shown up to its 4096th symbol, and an ellipsis stands for the
others. -/
theorem programOf_of_isWord {app : App}
    (word : app.animation.program.IsWord) :
    programOf app =
      if 4096 < app.animation.program.length then
        app.animation.program.take 4096 ++ ['…']
      else app.animation.program := by
  obtain ⟨neNil, program⟩ := word
  have previewEq : preview app.animation.program =
      if 4096 < app.animation.program.length then
        app.animation.program.take 4096 ++ ['…']
      else app.animation.program := by
    have previewLength : programPreview = 4096 := rfl
    rw [preview, Text.byteLength_of_isProgram program, previewLength]
    split
    · rfl
    · next short => rw [List.take_of_length_le (Nat.not_lt.mp short)]
  have takenProgram :
      Text.isProgram (app.animation.program.take 4096) = true :=
    List.all_eq_true.mpr fun character member =>
      List.all_eq_true.mp program character (List.mem_of_mem_take member)
  have shows {text : Text} (textNeNil : text ≠ []) (plain : Row.IsPlain text)
      (last : ∀ character ∈ text.getLast?, Text.isBlank character = false) :
      Row.shown ((linesOf text).flatMap Row.clusters) = text := by
    rw [linesOf_of_unbroken textNeNil plain.unbroken, List.flatMap_singleton,
      Row.shown_clusters plain, trimEnd_of_last last]
  rw [programOf, previewEq]
  split
  · refine shows (by simp) (Row.isPlain_append_ellipsis takenProgram) ?_
    intro character last
    rw [List.getLast?_append_cons, List.getLast?_singleton] at last
    cases last
    decide
  · refine shows neNil (Row.isPlain_of_isProgram program) ?_
    intro character last
    exact Text.not_isBlank_of_isSymbol (List.all_eq_true.mp program character
      (List.mem_of_getLast? last))

end Terminal.Screen

namespace Terminal.App

variable {config : Config} {app : App}

/-- With accepted settings the application never leaves the alphabet: seed,
program and rules are words.  So the screen tells the number of symbols, leaves
out what is behind the 4096th symbol and nothing else, and a turtle obeys
every character. -/
theorem words_of_reachable (accepted : config.validate = .ok ())
    (reachable : Reachable config app) :
    app.animation.seed.IsWord ∧ app.animation.program.IsWord ∧
    (∀ rule ∈ app.animation.rules,
      rule.pattern.IsWord ∧ rule.replacement.IsWord) ∧
    (Screen.ofApp app).info[1]? = some (Text.trimEnd
      ((Screen.progressLine app app.animation.program.length).toList.take
        Screen.panelWidth)) ∧
    (Screen.ofApp app).program =
      (if 4096 < app.animation.program.length then
        app.animation.program.take 4096 ++ ['…']
      else app.animation.program) ∧
    ∀ (turtle : Turtle Float) (program : Text),
      program = app.animation.program ∨
        (∃ frame ∈ app.frame, program = frame.program) →
      turtle.ObeysAll program := by
  have sound := Config.isSound_of_validate accepted
  have word := isWord_program_of_reachable sound reachable
  refine ⟨isWord_seed_of_reachable sound reachable, word, ?_, ?_,
    Screen.programOf_of_isWord word, ?_⟩
  · intro rule member
    have sides := isOverAlphabet_of_reachable reachable rule member
    exact ⟨⟨rule.pattern_ne_nil, sides.pattern⟩,
      ⟨rule.replacement_ne_nil, sides.replacement⟩⟩
  · rw [Screen.info_second, Text.byteLength_of_isProgram word.program]
  · rintro turtle program (rfl | ⟨frame, shown, rfl⟩)
    · exact turtle.obeysAll_of_isProgram word.program
    · exact turtle.obeysAll_of_isProgram
        (isWord_of_frame sound reachable shown).program

/-- Two ticks with the doubling rule. -/
theorem words_of_reachable_doubling :
    let app := (withDoubling Config.standard).run [.autoTick, .autoTick]
    Config.standard.validate = .ok () ∧ Reachable Config.standard app ∧
      app.animation.program = "ffff".toList ∧
      (Screen.ofApp app).info[1]? =
        some "Depth: 2 | Symbols: 4 | Segments: 4 | Status: RUNNING".toList ∧
      (Screen.ofApp app).program = "ffff".toList := by
  intro app
  have accepted := Config.validate_standard
  have reachable : Reachable Config.standard app :=
    (withDoubling_reachable _).run (by simp [Event.Possible])
  obtain ⟨-, -, -, line, panel, -⟩ := words_of_reachable accepted reachable
  refine ⟨accepted, reachable, by decide +kernel, ?_, ?_⟩
  · rw [line]
    decide +kernel
  · rw [panel]
    decide +kernel

end Terminal.App

end TurtleSystems
