import TurtleSystems.Proofs.Config
import TurtleSystems.Proofs.Occurrences
import TurtleSystems.Proofs.Terminal.Reachable

/-!
# Searching in the terminal application

The application asks for rules that are live on the configured seed, while its
animation keeps the seed it has.  So what a search finds is live where these
are the same, and not in general where the animation has the seed of a
document.
-/

namespace TurtleSystems

namespace RuleSet

variable {limit : Nat} {seed : Text}

/-- The rule that writes one more drawing symbol behind a text. -/
def extending (text : Text) (textNeNil : text ≠ []) : Rule where
  pattern := text
  replacement := text ++ ['f']
  pattern_ne_nil := textNeNil
  replacement_ne_nil := by simp
  pattern_ne_replacement := by simp

/-- The rule that leaves one symbol of a longer text. -/
def collapsing (text : Text) (symbol : Char) (longer : 1 < text.length) :
    Rule where
  pattern := text
  replacement := [symbol]
  pattern_ne_nil := by
    rintro rfl
    simp at longer
  replacement_ne_nil := by simp
  pattern_ne_replacement := by
    rintro rfl
    simp at longer

variable {rules : RuleSet}

/-- Rules with the extension of a seed are live on it if the rules before
leave the seed alone. -/
theorem isLive_append_extending (allowed : 0 < limit) (seedNeNil : seed ≠ [])
    (before : ∀ rule ∈ rules, ¬ rule.pattern <:+: seed) :
    isLive (rules ++ [extending seed seedNeNil]) limit seed = true := by
  have stepped : step (rules ++ [extending seed seedNeNil]) limit seed =
      .ok (seed ++ ['f']) := by
    induction rules with
    | nil =>
        have applied : (extending seed seedNeNil).apply limit seed =
            .ok (seed ++ ['f']) := Rule.apply_pattern allowed
        rw [List.nil_append, step_cons, applied]
        rfl
    | cons rule rules ih =>
        obtain ⟨absent, before⟩ := List.forall_mem_cons.mp before
        rw [List.cons_append, step_cons, Rule.apply_of_not_isInfix limit absent]
        exact ih before
  have member : extending seed seedNeNil ∈
      rules ++ [extending seed seedNeNil] := by simp
  rw [isLive, stepped, Bool.and_eq_true, occursIn_iff, occursIn_iff]
  exact ⟨⟨_, member, List.infix_refl seed⟩,
    ⟨_, member, (List.prefix_append seed ['f']).isInfix⟩⟩

theorem not_isLive_of_absent (absent : ∀ rule ∈ rules,
    ¬ rule.pattern <:+: seed) : isLive rules limit seed = false := by
  rw [isLive, Bool.and_eq_false_iff, ← Bool.not_eq_true, occursIn_iff]
  left
  rintro ⟨rule, member, present⟩
  exact absent rule member present

/-- Collapsing a text to a symbol that is not the other pattern leaves nothing
for the next step. -/
theorem not_isLive_collapsing {other : Text} {symbol : Char}
    (allowed : 0 < limit) (seedNeNil : seed ≠ [])
    (symbolNe : seed ≠ [symbol]) (longer : 1 < other.length) :
    isLive [collapsing other symbol longer, extending seed seedNeNil] limit
      other = false := by
  have seedAbsent : ¬ seed <:+: [symbol] := by
    intro present
    have lengthLe := present.length_le
    have seedPos := List.length_pos_iff.mpr seedNeNil
    exact symbolNe (present.eq_of_length (by
      simp only [List.length_singleton] at lengthLe ⊢
      omega))
  have otherAbsent : ¬ other <:+: [symbol] := by
    intro present
    have lengthLe := present.length_le
    simp only [List.length_singleton] at lengthLe
    omega
  have collapsed : (collapsing other symbol longer).apply limit other =
      .ok [symbol] := Rule.apply_pattern allowed
  have stayed : (extending seed seedNeNil).apply limit [symbol] =
      .ok [symbol] := Rule.apply_of_not_isInfix limit seedAbsent
  have stepped : step
      [collapsing other symbol longer, extending seed seedNeNil] limit
        other = .ok [symbol] := by
    rw [step_cons, collapsed]
    simp only [bind, Except.bind]
    rw [step_cons, stayed]
    rfl
  rw [isLive, stepped, Bool.and_eq_false_iff, or_iff_not_imp_left,
    ← Bool.not_eq_true, ← Bool.not_eq_true, occursIn_iff, occursIn_iff]
  rintro - ⟨rule, member, present⟩
  simp only [List.mem_cons, List.not_mem_nil, or_false] at member
  rcases member with rfl | rfl
  · exact otherAbsent present
  · exact seedAbsent present

/-- For every other seed there are rules that are live on a given one and not
there. -/
theorem exists_isLive_and_not_isLive {other : Text} (allowed : 0 < limit)
    (seedNeNil : seed ≠ []) (otherNe : other ≠ seed) :
    ∃ rules, isLive rules limit seed = true ∧
      isLive rules limit other = false := by
  by_cases present : seed <:+: other
  · have seedPos := List.length_pos_iff.mpr seedNeNil
    have seedLt : seed.length < other.length := by
      have seedLe := present.length_le
      have lengthNe : seed.length ≠ other.length := fun lengthEq =>
        otherNe (present.eq_of_length lengthEq).symm
      omega
    have longer : 1 < other.length := by omega
    obtain ⟨symbol, symbolNe⟩ : ∃ symbol, seed ≠ [symbol] := by
      by_cases isDraw : seed = ['f']
      · exact ⟨'g', by rw [isDraw]; decide⟩
      · exact ⟨'f', isDraw⟩
    refine ⟨[collapsing other symbol longer] ++ [extending seed seedNeNil],
      isLive_append_extending allowed seedNeNil ?_,
      not_isLive_collapsing allowed seedNeNil symbolNe longer⟩
    rintro rule (_ | ⟨_, ⟨⟩⟩) occurs
    have otherLe := occurs.length_le
    simp only [collapsing] at otherLe
    omega
  · refine ⟨[] ++ [extending seed seedNeNil],
      isLive_append_extending allowed seedNeNil (List.forall_mem_nil _),
      not_isLive_of_absent ?_⟩
    simpa [extending] using present

end RuleSet

namespace Terminal.App

/-- The rules of the animation are live on the seed that it starts from. -/
def IsLive (app : App) : Prop :=
  app.animation.rules.isLive app.config.growthLimit app.animation.seed = true

variable {config : Config} {app : App}

theorem isLive_finishSearch_iff (discovery : Discovery) :
    (app.finishSearch (.ok discovery)).IsLive ↔
      discovery.rules.isLive app.config.growthLimit app.animation.seed =
        true :=
  Iff.rfl

/-- After a search the rules are live on the configured seed.  They are live
on the seed of the animation, whatever the search may find, exactly if every
rule set of the size that is drawn that is live on the one seed is live on the
other; and for rules of any size that a search would accept, exactly if the
seeds are the same or nothing is ever accepted.  A different seed is always
the own seed of a document. -/
theorem isLive_after_search (sound : config.IsSound)
    (reachable : Reachable config app) :
    (∀ discovery, Search.MayComeTo config (.ok discovery) →
      (app.finishSearch (.ok discovery)).animation.rules.isLive
          config.growthLimit config.seed = true ∧
        (app.finishSearch (.ok discovery)).animation.seed =
          app.animation.seed) ∧
    ((∀ discovery, Search.MayComeTo config (.ok discovery) →
        (app.finishSearch (.ok discovery)).IsLive) ↔
      ∀ rules : RuleSet, rules.IsDrawable →
        rules.isLive config.growthLimit config.seed = true →
        rules.isLive config.growthLimit app.animation.seed = true) ∧
    ((∀ discovery : Discovery,
        discovery.rules.isLive config.growthLimit config.seed = true →
        (app.finishSearch (.ok discovery)).IsLive) ↔
      app.animation.seed = config.seed ∨ config.growthLimit = 0) ∧
    (app.animation.seed = config.seed ∨
      ∃ text system, Document.read text = .ok system ∧
        system.seed = some app.animation.seed) := by
  obtain ⟨configEq, seedEq⟩ := seed_of_reachable reachable
  refine ⟨?_, ?_, ?_, seedEq⟩
  · rintro ⟨rules, attempts⟩ found
    have found := (Search.exists_mayComeTo_iff sound.attempts_ne_zero).mp
      ⟨attempts, found⟩
    exact ⟨found.2, rfl⟩
  · simp only [isLive_finishSearch_iff, configEq]
    constructor
    · intro always rules drawable live
      obtain ⟨attempts, found⟩ :=
        (Search.exists_mayComeTo_iff sound.attempts_ne_zero).mpr
          ⟨drawable, live⟩
      exact always _ found
    · rintro carried ⟨rules, attempts⟩ found
      obtain ⟨drawable, live⟩ :=
        (Search.exists_mayComeTo_iff sound.attempts_ne_zero).mp
          ⟨attempts, found⟩
      exact carried rules drawable live
  · simp only [isLive_finishSearch_iff, configEq]
    constructor
    · intro always
      by_contra other
      rw [not_or] at other
      obtain ⟨rules, live, notLive⟩ :=
        RuleSet.exists_isLive_and_not_isLive
          (Nat.pos_of_ne_zero other.2) sound.seed_ne_nil other.1
      have liveThere := always ⟨rules, 1⟩ live
      simp [notLive] at liveThere
    · rintro (same | nothing) discovery live
      · rw [same]
        exact live
      · rw [nothing, RuleSet.not_isLive_zero] at live
        cases live

/-- Settings under which a rule may replace one occurrence. -/
def singleReplacement : Config := { Config.standard with growthLimit := 1 }

/-- The check of settings does not look at the growth limit. -/
theorem validate_singleReplacement : singleReplacement.validate = .ok () :=
  Config.validate_standard

theorem singleReplacement_isSound : singleReplacement.IsSound :=
  Config.isSound_of_validate validate_singleReplacement

/-- A system that starts from four segments. -/
def fourSegments : LSystem where
  name := ['F', 'o', 'u', 'r']
  seed := some ['f', 'f', 'f', 'f']
  rules := [⟨['x'], ['y'], by decide, by decide, by decide⟩]

/-- The application when it has just read these segments. -/
def withFourSegments : App :=
  start singleReplacement (Origin.ofSystem singleReplacement fourSegments)
    "System loaded from source. Press 'h' for help."

theorem withFourSegments_reachable :
    Reachable singleReplacement withFourSegments := by
  have read : Document.read (Document.write fourSegments) =
      .ok fourSegments := rfl
  refine .started (.ofText (?_ :
    ofText singleReplacement (Document.write fourSegments) = _))
  simp only [ofText, Origin.read, read]
  rfl

/-- With four segments a search may go wrong: the seeds differ. -/
theorem not_isLive_after_search_withFourSegments :
    ¬ ∀ discovery : Discovery,
      discovery.rules.isLive singleReplacement.growthLimit
        singleReplacement.seed = true →
      (withFourSegments.finishSearch (.ok discovery)).IsLive := by
  intro always
  have same := (isLive_after_search singleReplacement_isSound
    withFourSegments_reachable).2.2.1.mp always
  exact absurd same (by decide)

/-- A search that does go wrong in a state that the application comes to under
accepted settings: rules that add a mark to every segment are live on one
segment and are stopped at four. -/
theorem exists_search_not_isLive :
    singleReplacement.validate = .ok () ∧
      Reachable singleReplacement withFourSegments ∧
      ∃ discovery, Search.MayComeTo singleReplacement (.ok discovery) ∧
        ¬ (withFourSegments.finishSearch (.ok discovery)).IsLive := by
  let marking : Rule :=
    ⟨['f'], ['f', 'x'], by decide, by decide, by decide⟩
  have markingDrawable : marking.IsDrawable :=
    ⟨rfl, by decide, rfl, by decide⟩
  have drawable : RuleSet.IsDrawable [marking, marking] :=
    ⟨by decide, by decide, by simp [markingDrawable]⟩
  obtain ⟨attempts, found⟩ :=
    (Search.exists_mayComeTo_iff singleReplacement_isSound.attempts_ne_zero).mpr
      ⟨drawable, rfl⟩
  refine ⟨validate_singleReplacement, withFourSegments_reachable, _, found, ?_⟩
  rw [isLive_finishSearch_iff, Bool.not_eq_true]
  rfl

end Terminal.App

end TurtleSystems
