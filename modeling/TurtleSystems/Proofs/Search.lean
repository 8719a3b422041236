import TurtleSystems.Proofs.Derivation
import TurtleSystems.Proofs.Random.Rules
import TurtleSystems.Search

/-!
# What a search may find

A search is asked of some stream of random words.  It finds rule sets of the
size that is drawn that are live on the seed it was given, and each of them is
found with some words.
-/

namespace TurtleSystems.Search

/-- What the search that the settings describe comes to with some stream of
random words. -/
def MayComeTo (config : Config)
    (result : Except SearchExhausted Discovery) : Prop :=
  ∃ (σ : Type) (_ : WordSource σ) (source rest : σ),
    discover config source = some (result, rest)

theorem onlyGives_candidates {σ : Type} [WordSource σ]
    (budget limit : Nat) (seed : Text) (remaining tried : Nat) :
    Draw.OnlyGives
      (candidates budget limit seed remaining tried :
        Draw σ (Except SearchExhausted Discovery))
      fun result => ∀ discovery, result = .ok discovery →
        discovery.rules.IsDrawable ∧
          discovery.rules.isLive limit seed = true := by
  induction remaining generalizing tried with
  | zero => exact .pure (by simp)
  | succ remaining ih =>
      refine .bind (Draw.onlyGives_ruleSet budget) fun rules drawable => ?_
      split
      · next live =>
          refine .pure ?_
          rintro discovery ⟨⟩
          exact ⟨drawable, live⟩
      · exact ih (tried + 1)

theorem canGive_candidates {budget limit remaining : Nat} {seed : Text}
    {rules : RuleSet} (drawable : rules.IsDrawable)
    (live : rules.isLive limit seed = true) (tried : Nat) :
    Draw.CanGive
      (candidates (budget + 1) limit seed (remaining + 1) tried)
      (.ok ⟨rules, tried + 1⟩) := by
  refine .bind (Draw.canGive_ruleSet budget drawable) ?_
  rw [if_pos live]
  exact .pure _

theorem exists_canGive_candidates (budget limit : Nat) (seed : Text)
    (remaining tried : Nat) :
    ∃ result, Draw.CanGive
      (candidates (budget + 1) limit seed remaining tried) result := by
  have sproutingDrawable : Rule.sprouting.IsDrawable :=
    ⟨rfl, by decide, rfl, by decide⟩
  have drawable : RuleSet.IsDrawable [Rule.sprouting, Rule.sprouting] :=
    ⟨by decide, by decide, by simp [sproutingDrawable]⟩
  have drawn := Draw.canGive_ruleSet budget drawable
  induction remaining generalizing tried with
  | zero => exact ⟨_, .pure _⟩
  | succ remaining ih =>
      by_cases live :
          RuleSet.isLive [Rule.sprouting, Rule.sprouting] limit seed = true
      · exact ⟨_, canGive_candidates drawable live tried⟩
      · obtain ⟨result, given⟩ := ih (tried + 1)
        refine ⟨result, .bind drawn ?_⟩
        rwa [if_neg live]

/-- With some words the search comes to an end, whatever the settings are. -/
theorem exists_mayComeTo (config : Config) :
    ∃ result, MayComeTo config result := by
  obtain ⟨result, words, given⟩ := exists_canGive_candidates
    (UInt32.size - 1) config.growthLimit config.seed config.searchAttempts 0
  exact ⟨result, ListedWords, inferInstance, ⟨words ++ [], 0⟩, ⟨[], 0⟩,
    given [] 0⟩

/-- The rules that a search finds are of the size that is drawn, and live on
the configured seed. -/
theorem isDrawable_of_mayComeTo {config : Config} {discovery : Discovery}
    (found : MayComeTo config (.ok discovery)) :
    discovery.rules.IsDrawable ∧
      discovery.rules.isLive config.growthLimit config.seed = true := by
  obtain ⟨σ, words, source, rest, found⟩ := found
  exact onlyGives_candidates budget _ _ _ _ found _ rfl

/-- The search of the settings finds the rule sets of the size that is drawn
that are live on the configured seed, and only those. -/
theorem exists_mayComeTo_iff {config : Config}
    (attemptsNeZero : config.searchAttempts ≠ 0) {rules : RuleSet} :
    (∃ attempts, MayComeTo config (.ok ⟨rules, attempts⟩)) ↔
      rules.IsDrawable ∧
        rules.isLive config.growthLimit config.seed = true := by
  constructor
  · rintro ⟨attempts, found⟩
    exact isDrawable_of_mayComeTo found
  · rintro ⟨drawable, live⟩
    obtain ⟨remaining, attemptsEq⟩ :=
      Nat.exists_eq_succ_of_ne_zero attemptsNeZero
    obtain ⟨words, given⟩ := canGive_candidates drawable live 0
    refine ⟨1, ListedWords, inferInstance, ⟨words ++ [], 0⟩, ⟨[], 0⟩, ?_⟩
    rw [discover, run, attemptsEq]
    exact given [] 0

end TurtleSystems.Search
