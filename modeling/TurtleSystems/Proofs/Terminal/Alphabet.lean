import TurtleSystems.Proofs.Terminal.Reachable

/-!
# The alphabet of the application

Rules come into the application from documents, from lines of text, from the
editor, from searches and from the presets.  Each of these gives rules over
the alphabet, and nothing else changes the rules.
-/

namespace TurtleSystems.Terminal.App

variable {config : Config} {app : App}

theorem isOverAlphabet_of_started (started : Started config app) :
    app.animation.rules.IsOverAlphabet := by
  obtain ⟨origin, message, rfl, ⟨text, reading, read⟩ |
    ⟨discovery, found, rfl⟩⟩ := started.exists_origin
  · exact Origin.isOverAlphabet_of_read read
  · exact (Search.isDrawable_of_mayComeTo found).1.isOverAlphabet

/-- In every state the rules are over the alphabet. -/
theorem isOverAlphabet_of_reachable (reachable : Reachable config app) :
    app.animation.rules.IsOverAlphabet := by
  induction reachable using Reachable.invariant with
  | started app begins => exact isOverAlphabet_of_started begins
  | effect before after _ _ effect ih =>
      cases effect with
      | display | restart => exact ih
      | frame shown | halt shown =>
          have kept := Animation.keeps_of_tick shown
          rwa [← kept.2.2] at ih
      | found possible =>
          exact (Search.isDrawable_of_mayComeTo possible).1.isOverAlphabet
      | edited buffer => exact RuleSet.isOverAlphabet_ofText buffer
      | preset listed => exact Preset.isOverAlphabet_of_atIndex listed

end TurtleSystems.Terminal.App
