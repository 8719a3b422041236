import TurtleSystems.Origin
import TurtleSystems.Proofs.Config
import TurtleSystems.Proofs.Document.Writing

/-!
# Writing what was read

Whatever text an origin was read from, its system fits into the lines of a
document.  So the document that is written for it gives the same system back,
unless the name of the origin is empty or the document is too large.
-/

namespace TurtleSystems.Origin

variable {config : Config} {text : Text} {reading : Reading} {origin : Origin}

theorem isWritable_of_ofSystem (sound : config.IsSound) {system : LSystem}
    (writable : Document.IsWritable system) :
    Document.IsWritable (ofSystem config system).toSystem := by
  refine { writable with seed_word := ?_ }
  intro seed found
  cases found
  cases seedEq : system.seed with
  | none =>
      simp only [ofSystem, LSystem.seedOr, seedEq, Option.getD_none]
      exact ⟨sound.seed_ne_nil, sound.seed_program⟩
  | some own =>
      simp only [ofSystem, LSystem.seedOr, seedEq, Option.getD_some]
      exact writable.seed_word own seedEq

theorem isWritable_of_ruleLines (sound : config.IsSound)
    (rulesNeNil : RuleSet.ofText text ≠ []) :
    Document.IsWritable
      (toSystem ⟨customName, config.seed, RuleSet.ofText text⟩) where
  name_trimmed := show Text.trim customName = customName by decide
  name_unmarked := show Document.IsUnmarked customName by decide
  seed_word := by
    intro seed found
    cases found
    exact ⟨sound.seed_ne_nil, sound.seed_program⟩
  rules_ne_nil := rulesNeNil
  rules_words := fun _ => RuleSet.isOverAlphabet_of_mem_ofText

/-- However a text was understood, what was read fits into the lines of a
document. -/
theorem isWritable_of_read (sound : config.IsSound)
    (read : read config text = .ok (reading, origin)) :
    Document.IsWritable origin.toSystem := by
  unfold Origin.read at read
  split at read
  · next system systemRead =>
      cases read
      exact isWritable_of_ofSystem sound
        (Document.isWritable_of_read systemRead)
  · split at read
    · cases read
    · next rulesNeNil =>
        cases read
        exact isWritable_of_ruleLines sound rulesNeNil

theorem isOverAlphabet_of_read
    (read : read config text = .ok (reading, origin)) :
    origin.rules.IsOverAlphabet := by
  unfold Origin.read at read
  split at read
  · next system systemRead =>
      cases read
      exact (Document.isWritable_of_read systemRead).rules_words
  · split at read
    · cases read
    · cases read
      exact RuleSet.isOverAlphabet_ofText text

/-- What is written for an origin is read back exactly if the origin has a name
and the document is not too large, and it is never read as another system. -/
theorem read_write_toSystem (sound : config.IsSound)
    (read : read config text = .ok (reading, origin)) :
    (Document.read (Document.write origin.toSystem) = .ok origin.toSystem ↔
      origin.name ≠ [] ∧
        Text.byteLength (Document.write origin.toSystem) ≤
          Document.maximumSize) ∧
    ∀ system, Document.read (Document.write origin.toSystem) = .ok system →
      system = origin.toSystem := by
  have writable := isWritable_of_read sound read
  refine ⟨?_, fun system found => (writable.read_write_eq_ok_iff.mp found).1⟩
  rw [writable.read_write_eq_ok_iff]
  exact ⟨fun ⟨_, nameNeNil, fits⟩ => ⟨nameNeNil, fits⟩,
    fun ⟨nameNeNil, fits⟩ => ⟨rfl, nameNeNil, fits⟩⟩

/-- One rule that doubles every segment. -/
def doubling : RuleSet :=
  [⟨['f'], ['f', 'f'], by decide, by decide, by decide⟩]

/-- Read from rules without a document, written, and read back. -/
theorem read_write_toSystem_doubling :
    Document.read (Document.write
        (toSystem ⟨customName, Config.standard.seed, doubling⟩)) =
      .ok (toSystem ⟨customName, Config.standard.seed, doubling⟩) :=
  have read : Origin.read Config.standard (RuleSet.toText doubling) =
      .ok (.ruleLines, ⟨customName, Config.standard.seed, doubling⟩) := rfl
  (read_write_toSystem Config.standard_isSound read).1.mpr
    ⟨by decide, by decide⟩

/-- A document that has nothing but a no-break space for a name. -/
def blankName : Text :=
  Document.nameHeading ++ '\u00a0' :: '\n' ::
    Document.rulesHeading ++ '\n' :: RuleSet.toText doubling

/-- It is read with the usual settings, but what is written for it is no
document. -/
theorem exists_read_not_read_write :
    Config.standard.validate = .ok () ∧
      ∃ origin, Origin.read Config.standard blankName =
          .ok (.document, origin) ∧
        Document.read (Document.write origin.toSystem) ≠
          .ok origin.toSystem := by
  refine ⟨Config.validate_standard, ⟨[], ['f'], doubling⟩, rfl, ?_⟩
  decide

end TurtleSystems.Origin
