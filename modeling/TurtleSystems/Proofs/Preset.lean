import TurtleSystems.Preset
import TurtleSystems.Proofs.RuleLines

/-!
# The gallery of presets

A place of the gallery is a number below the number of presets.  The presets
are over the alphabet and leave the seed to the settings.
-/

namespace TurtleSystems.Preset

variable {index : Nat} {system : LSystem}

theorem count_pos : 0 < count := by decide

theorem atIndex_eq_ok_iff :
    atIndex index = .ok system ↔ gallery[index]? = some system := by
  unfold atIndex
  split
  · next preset found => simp [found]
  · next missing => simp [missing]

theorem exists_atIndex_iff :
    (∃ system, atIndex index = .ok system) ↔ index < count := by
  simp only [atIndex_eq_ok_iff]
  constructor
  · rintro ⟨system, listed⟩
    exact (List.getElem?_eq_some_iff.mp listed).1
  · intro indexLt
    exact ⟨_, List.getElem?_eq_getElem indexLt⟩

theorem mem_gallery_of_atIndex (listed : atIndex index = .ok system) :
    system ∈ gallery :=
  List.mem_of_getElem? (atIndex_eq_ok_iff.mp listed)

theorem seed_of_atIndex (listed : atIndex index = .ok system) :
    system.seed = none := by
  have seedless : ∀ preset ∈ gallery, preset.seed = none := by decide
  exact seedless system (mem_gallery_of_atIndex listed)

theorem isOverAlphabet_of_atIndex (listed : atIndex index = .ok system) :
    system.rules.IsOverAlphabet := by
  have words : ∀ preset ∈ gallery, preset.rules.IsOverAlphabet := by
    decide +kernel
  exact words system (mem_gallery_of_atIndex listed)

end TurtleSystems.Preset
