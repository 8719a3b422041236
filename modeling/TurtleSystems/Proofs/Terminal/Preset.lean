import TurtleSystems.Proofs.Terminal.Reachable
import TurtleSystems.Terminal.Screen

/-!
# The place in the gallery

While the application names a place of the gallery, it has the name, the rules
and the seed of the preset there, whatever was done since the preset was
chosen.  Going on through the gallery and going back lead around it, and each
undoes the other.
-/

namespace TurtleSystems.Terminal.App

section Shown

variable {config : Config} {app : App} {index : Nat} {system : LSystem}

/-- The application has the name, the rules and the seed of a preset. -/
structure Shows (config : Config) (app : App) (system : LSystem) : Prop where
  name_eq : app.name = system.name
  rules_eq : app.animation.rules = system.rules
  seed_eq : app.animation.seed = system.seedOr config.seed

theorem Shows.of_tick {animation : Animation} {shown : Tick}
    (shows : Shows config app system)
    (ticked : app.animation.tick = (shown, animation)) :
    animation.rules = system.rules ∧
      animation.seed = system.seedOr config.seed := by
  obtain ⟨-, seedEq, rulesEq⟩ := Animation.keeps_of_tick ticked
  exact ⟨rulesEq.trans shows.rules_eq, seedEq.trans shows.seed_eq⟩

theorem exists_shows (reachable : Reachable config app) :
    ∀ index, app.preset = some index →
      ∃ system, Preset.atIndex index = .ok system ∧
        Shows config app system := by
  induction reachable using Reachable.invariant with
  | started app begins =>
      obtain ⟨origin, message, rfl, -⟩ := begins.exists_origin
      intro index chosen
      cases chosen
  | effect before after reachable _ effect ih =>
      intro index chosen
      cases effect with
      | display | restart =>
          obtain ⟨system, listed, shows⟩ := ih index chosen
          exact ⟨system, listed, { shows with }⟩
      | frame ticked | halt ticked =>
          obtain ⟨system, listed, shows⟩ := ih index chosen
          obtain ⟨rulesEq, seedEq⟩ := shows.of_tick ticked
          exact ⟨system, listed,
            { shows with rules_eq := rulesEq, seed_eq := seedEq }⟩
      | found | edited => cases chosen
      | @preset place system listed =>
          cases chosen
          refine ⟨system, listed, rfl, rfl, ?_⟩
          rw [← (seed_of_reachable reachable).1]
          rfl

end Shown

section Choice

variable {config : Config} {app : App} {index : Nat}
variable (found : Except SearchExhausted Discovery)

/-- A preset was just chosen: it is shown from its beginning, and nothing
stands in the way of choosing another. -/
structure HasChosen (config : Config) (app : App) (index : Nat) : Prop where
  config_eq : app.config = config
  editor_eq : app.editor = none
  preset_eq : app.preset = some index
  frame_eq : app.frame = none
  exists_preset : ∃ system, Preset.atIndex index = .ok system ∧
    app.name = system.name ∧
    app.animation = Animation.start config system.rules
      (system.seedOr config.seed)

theorem hasChosen_loadPreset (configEq : app.config = config)
    (closed : app.editor = none) (indexLt : index < Preset.count) :
    HasChosen config (app.loadPreset index) index := by
  obtain ⟨system, listed⟩ := Preset.exists_atIndex_iff.mpr indexLt
  subst configEq
  rw [loadPreset_of_atIndex listed]
  exact ⟨rfl, closed, rfl, rfl, system, listed, rfl, rfl⟩

theorem react_right (closed : app.editor = none) :
    app.react (.key ⟨.right, none⟩ found) = app.nextPreset :=
  react_of_perform closed rfl rfl found

theorem react_left (closed : app.editor = none) :
    app.react (.key ⟨.left, none⟩ found) = app.previousPreset :=
  react_of_perform closed rfl rfl found

theorem hasChosen_next (configEq : app.config = config)
    (closed : app.editor = none) (chosen : app.preset = some index) :
    HasChosen config (app.react (.key ⟨.right, none⟩ found))
      ((index + 1) % Preset.count) := by
  rw [react_right found closed, nextPreset, chosen]
  apply hasChosen_loadPreset configEq closed
  exact Nat.mod_lt _ Preset.count_pos

theorem hasChosen_first (configEq : app.config = config)
    (closed : app.editor = none) (unchosen : app.preset = none) :
    HasChosen config (app.react (.key ⟨.right, none⟩ found)) 0 := by
  rw [react_right found closed, nextPreset, unchosen]
  exact hasChosen_loadPreset configEq closed Preset.count_pos

theorem hasChosen_previous (configEq : app.config = config)
    (closed : app.editor = none) (chosen : app.preset = some index)
    (indexLt : index < Preset.count) :
    HasChosen config (app.react (.key ⟨.left, none⟩ found))
      ((index + (Preset.count - 1)) % Preset.count) := by
  have countPos := Preset.count_pos
  -- Around the gallery, one back is all but one of its places on.
  rw [react_left found closed, previousPreset, chosen]
  cases index with
  | zero =>
      rw [Nat.zero_add, Nat.mod_eq_of_lt (by omega)]
      exact hasChosen_loadPreset configEq closed (by omega)
  | succ index =>
      have around : index + 1 + (Preset.count - 1) =
          index + Preset.count := by omega
      rw [around, Nat.add_mod_right, Nat.mod_eq_of_lt (by omega)]
      exact hasChosen_loadPreset configEq closed (by omega)

theorem hasChosen_next_previous (configEq : app.config = config)
    (closed : app.editor = none) (chosen : app.preset = some index)
    (indexLt : index < Preset.count) :
    HasChosen config (app.run [.key ⟨.right, none⟩ found,
      .key ⟨.left, none⟩ found]) index := by
  have next := hasChosen_next found configEq closed chosen
  have back := hasChosen_previous found next.config_eq next.editor_eq
    next.preset_eq (Nat.mod_lt _ Preset.count_pos)
  have around : index + 1 + (Preset.count - 1) = index + Preset.count := by
    omega
  rw [Nat.mod_add_mod, around, Nat.add_mod_right,
    Nat.mod_eq_of_lt indexLt] at back
  exact back

theorem hasChosen_previous_next (configEq : app.config = config)
    (closed : app.editor = none) (chosen : app.preset = some index)
    (indexLt : index < Preset.count) :
    HasChosen config (app.run [.key ⟨.left, none⟩ found,
      .key ⟨.right, none⟩ found]) index := by
  have previous := hasChosen_previous found configEq closed chosen indexLt
  have back := hasChosen_next found previous.config_eq previous.editor_eq
    previous.preset_eq
  have around : index + (Preset.count - 1) + 1 = index + Preset.count := by
    omega
  rw [Nat.mod_add_mod, around, Nat.add_mod_right,
    Nat.mod_eq_of_lt indexLt] at back
  exact back

/-- From no choice on, presses of the key choose one preset after the other,
over and over. -/
theorem hasChosen_presses (configEq : app.config = config)
    (closed : app.editor = none) (unchosen : app.preset = none)
    (presses : Nat) :
    HasChosen config
      (app.run (List.replicate (presses + 1) (.key ⟨.right, none⟩ found)))
      (presses % Preset.count) := by
  induction presses with
  | zero => exact hasChosen_first found configEq closed unchosen
  | succ presses ih =>
      have next :=
        hasChosen_next found ih.config_eq ih.editor_eq ih.preset_eq
      rw [Nat.mod_add_mod] at next
      rw [List.replicate_succ', run_append]
      exact next

end Choice

/-- In every state that names a place of the gallery the application shows the
preset there, under its name.  Going on and back, or back and on, leads to the
beginning of the same preset, and from no choice the presses of a key choose
the presets in a circle. -/
theorem indicator_of_reachable {config : Config} {app : App}
    (reachable : Reachable config app) :
    (∀ index, app.preset = some index →
      index < Preset.count ∧
      ∃ system, Preset.atIndex index = .ok system ∧
        app.name = system.name ∧
        Screen.title app =
          system.name ++ " (".toList ++ Decimal.digits (index + 1) ++
            '/' :: Decimal.digits Preset.count ++ [')'] ∧
        app.animation.rules = system.rules ∧
        app.animation.seed = system.seedOr config.seed) ∧
    (app.editor = none → ∀ found : Except SearchExhausted Discovery,
      let previous := Event.key ⟨.left, none⟩ found
      let next := Event.key ⟨.right, none⟩ found
      (∀ index, app.preset = some index →
        HasChosen config (app.run [next, previous]) index ∧
        HasChosen config (app.run [previous, next]) index) ∧
      (app.preset = none → ∀ presses, 1 ≤ presses →
        HasChosen config (app.run (List.replicate presses next))
          ((presses - 1) % Preset.count))) := by
  have configEq := (seed_of_reachable reachable).1
  have indexLt {index : Nat} (chosen : app.preset = some index) :
      index < Preset.count := by
    obtain ⟨system, listed, -⟩ := exists_shows reachable index chosen
    exact Preset.exists_atIndex_iff.mp ⟨system, listed⟩
  constructor
  · intro index chosen
    obtain ⟨system, listed, shows⟩ := exists_shows reachable index chosen
    refine ⟨indexLt chosen, system, listed, shows.name_eq, ?_,
      shows.rules_eq, shows.seed_eq⟩
    simp only [Screen.title, chosen, shows.name_eq]
  · intro closed found previous next
    constructor
    · intro index chosen
      constructor
      · exact hasChosen_next_previous found configEq closed chosen
          (indexLt chosen)
      · exact hasChosen_previous_next found configEq closed chosen
          (indexLt chosen)
    · intro unchosen presses somePress
      obtain ⟨before, rfl⟩ := Nat.exists_eq_add_of_le' somePress
      exact hasChosen_presses found configEq closed unchosen before

/-- Nine presses lead from rules of no preset to the last of the gallery, and
there the presses on and back go over its end. -/
theorem indicator_of_reachable_doubling :
    ∃ found : Except SearchExhausted Discovery,
      let previous := Event.key ⟨.left, none⟩ found
      let next := Event.key ⟨.right, none⟩ found
      let begun := withDoubling Config.standard
      let last := begun.run (List.replicate 9 next)
      Reachable Config.standard last ∧
        last.name = "Romulan war bird".toList ∧
        Screen.title last = "Romulan war bird (9/9)".toList ∧
        HasChosen Config.standard (last.run [next, previous]) 8 ∧
        HasChosen Config.standard (begun.run (List.replicate 10 next)) 0 := by
  obtain ⟨found, possible⟩ := Search.exists_mayComeTo Config.standard
  refine ⟨found, ?_⟩
  intro previous next begun last
  have started := withDoubling_reachable Config.standard
  have reached : Reachable Config.standard last := by
    apply started.run
    intro event member
    rw [List.eq_of_mem_replicate member]
    exact possible
  have pressed := ((indicator_of_reachable started).2 rfl found).2 rfl
  have arrived : HasChosen Config.standard last 8 := pressed 9 (by decide)
  obtain ⟨shown, circled⟩ := indicator_of_reachable reached
  obtain ⟨-, system, listed, nameEq, titleEq, -, -⟩ :=
    shown 8 arrived.preset_eq
  cases listed
  exact ⟨reached, nameEq, titleEq,
    ((circled arrived.editor_eq found).1 8 arrived.preset_eq).1,
    pressed 10 (by decide)⟩

end TurtleSystems.Terminal.App
