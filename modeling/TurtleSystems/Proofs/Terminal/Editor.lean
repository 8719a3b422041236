import TurtleSystems.Proofs.Terminal.Alphabet

/-!
# Editing the rules

The editor opens with the lines of the rules, and the rules are over the
alphabet, so closing it at once gives the same rules back.  Until it is closed
everything that happens only writes into its text.  What is written on lines
of its own adds its rules behind the others.
-/

namespace TurtleSystems.Terminal.App

/-- The press of the key that opens the editor. -/
def editPress : KeyPress := ⟨.character 'e', none⟩

/-- An event that does not close the editor. -/
def Event.KeepsOpen : Event → Prop
  | .autoTick => True
  | .key press _ => press.key ≠ .escape

/-- An event that takes nothing away from the text in the editor. -/
def Event.Types : Event → Prop
  | .autoTick => True
  | .key press _ => press.key ≠ .escape ∧ press.key ≠ .backspace

/-- What an event writes behind the text in the editor. -/
def Event.typed : Event → Text
  | .autoTick => []
  | .key press _ => App.typed press.key

/-- The text in the editor after a key that leaves it open. -/
def written (buffer : Text) : Key → Text
  | .backspace => buffer.dropLast
  | key => buffer ++ typed key

/-- The text in the editor after an event that leaves it open. -/
def Event.written (buffer : Text) : Event → Text
  | .autoTick => buffer
  | .key press _ => App.written buffer press.key

/-- The editor was closed over a text, and its rules are shown from the
beginning. -/
structure Applied (buffer : Text) (before after : App) : Prop where
  closed : after.editor = none
  rules_eq : after.animation.rules = RuleSet.ofText buffer
  seed_eq : after.animation.seed = before.animation.seed
  idle : after.animation.phase = .idle
  at_seed : after.animation.depth = 0
  program_eq : after.animation.program = after.animation.seed
  no_preset : after.preset = none
  no_frame : after.frame = none
  plays : after.autoPlay = true

section Open

variable {app : App} {buffer : Text}

theorem applied (app : App) (buffer : Text) :
    Applied buffer app (app.applyEdit buffer) :=
  ⟨rfl, rfl, rfl, rfl, rfl, rfl, rfl, rfl, rfl⟩

theorem autoTick_of_editing (editing : app.editor = some buffer) :
    app.autoTick = app := by
  simp [autoTick, isAutoPlaying, isEditing, editing]

theorem editKey_of_ne_escape {key : Key} (stays : key ≠ .escape) :
    app.editKey buffer key =
      { app with editor := some (written buffer key) } := by
  cases key with
  | escape => exact absurd rfl stays
  | _ => rfl

theorem written_of_ne_backspace {key : Key} (keeps : key ≠ .backspace) :
    written buffer key = buffer ++ typed key := by
  cases key with
  | backspace => exact absurd rfl keeps
  | _ => rfl

theorem handle_of_escape {press : KeyPress} (editing : app.editor = some buffer)
    (closes : press.key = .escape) :
    app.handle press = (app.applyEdit buffer, none) := by
  rw [handle_of_editing editing, closes]
  rfl

theorem react_of_editing {event : Event} (editing : app.editor = some buffer)
    (stays : event.KeepsOpen) :
    app.react event =
      { app with editor := some (event.written buffer) } := by
  cases event with
  | autoTick =>
      rw [react, autoTick_of_editing editing, Event.written, ← editing]
  | key press found =>
      rw [react, handle_of_editing editing, editKey_of_ne_escape stays]
      rfl

/-- Until the editor is closed nothing but its text changes. -/
theorem run_of_editing {events : List Event}
    (editing : app.editor = some buffer)
    (stay : ∀ event ∈ events, event.KeepsOpen) :
    app.run events =
      { app with editor := some (events.foldl Event.written buffer) } := by
  induction events generalizing app buffer with
  | nil => rw [run_nil, List.foldl_nil, ← editing]
  | cons event events ih =>
      obtain ⟨first, others⟩ := List.forall_mem_cons.mp stay
      rw [run_cons, react_of_editing editing first, ih rfl others,
        List.foldl_cons]

end Open

section Typing

variable {event : Event} {events : List Event} {buffer : Text}

theorem Event.Types.keepsOpen (types : event.Types) : event.KeepsOpen := by
  cases event with
  | autoTick => trivial
  | key press found => exact types.1

theorem written_of_types (types : event.Types) :
    event.written buffer = buffer ++ event.typed := by
  cases event with
  | autoTick => exact (List.append_nil buffer).symm
  | key press found => exact written_of_ne_backspace types.2

theorem foldl_written (types : ∀ event ∈ events, event.Types) :
    events.foldl Event.written buffer =
      buffer ++ events.flatMap Event.typed := by
  induction events generalizing buffer with
  | nil => simp
  | cons event events ih =>
      obtain ⟨first, others⟩ := List.forall_mem_cons.mp types
      rw [List.foldl_cons, written_of_types first, ih others,
        List.flatMap_cons, List.append_assoc]

end Typing

section Sessions

variable {config : Config} {app : App}

theorem react_editPress (closed : app.editor = none)
    (found : Except SearchExhausted Discovery) :
    app.react (.key editPress found) = app.startEditing :=
  react_of_perform closed rfl rfl found

/-- Opening the editor, typing and closing it gives the rules on the lines of
the old rules with what was typed behind them. -/
theorem rules_of_session {events : List Event} {closing : KeyPress}
    (closed : app.editor = none) (types : ∀ event ∈ events, event.Types)
    (closes : closing.key = .escape)
    (found ignored : Except SearchExhausted Discovery) :
    (app.run (.key editPress found ::
        (events ++ [.key closing ignored]))).animation.rules =
      RuleSet.ofText
        (app.animation.rules.toText ++ events.flatMap Event.typed) := by
  have opened : app.startEditing.editor = some app.animation.rules.toText := rfl
  rw [run_cons, react_editPress closed, run_append,
    run_of_editing opened fun event member => (types event member).keepsOpen,
    foldl_written types, run_cons, run_nil, react,
    handle_of_escape rfl closes]
  rfl

/-- The help is never open over the editor. -/
theorem editor_eq_none_or_of_reachable (reachable : Reachable config app) :
    app.editor = none ∨ app.helpShown = false := by
  induction reachable using Reachable.invariant with
  | started app begins =>
      obtain ⟨origin, message, rfl, -⟩ := begins.exists_origin
      exact .inl rfl
  | effect before after _ _ effect ih =>
      cases effect with
      | display apart => exact apart ih
      | frame | halt | restart | found | preset => exact ih
      | edited => exact .inl rfl

/-- A session of the editor in which nothing is typed keeps the rules, and one
in which a new line and a text are typed adds the rules of the text.  Until
the editor is closed the help is hidden, no time passes for the animation, and
the keys only change the text and ask for nothing.  Closing it shows its rules
from the seed. -/
theorem editor_of_reachable (reachable : Reachable config app) :
    (app.editor = none →
      ∀ (events : List Event) (closing : KeyPress)
        (found ignored : Except SearchExhausted Discovery),
        (∀ event ∈ events, event.Types) → closing.key = .escape →
        let after := app.run
          (.key editPress found :: (events ++ [.key closing ignored]))
        (events.flatMap Event.typed = [] →
          after.animation.rules = app.animation.rules) ∧
        ∀ text, events.flatMap Event.typed = '\n' :: text →
          after.animation.rules =
            app.animation.rules ++ RuleSet.ofText text) ∧
    ∀ buffer, app.editor = some buffer →
      app.helpShown = false ∧
      app.autoTick = app ∧
      (∀ press : KeyPress, press.key ≠ .escape →
        app.handle press =
          ({ app with editor := some (written buffer press.key) }, none)) ∧
      (∀ events : List Event, (∀ event ∈ events, event.KeepsOpen) →
        app.run events =
          { app with editor := some (events.foldl Event.written buffer) }) ∧
      ∀ press : KeyPress, press.key = .escape →
        ∃ after, app.handle press = (after, none) ∧
          Applied buffer app after := by
  -- Only rules over the alphabet can be read back from the lines that the
  -- editor opens with.
  have words := isOverAlphabet_of_reachable reachable
  constructor
  · intro closed events closing found ignored types closes after
    have rulesAfter := rules_of_session closed types closes found ignored
    constructor
    · intro nothing
      rw [rulesAfter, nothing, List.append_nil, RuleSet.ofText_toText words]
    · intro text typed
      rw [rulesAfter, typed, RuleSet.ofText_append_cons,
        RuleSet.ofText_toText words]
  · intro buffer editing
    refine ⟨?_, autoTick_of_editing editing, ?_,
      fun events => run_of_editing editing, ?_⟩
    · rcases editor_eq_none_or_of_reachable reachable with closed | hidden
      · rw [editing] at closed
        cases closed
      · exact hidden
    · intro press stays
      rw [handle_of_editing editing, editKey_of_ne_escape stays]
    · intro press closes
      exact ⟨_, handle_of_escape editing closes, applied app buffer⟩

/-- Behind the doubling rule another one is typed, and the key that would
leave the application is typed as well while the editor is open. -/
theorem editor_of_reachable_doubling :
    let app := withDoubling Config.standard
    let pressed (key : Key) := Event.key ⟨key, none⟩ (.error ⟨0⟩)
    let typing := [pressed .enter, pressed (.character '-'), pressed .tab,
      pressed (.character 'f')]
    (Reachable Config.standard app ∧ app.editor = none ∧
      (∀ event ∈ typing, event.Types) ∧
      (app.run [.key editPress (.error ⟨0⟩), pressed .escape]).animation.rules =
        Origin.doubling ∧
      (app.run (.key editPress (.error ⟨0⟩) ::
          (typing ++ [pressed .escape]))).animation.rules =
        Origin.doubling ++
          [⟨['-'], ['f'], by decide, by decide, by decide⟩]) ∧
    (Reachable Config.standard app.startEditing ∧
      app.startEditing.editor = some Origin.doubling.toText ∧
      app.startEditing.handle ⟨.character 'q', none⟩ =
        ({ app.startEditing with
          editor := some (Origin.doubling.toText ++ ['q']) }, none) ∧
      ∃ after, app.startEditing.handle ⟨.escape, none⟩ = (after, none) ∧
        Applied Origin.doubling.toText app.startEditing after) := by
  intro app pressed typing
  have reachable : Reachable Config.standard app := withDoubling_reachable _
  have opened : Reachable Config.standard app.startEditing := by
    obtain ⟨found, possible⟩ := Search.exists_mayComeTo Config.standard
    rw [← react_editPress rfl found]
    exact reachable.react possible
  have types : ∀ event ∈ typing, event.Types := by
    simp [typing, pressed, Event.Types]
  obtain ⟨session, -⟩ := editor_of_reachable reachable
  obtain ⟨-, editing⟩ := editor_of_reachable opened
  obtain ⟨-, -, writes, -, applies⟩ := editing Origin.doubling.toText rfl
  have untouched := (session rfl [] ⟨.escape, none⟩ (.error ⟨0⟩) (.error ⟨0⟩)
    (List.forall_mem_nil _) rfl).1 rfl
  have added := (session rfl typing ⟨.escape, none⟩ (.error ⟨0⟩) (.error ⟨0⟩)
    types rfl).2 ['-', ' ', '→', ' ', 'f'] rfl
  exact ⟨⟨reachable, rfl, types, untouched, added⟩,
    opened, rfl, writes ⟨.character 'q', none⟩ (by decide),
    applies ⟨.escape, none⟩ rfl⟩

end Sessions

end TurtleSystems.Terminal.App
