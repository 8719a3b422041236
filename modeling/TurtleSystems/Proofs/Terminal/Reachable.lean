import TurtleSystems.Proofs.Animation
import TurtleSystems.Proofs.Origin
import TurtleSystems.Proofs.Preset
import TurtleSystems.Proofs.Search
import TurtleSystems.Terminal.App

/-!
# Reachable states of the terminal application

The application begins with the rules in a text or with rules that a search
found.  Then keys are pressed and time passes, in any order; a key that asks
for a search is answered by whatever the search may come to.  This file says
which states are reached in this way and all that an event can do to them, so
that an invariant has to look at each of these effects once.
-/

namespace TurtleSystems.Terminal.App

/-- What happens to the application: time passes, or a key is pressed.  The
key comes with what a search comes to, should it ask for one. -/
inductive Event where
  | autoTick
  | key (press : KeyPress) (found : Except SearchExhausted Discovery)

def react (app : App) : Event → App
  | .autoTick => app.autoTick
  | .key press found =>
    match app.handle press with
    | (after, some .search) => after.finishSearch found
    | (after, _) => after

/-- The application after some events, one after the other. -/
def run (app : App) (events : List Event) : App :=
  events.foldl react app

@[simp]
theorem run_nil (app : App) : app.run [] = app := rfl

@[simp]
theorem run_cons (app : App) (event : Event) (events : List Event) :
    app.run (event :: events) = (app.react event).run events := rfl

theorem run_append (app : App) (first others : List Event) :
    app.run (first ++ others) = (app.run first).run others :=
  List.foldl_append

/-- An event that can happen with the given settings. -/
def Event.Possible (config : Config) : Event → Prop
  | .autoTick => True
  | .key _ found => Search.MayComeTo config found

/-- The states in which the application may begin. -/
inductive Started (config : Config) : App → Prop where
  | ofText {text : Text} {app : App} (read : ofText config text = .ok app) :
      Started config app
  | ofDiscovery {discovery : Discovery}
      (found : Search.MayComeTo config (.ok discovery)) :
      Started config (ofDiscovery config discovery)

/-- The states that the application may come to. -/
inductive Reachable (config : Config) : App → Prop where
  | started {app : App} (started : Started config app) : Reachable config app
  | react {app : App} {event : Event} (reachable : Reachable config app)
      (possible : event.Possible config) : Reachable config (app.react event)

/-- Everything that an event can do.  What stands around the animation may
change in any way, but neither does the help open over the editor nor the
editor under the help. -/
inductive Effect (config : Config) (app : App) : App → Prop where
  | display {autoPlay helpShown : Bool} {message : String}
      {editor : Option Text}
      (apart : app.editor = none ∨ app.helpShown = false →
        editor = none ∨ helpShown = false) :
      Effect config app { app with autoPlay, message, helpShown, editor }
  | frame {frame : Frame} {animation : Animation}
      (shown : app.animation.tick = (.frame frame, animation)) :
      Effect config app
        { app with
          animation, frame := some frame, message := frameMessage frame }
  | halt {halt : Halt} {animation : Animation}
      (shown : app.animation.tick = (.halt halt, animation)) :
      Effect config app
        { app with
          animation
          message := haltMessage animation.depth halt
          autoPlay := false }
  | restart : Effect config app app.restart
  | found {discovery : Discovery}
      (possible : Search.MayComeTo config (.ok discovery)) :
      Effect config app (app.finishSearch (.ok discovery))
  | edited (buffer : Text) : Effect config app (app.applyEdit buffer)
  | preset {index : Nat} {system : LSystem}
      (listed : Preset.atIndex index = .ok system) :
      Effect config app
        { app with
          animation := Animation.start app.config system.rules
            (system.seedOr app.config.seed)
          frame := none
          name := system.name
          preset := some index
          autoPlay := true
          message := "Loaded preset: " ++ system.name.toString }

section Keys

variable {app : App}

theorem handle_of_editing {buffer : Text} (editing : app.editor = some buffer)
    (press : KeyPress) :
    app.handle press = (app.editKey buffer press.key, none) := by
  simp [handle, editing]

theorem handle_of_action {press : KeyPress} {action : Action}
    (closed : app.editor = none)
    (meaning : Action.ofKeyPress? press = some action) :
    app.handle press = app.perform action := by
  simp [handle, closed, meaning]

theorem handle_of_no_action {press : KeyPress} (closed : app.editor = none)
    (meaning : Action.ofKeyPress? press = none) :
    app.handle press = (app, none) := by
  simp [handle, closed, meaning]

/-- A key whose action needs nothing from outside is answered by that action
alone. -/
theorem react_of_perform {after : App} {press : KeyPress} {action : Action}
    (closed : app.editor = none)
    (meaning : Action.ofKeyPress? press = some action)
    (performed : app.perform action = (after, none))
    (found : Except SearchExhausted Discovery) :
    app.react (.key press found) = after := by
  simp only [react, handle_of_action closed meaning, performed]

theorem loadPreset_of_atIndex {index : Nat} {system : LSystem}
    (listed : Preset.atIndex index = .ok system) :
    app.loadPreset index =
      { app with
        animation := Animation.start app.config system.rules
          (system.seedOr app.config.seed)
        frame := none
        name := system.name
        preset := some index
        autoPlay := true
        message := "Loaded preset: " ++ system.name.toString } := by
  simp [loadPreset, listed]

end Keys

section Effects

variable {config : Config} (app : App)

theorem Effect.refl : Effect config app app :=
  .display id

theorem effect_tick : Effect config app app.tick := by
  unfold tick
  split
  · next shown => exact .frame shown
  · next shown => exact .halt shown

theorem effect_loadPreset (index : Nat) :
    Effect config app (app.loadPreset index) := by
  cases listed : Preset.atIndex index with
  | error fault =>
      simp only [loadPreset, listed]
      exact .display id
  | ok system =>
      rw [loadPreset_of_atIndex listed]
      exact .preset listed

theorem effect_editKey (buffer : Text) (key : Key)
    (editing : app.editor = some buffer) :
    Effect config app (app.editKey buffer key) := by
  have covered (editor : Option Text) :
      app.editor = none ∨ app.helpShown = false →
        editor = none ∨ app.helpShown = false := by
    rintro (closed | hidden)
    · rw [editing] at closed
      cases closed
    · exact .inr hidden
  unfold editKey
  split
  · exact .edited buffer
  · exact .display (covered _)
  · exact .display (covered _)

theorem effect_react (event : Event) (possible : event.Possible config) :
    Effect config app (app.react event) := by
  cases event with
  | autoTick =>
      simp only [react, autoTick]
      split
      · exact effect_tick app
      · exact .refl app
  | key press found =>
      cases editing : app.editor with
      | some buffer =>
          simp only [react, handle_of_editing editing]
          exact effect_editKey app buffer press.key editing
      | none =>
          cases meaning : Action.ofKeyPress? press with
          | none =>
              simp only [react, handle_of_no_action editing meaning]
              exact .refl app
          | some action =>
              simp only [react, handle_of_action editing meaning]
              cases action with
              | quit => exact .refl app
              | restart => exact .restart
              | tick => exact effect_tick app
              | toggleAutoPlay => exact .display id
              | edit => exact .display fun _ => .inr rfl
              | toggleHelp => exact .display fun _ => .inl editing
              | search =>
                  cases found with
                  | ok discovery => exact .found possible
                  | error exhausted => exact .display id
              | previousPreset =>
                  simp only [perform, previousPreset]
                  split <;> exact effect_loadPreset app _
              | nextPreset =>
                  simp only [perform, nextPreset]
                  split <;> exact effect_loadPreset app _

end Effects

section Invariants

variable {config : Config} {app : App}

/-- What holds in the beginning and is kept by every effect holds in every
state. -/
@[elab_as_elim]
theorem Reachable.invariant {motive : ∀ app, Reachable config app → Prop}
    (reachable : Reachable config app)
    (started : ∀ app (begins : Started config app),
      motive app (.started begins))
    (effect : ∀ before after (reachable : Reachable config before)
      (result : Reachable config after), Effect config before after →
        motive before reachable → motive after result) :
    motive app reachable := by
  induction reachable with
  | started begins => exact started _ begins
  | @react app event reachable possible ih =>
      exact effect _ _ reachable (.react reachable possible)
        (effect_react app event possible) ih

theorem Reachable.run {events : List Event} (reachable : Reachable config app)
    (possible : ∀ event ∈ events, event.Possible config) :
    Reachable config (app.run events) := by
  induction events generalizing app with
  | nil => exact reachable
  | cons event events ih =>
      obtain ⟨first, others⟩ := List.forall_mem_cons.mp possible
      exact ih (reachable.react first) others

/-- The application begins with an origin that was read or found. -/
theorem Started.exists_origin (started : Started config app) :
    ∃ origin message, app = start config origin message ∧
      ((∃ text reading, Origin.read config text = .ok (reading, origin)) ∨
        ∃ discovery, Search.MayComeTo config (.ok discovery) ∧
          origin = ⟨randomName, config.seed, discovery.rules⟩) := by
  cases started with
  | ofDiscovery found => exact ⟨_, _, rfl, .inr ⟨_, found, rfl⟩⟩
  | @ofText text app read =>
      unfold App.ofText at read
      split at read
      · cases read
      · next origin originRead =>
          cases read
          exact ⟨origin, _, rfl, .inl ⟨text, _, originRead⟩⟩
      · next origin originRead =>
          cases read
          exact ⟨origin, _, rfl, .inl ⟨text, _, originRead⟩⟩

/-- The application when it has just read the rule that doubles every
segment. -/
def withDoubling (config : Config) : App :=
  start config ⟨Origin.customName, config.seed, Origin.doubling⟩
    "Rules loaded from source. Press 'h' for help."

theorem withDoubling_reachable (config : Config) :
    Reachable config (withDoubling config) := by
  have read : Origin.read config (RuleSet.toText Origin.doubling) =
      .ok (.ruleLines,
        ⟨Origin.customName, config.seed, Origin.doubling⟩) := rfl
  refine .started (.ofText (?_ :
    ofText config (RuleSet.toText Origin.doubling) = _))
  simp only [ofText, read]
  rfl

end Invariants

/-- What an event keeps: the settings, and the seed unless a preset puts the
configured one in its place. -/
structure Follows (before after : App) : Prop where
  config_eq : after.config = before.config
  seed_eq : after.animation.seed = before.animation.seed ∨
    after.animation.seed = before.config.seed

theorem Effect.follows {config : Config} {before after : App}
    (effect : Effect config before after) : Follows before after := by
  cases effect with
  | display | restart | found | edited => exact ⟨rfl, .inl rfl⟩
  | frame shown | halt shown =>
      exact ⟨rfl, .inl (Animation.keeps_of_tick shown).2.1⟩
  | @preset index system listed =>
      refine ⟨rfl, .inr ?_⟩
      simp [Animation.start, LSystem.seedOr, Preset.seed_of_atIndex listed]

/-- The seed that a text gives is the configured one, or the document's
own. -/
theorem seed_of_read {config : Config} {text : Text} {reading : Reading}
    {origin : Origin} (read : Origin.read config text = .ok (reading, origin)) :
    origin.seed = config.seed ∨
      ∃ system, Document.read text = .ok system ∧
        system.seed = some origin.seed := by
  unfold Origin.read at read
  split at read
  · next system accepted =>
      cases read
      cases own : system.seed with
      | none => exact .inl (by simp [Origin.ofSystem, LSystem.seedOr, own])
      | some seed =>
          refine .inr ⟨system, accepted, ?_⟩
          simp [Origin.ofSystem, LSystem.seedOr, own]
  · split at read
    · cases read
    · cases read
      exact .inl rfl

theorem seed_of_started {config : Config} {app : App}
    (started : Started config app) :
    app.config = config ∧
      (app.animation.seed = config.seed ∨
        ∃ text system, Document.read text = .ok system ∧
          system.seed = some app.animation.seed) := by
  obtain ⟨origin, message, rfl, ⟨text, reading, read⟩ |
    ⟨discovery, found, rfl⟩⟩ := started.exists_origin
  · exact ⟨rfl, (seed_of_read read).imp_right fun own => ⟨text, own⟩⟩
  · exact ⟨rfl, .inl rfl⟩

/-- In every state the settings are those of the beginning, and the seed is
the configured one or the own seed of some document. -/
theorem seed_of_reachable {config : Config} {app : App}
    (reachable : Reachable config app) :
    app.config = config ∧
      (app.animation.seed = config.seed ∨
        ∃ text system, Document.read text = .ok system ∧
          system.seed = some app.animation.seed) := by
  induction reachable using Reachable.invariant with
  | started app started => exact seed_of_started started
  | effect before after _ _ effect ih =>
      obtain ⟨configEq, seedEq⟩ := effect.follows
      refine ⟨configEq.trans ih.1, ?_⟩
      rcases seedEq with kept | configured
      · rw [kept]
        exact ih.2
      · rw [configured, ih.1]
        exact .inl rfl

end TurtleSystems.Terminal.App
