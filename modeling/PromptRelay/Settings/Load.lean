import PromptRelay.Settings.Environment
import PromptRelay.Settings.File
import PromptRelay.Settings.Validation

/-!
Contract: loading the settings that the program runs with.

Owns:
- which settings file is read;
- the order of the layers: what the caller sets, the environment, the file, the
  defaults;
- the order in which faults are found.

Does not own: the layers themselves.
-/

namespace PromptRelay

/-- The settings files that are looked for if none is named. -/
def usualPaths : List String := ["h2pc.toml", "config/h2pc.toml"]

/-- The settings file that is read: the named one, else the first usual one, if
it exists. -/
def settingsPath? (world : World) (named : Option String) : Option String :=
  match named with
  | some path => if world.contains path then some path else none
  | none => usualPaths.find? world.contains

/-- What a caller may ask of loading. -/
structure LoadOptions where
  path : Option String := none
  isFileRequired : Bool := false
  /-- Wins over every other source of the prompt path. -/
  promptPath : Option String := none
deriving DecidableEq, Repr

/-- The layer of the settings file, which provides nothing if there is none. -/
def fileLayer (world : World) (options : LoadOptions) : Except SettingsError Layer :=
  match settingsPath? world options.path with
  | some path => Layer.ofFile world path
  | none =>
    if options.isFileRequired then
      .error (.missingFile (options.path.getD "h2pc.toml"))
    else
      .ok {}

/-- The layers from the file upwards, before defaults and validation. -/
def gatherLayers (world : World) (options : LoadOptions) : Except SettingsError Layer := do
  let file ← fileLayer world options
  let environment ← Layer.ofEnvironment world
  let caller : Layer := { promptPath := options.promptPath }
  .ok (caller.above (environment.above file))

/-- The settings of all layers, if they are acceptable. -/
def Settings.load (world : World) (options : LoadOptions) :
    Except SettingsError Settings := do
  let settings := (← gatherLayers world options).toSettings
  settings.validate.mapError .invalid
  .ok settings

end PromptRelay
