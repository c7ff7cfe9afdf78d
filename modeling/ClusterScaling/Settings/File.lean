import ClusterScaling.Settings.Validity
import ClusterScaling.Toml.Reader
import ClusterScaling.Toml.Writer

/-!
# Settings in a file

Settings are kept as TOML. `Settings.ofToml` accepts a text only if it is
TOML, has the fields of settings, and passes the check of their sense, in
this order; `Settings.toToml` writes settings in full.
-/

namespace ClusterScaling

/-- Why a text gives no settings. -/
inductive SettingsError where
  /-- The text is not TOML. -/
  | syntactic
  /-- A field is missing or has another shape. -/
  | content (cause : DecodeError)
  /-- The settings make no sense. -/
  | invalid (fault : Fault)
  deriving DecidableEq

/-- The settings that a text holds. -/
def Settings.ofToml (s : String) : Except SettingsError Settings :=
  match Toml.read? s with
  | none => .error .syntactic
  | some d =>
    match (Settings.decode d).run Toml.manner with
    | .error cause => .error (.content cause)
    | .ok settings =>
      match settings.check with
      | .error fault => .error (.invalid fault)
      | .ok () => .ok settings

/-- Settings as a text. -/
def Settings.toToml (s : Settings) : String := Toml.write s.encode

/-- Why a file gives no settings. -/
inductive FileError where
  /-- The file cannot be read. -/
  | unreadable
  /-- The text of the file gives no settings. -/
  | refused (cause : SettingsError)
  deriving DecidableEq

/-- What an operator is told about a file that gives no settings. -/
def FileError.context (path : String) : FileError → String
  | unreadable => "failed to read " ++ path
  | refused _ => "invalid autoscaler config " ++ path

/-- The settings in a file, by its text if it can be read. -/
def Settings.ofFile : Option String → Except FileError Settings
  | none => .error .unreadable
  | some s => (ofToml s).mapError .refused

end ClusterScaling
