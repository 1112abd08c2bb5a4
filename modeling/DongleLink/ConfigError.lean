import DongleLink.Config.Overrides
import DongleLink.Toml.Decode

/-!
# DongleLink.ConfigError

Why a configuration could not be read, used or written.
-/

namespace DongleLink

/-- Why a configuration could not be read, used or written. -/
inductive ConfigError where
  | unreadable (path : String) (fault : IoFault)
  /-- the file is no TOML document -/
  | notToml
  /-- the document has a value of the wrong shape -/
  | wrongShape (misfit : Toml.Misfit) (document : String)
  /-- a number is too large for a document -/
  | notWritable
  | unwritable (path : String) (fault : IoFault)
  /-- a port cannot run with the configuration -/
  | unfit (reason : Config.Unfit)
  | badOverride (o : Config.BadOverride)
  deriving Repr

namespace ConfigError

/-- What the user reads. -/
def message : ConfigError → String
  | unreadable path fault => s!"Failed to read configuration file '{path}': {fault.text}"
  | notToml => "Failed to parse configuration: not a TOML document"
  | wrongShape misfit _ => s!"Failed to parse configuration: {misfit.mismatch.message}"
  | notWritable => "Failed to serialize configuration: out-of-range value for u64 type"
  | unwritable path fault => s!"Failed to write configuration file '{path}': {fault.text}"
  | unfit (.belowMinimum key value least) =>
    s!"'{key}' is {value}, the port needs at least {least}"
  | unfit (.badFilter level reason) => s!"Invalid log filter '{level}': {reason}"
  | unfit (.brokenFilter complaint) => complaint
  | badOverride o =>
    s!"Environment override {o.name}='{o.value}' is not a valid {o.wanted}"

/-- The key of the setting that an error is about, if it is about one. -/
def key? : ConfigError → Option String
  | unfit (.belowMinimum key _ _) => some key
  | unfit (.badFilter _ _) => some "logging.level"
  | _ => none

end ConfigError

end DongleLink
