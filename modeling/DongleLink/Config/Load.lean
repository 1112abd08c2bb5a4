import DongleLink.Config.Decode
import DongleLink.Config.Encode
import DongleLink.ConfigError

/-!
# DongleLink.Config.Load

Finding, reading and writing the configuration.  The effective configuration is
the file's, overlaid with the environment, and checked.
-/

namespace DongleLink.Config

open Toml (read?)

/-! ## From contents to configuration -/

/-- The configuration of a file's text. -/
def ofText (text : String) : Except ConfigError Config :=
  match read? text with
  | none => .error .notToml
  | some entries =>
    match decode entries with
    | .error misfit => .error (.wrongShape misfit text)
    | .ok c => .ok c

/-- The fault of a file whose bytes are no text. -/
def notText : IoFault := .described .invalidData "stream did not contain valid UTF-8"

/-- The configuration of what reading a file gave. -/
def ofContents (path : String) (contents : Except IoFault (List UInt8)) :
    Except ConfigError Config :=
  match contents with
  | .error fault => .error (.unreadable path fault)
  | .ok bytes =>
    match textOfBytes? bytes with
    | none => .error (.unreadable path notText)
    | some text => ofText text

/-- The configuration with what the environment overrides, if a port can run
with it. -/
def effective (e : Environment) (c : Config) : Except ConfigError Config :=
  match overridden e c with
  | .error o => .error (.badOverride o)
  | .ok c =>
    match c.check with
    | .error reason => .error (.unfit reason)
    | .ok () => .ok c

/-! ## Where the file is -/

/-- A path continued by names. -/
def joined (base rest : String) : String :=
  if base.isEmpty then rest
  else if base.endsWith "/" then base ++ rest
  else base ++ "/" ++ rest

/-- The variable that names the file. -/
def pathVariable : String := "ZIGBEE_PORT_CONFIG"

/-- The file's name in the working directory. -/
def localName : String := "zigbee-port.toml"

/-- The user's own file. -/
def userPath? (e : Environment) : Option String :=
  let base :=
    match e.get? "XDG_CONFIG_HOME" with
    | some directory => some directory
    | none => (e.get? "HOME").map (joined · ".config")
  base.map fun base => joined (joined base "zigbee-port") "config.toml"

/-- The places where the file may be, in the order in which they are tried. -/
def candidates (e : Environment) : List String :=
  (e.get? pathVariable).toList ++ [localName] ++ (userPath? e).toList

/-- The first of those places where something is. -/
def resolvePath (h : Host) : Option String :=
  (candidates h.environment).find? (h.files.exists? h.cwd)

/-! ## Loading -/

/- Every way of loading ends in `effective` but the last, which swallows errors.  What a filter
breaks is no error: it passes through there as well. -/

/-- A configuration and the file it is from. -/
structure Loaded where
  path : Option String
  config : Config
  deriving DecidableEq, Repr

/-- Load a certain file. -/
def loadFrom (h : Host) (path : String) : Except ConfigError Loaded :=
  match ofContents path (h.files.read h.cwd path) with
  | .error e => .error e
  | .ok c => (effective h.environment c).map fun c => { path := some path, config := c }

/-- Load the file in the first place where something is, or else start from the
standard values. -/
def load (h : Host) : Except ConfigError Loaded :=
  let path := resolvePath h
  let start :=
    match path with
    | some path => ofContents path (h.files.read h.cwd path)
    | none => .ok {}
  match start with
  | .error e => .error e
  | .ok c => (effective h.environment c).map fun c => { path := path, config := c }

/-- The standard values with what the environment overrides; all overrides are
ignored if one cannot be understood or a port cannot run with the result. -/
def withDefaults (h : Host) : Except ConfigError Loaded :=
  match overriding h.environment overrides {} with
  | (.error _, _) => .ok { path := none, config := {} }
  | (.ok (), candidate) =>
    match candidate.check with
    | .ok () => .ok { path := none, config := candidate }
    | .error (.brokenFilter complaint) => .error (.unfit (.brokenFilter complaint))
    | .error _ => .ok { path := none, config := {} }

/-! ## Saving -/

/-- Write a configuration to a file, whose directory is made if it is missing: how
that ends, and the host afterwards. -/
def saving (h : Host) (path : String) (c : Config) : Except ConfigError Unit × Host :=
  match h.files.makeParent h.cwd path with
  | (.error fault, files) => (.error (.unwritable path fault), { h with files := files })
  | (.ok (), files) =>
    match c.encode? with
    | none => (.error .notWritable, { h with files := files })
    | some text =>
      match files.write h.cwd path (bytesOfText text) with
      | .error fault => (.error (.unwritable path fault), { h with files := files })
      | .ok files => (.ok (), { h with files := files })

/-- The host after a configuration was written to a file. -/
def save (h : Host) (path : String) (c : Config) : Except ConfigError Host :=
  match saving h path c with
  | (.error e, _) => .error e
  | (.ok (), h) => .ok h

end DongleLink.Config
