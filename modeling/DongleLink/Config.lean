import DongleLink.Config.Aliases
import DongleLink.LogFilter
import DongleLink.Target

/-!
# DongleLink.Config

The configuration: what a port is built with, what is supplied where a target
leaves it out, and how much is logged.
-/

namespace DongleLink

/-- How log lines look. -/
inductive LogFormat where
  | json
  | pretty
  | compact
  deriving DecidableEq, Repr, Inhabited

namespace LogFormat

def all : List LogFormat := [json, pretty, compact]

/-- The name of a format in configuration files. -/
def name : LogFormat → String
  | json => "json"
  | pretty => "pretty"
  | compact => "compact"

end LogFormat

namespace Config

/-! ## Sections -/

/-- Receive buffer and stream timing. -/
structure Transport where
  ringCapacity : UInt64 := .ofNat standardRingCapacity
  chunkSize : UInt64 := .ofNat standardChunkSize
  connectTimeoutMs : UInt64 := 5000
  pollIntervalMs : UInt64 := 100
  deriving DecidableEq, Repr, Inhabited

/-- What holds for serial dongles. -/
structure Serial where
  baud : UInt32 := standardBaud
  flow : FlowControl := .none
  aliases : Aliases := .empty
  deriving DecidableEq, Repr, Inhabited

/-- What holds for network dongles. -/
structure Network where
  port : Option UInt16 := none
  deriving DecidableEq, Repr, Inhabited

/-- What is logged, and how it looks. -/
structure Logging where
  level : String := "info"
  format : LogFormat := .pretty
  deriving DecidableEq, Repr, Inhabited

end Config

/-- A configuration. -/
structure Config where
  transport : Config.Transport := {}
  serial : Config.Serial := {}
  network : Config.Network := {}
  logging : Config.Logging := {}
  deriving DecidableEq, Repr, Inhabited

namespace Config

/-! ## What follows from it -/

/-- The settings of a port. -/
def settings (c : Config) : Settings where
  ringCapacity := c.transport.ringCapacity.toNat
  chunkSize := c.transport.chunkSize.toNat
  connectTimeout := .ofMillis c.transport.connectTimeoutMs.toNat
  pollInterval := .ofMillis c.transport.pollIntervalMs.toNat

/-- What is supplied where a target leaves it out. -/
def targetDefaults (c : Config) : Target.Defaults where
  baud := c.serial.baud
  flow := c.serial.flow
  tcpPort := c.network.port

/-! ## Checking -/

/-- Why a port cannot run with a configuration. -/
inductive Unfit where
  | belowMinimum (key : String) (value least : Nat)
  | badFilter (level reason : String)
  /-- the log filter cannot even be taken apart -/
  | brokenFilter (complaint : String)
  deriving DecidableEq, Repr

/-- The numbers that have a least value, in the order in which they are checked. -/
def minimums (c : Config) : List (String × Nat × Nat) :=
  [("transport.rx_buffer_capacity", c.transport.ringCapacity.toNat, 2),
    ("transport.chunk_size", c.transport.chunkSize.toNat, 1),
    ("transport.poll_interval_ms", c.transport.pollIntervalMs.toNat, 1),
    ("transport.connect_timeout_ms", c.transport.connectTimeoutMs.toNat, 1),
    ("serial.default_baud", c.serial.baud.toNat, 1)]

/-- Whether a port can run with the configuration, and the first reason why not. -/
def check (c : Config) : Except Unfit Unit :=
  match c.minimums.find? fun (_, value, least) => value < least with
  | some (key, value, least) => .error (.belowMinimum key value least)
  | none =>
    match LogFilter.check c.logging.level with
    | .error (.cut place) => .error (.brokenFilter place.message)
    | .error fault => .error (.badFilter c.logging.level fault.reason)
    | .ok () => .ok ()

end Config

end DongleLink
