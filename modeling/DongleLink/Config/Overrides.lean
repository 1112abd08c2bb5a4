import DongleLink.Config
import DongleLink.Host

/-!
# DongleLink.Config.Overrides

Environment variables that override single keys of the configuration.  They are
taken in a fixed order, and the first one that cannot be understood is the
error.  A variable that is not set to a text overrides nothing.
-/

namespace DongleLink.Config

open Text

/-- A variable and what it does. -/
structure Override where
  name : String
  /-- what a value has to be, in messages -/
  wanted : String
  /-- the configuration with a value taken over, if the value can be understood -/
  apply : String → Config → Option Config

/-- The start of every variable's name. -/
def variableStem : String := "ZIGBEE_PORT_"

/-- An override by a whole number up to `limit`, with blanks around it if wanted. -/
def numberOverride (name wanted : String) (limit : Nat) (set : Nat → Config → Config) :
    Override where
  name := variableStem ++ name
  wanted := wanted
  apply value c := (readUnsigned limit (trim value.toList)).map fun n => set n c

/-- The overrides in the order in which they are taken. -/
def overrides : List Override :=
  let limit := 18446744073709551615
  [numberOverride "TRANSPORT_RX_BUFFER_CAPACITY" "buffer capacity" limit fun n c =>
      { c with transport.ringCapacity := .ofNat n },
    numberOverride "TRANSPORT_CHUNK_SIZE" "chunk size" limit fun n c =>
      { c with transport.chunkSize := .ofNat n },
    numberOverride "TRANSPORT_CONNECT_TIMEOUT_MS" "timeout" limit fun n c =>
      { c with transport.connectTimeoutMs := .ofNat n },
    numberOverride "TRANSPORT_POLL_INTERVAL_MS" "interval" limit fun n c =>
      { c with transport.pollIntervalMs := .ofNat n },
    numberOverride "SERIAL_DEFAULT_BAUD" "baud rate" 4294967295 fun n c =>
      { c with serial.baud := .ofNat n },
    { name := variableStem ++ "SERIAL_FLOW_CONTROL"
      wanted := "flow control mode"
      apply := fun value c =>
        (FlowControl.ofText? (String.ofList (trim value.toList))).map fun f =>
          { c with serial.flow := f } },
    numberOverride "NETWORK_DEFAULT_PORT" "port number" 65535 fun n c =>
      { c with network.port := some (.ofNat n) },
    { name := variableStem ++ "LOGGING_LEVEL"
      wanted := "log filter"
      apply := fun value c => some { c with logging.level := value } },
    { name := variableStem ++ "LOGGING_FORMAT"
      wanted := "log format (json, pretty, compact)"
      apply := fun value c =>
        (LogFormat.all.find? (·.name == lowered value)).map fun f =>
          { c with logging.format := f } }]

/-- A variable whose value cannot be understood. -/
structure BadOverride where
  name : String
  value : String
  wanted : String
  deriving DecidableEq, Repr

/-- Take overrides in order: how that ends, and the configuration afterwards.  Those before one
that cannot be understood stay taken. -/
def overriding (e : Environment) : List Override → Config → Except BadOverride Unit × Config
  | [], c => (.ok (), c)
  | o :: rest, c =>
    match e.get? o.name with
    | none => overriding e rest c
    | some value =>
      match o.apply value c with
      | none => (.error { name := o.name, value := value, wanted := o.wanted }, c)
      | some c => overriding e rest c

/-- The configuration after overrides that can all be understood. -/
def applyOverrides (e : Environment) (os : List Override) (c : Config) :
    Except BadOverride Config :=
  match overriding e os c with
  | (.error bad, _) => .error bad
  | (.ok (), c) => .ok c

/-- The configuration with what the environment overrides. -/
def overridden (e : Environment) (c : Config) : Except BadOverride Config :=
  applyOverrides e overrides c

end DongleLink.Config
