import DongleLink.Config
import DongleLink.Toml.Decode

/-!
# DongleLink.Config.Decode

A configuration from the table of a TOML document.  Keys that are missing keep
their standard values, and keys that mean nothing here are passed over.
-/

namespace DongleLink.Config

open Toml (Entries Misfit Placed Value)
open Toml.Decode

/-! ## Numbers by width -/

def word64 (wanted : String) (v : Placed Value) : Except Misfit UInt64 :=
  (number wanted 18446744073709551615 v).map .ofNat

def word32 (v : Placed Value) : Except Misfit UInt32 := (number "u32" 4294967295 v).map .ofNat

def word16 (v : Placed Value) : Except Misfit UInt16 := (number "u16" 65535 v).map .ofNat

/-! ## Fields -/

/-- The fields of the transport section. -/
def transportFields : List (RecordField Transport) :=
  [⟨"rx_buffer_capacity", fun v t =>
      (word64 "usize" v).map fun n => { t with ringCapacity := n }⟩,
    ⟨"chunk_size", fun v t => (word64 "usize" v).map fun n => { t with chunkSize := n }⟩,
    ⟨"connect_timeout_ms", fun v t =>
      (word64 "u64" v).map fun n => { t with connectTimeoutMs := n }⟩,
    ⟨"poll_interval_ms", fun v t =>
      (word64 "u64" v).map fun n => { t with pollIntervalMs := n }⟩]

/-- The fields of the serial section. -/
def serialFields : List (RecordField Serial) :=
  [⟨"default_baud", fun v s => (word32 v).map fun n => { s with baud := n }⟩,
    ⟨"flow_control", fun v s =>
      (choice FlowControl.name FlowControl.all v).map fun f => { s with flow := f }⟩,
    ⟨"port_aliases", fun v s =>
      (texts v).map fun pairs => { s with aliases := .ofList pairs }⟩]

/-- The fields of the network section. -/
def networkFields : List (RecordField Network) :=
  [⟨"default_port", fun v s => (word16 v).map fun n => { s with port := some n }⟩]

/-- The fields of the logging section. -/
def loggingFields : List (RecordField Logging) :=
  [⟨"level", fun v s => (text v).map fun level => { s with level := level }⟩,
    ⟨"format", fun v s =>
      (choice LogFormat.name LogFormat.all v).map fun f => { s with format := f }⟩]

/-- The sections. -/
def sections : List (RecordField Config) :=
  [⟨"transport", fun v c =>
      (record "struct TransportConfig" transportFields {} v).map fun t =>
        { c with transport := t }⟩,
    ⟨"serial", fun v c =>
      (record "struct SerialConfig" serialFields {} v).map fun s => { c with serial := s }⟩,
    ⟨"network", fun v c =>
      (record "struct NetworkConfig" networkFields {} v).map fun n => { c with network := n }⟩,
    ⟨"logging", fun v c =>
      (record "struct LoggingConfig" loggingFields {} v).map fun l => { c with logging := l }⟩]

/-- The configuration of a document; the first value of the wrong shape, in the
order of the document, is the error. -/
def decode (entries : Entries) : Except Misfit Config := setEntries sections entries {}

end DongleLink.Config
