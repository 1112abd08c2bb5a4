import DongleLink.Config.Load
import DongleLink.Proofs.FileContents

/-!
# DongleLink.Proofs.Overlay

What the environment makes of a configuration.

The overrides are taken one after the other, and the configuration changes on the way.  Here the
same is said field by field: nine variables stand beside nine fields (`Variable.all`), `overlay` is
the configuration with every field whose variable is set replaced by what the variable's text
stands for, and `misread?` is the complaint about the first variable whose text stands for nothing.
Going through the overrides comes to just that (`overridden_eq`).  What is wrong with a
configuration is the first of its `faults` (`check_eq`).  The two orders together say what loading a
file ends in (`loadFrom_overlay`).
-/

namespace DongleLink

/-- A field after a variable: what the variable's text stands for, or else the field as it is. -/
def Environment.over {α : Type} (e : Environment) (name : String) (read : String → Option α)
    (field : α) : α :=
  ((e.get? name).bind read).getD field

namespace Config

open Text

/-! ## Variables and fields -/

section readers

/-- The whole number up to `limit` that a text stands for, with blanks around it if wanted. -/
def number? (limit : Nat) (text : String) : Option Nat := readUnsigned limit (trim text.toList)

def word64? (text : String) : Option UInt64 := (number? 18446744073709551615 text).map .ofNat

def word32? (text : String) : Option UInt32 := (number? 4294967295 text).map .ofNat

def word16? (text : String) : Option UInt16 := (number? 65535 text).map .ofNat

/-- The mode of flow control that a text names, with blanks around it if wanted. -/
def flow? (text : String) : Option FlowControl :=
  FlowControl.ofText? (String.ofList (trim text.toList))

/-- The format of log lines that a text names, in any mixture of cases but without blanks. -/
def format? (text : String) : Option LogFormat := LogFormat.all.find? (·.name == lowered text)

end readers

/- The nine variables differ in their name, their field and in how they are read.  Given as data,
they are overridden by one rule. -/

/-- A variable of the environment and the field that it is about. -/
structure Variable where
  {Value : Type}
  name : String
  /-- what a text has to be, in messages -/
  wanted : String
  /-- the value that a text stands for -/
  read : String → Option Value
  field : Config → Value
  put : Value → Config → Config
  put_field : ∀ c, put (field c) c = c

/-- The variables in the order in which they are looked at. -/
def Variable.all : List Variable :=
  [{ name := "ZIGBEE_PORT_TRANSPORT_RX_BUFFER_CAPACITY"
     wanted := "buffer capacity"
     read := word64?
     field := (·.transport.ringCapacity)
     put := fun x c => { c with transport.ringCapacity := x }
     put_field := fun _ => rfl },
    { name := "ZIGBEE_PORT_TRANSPORT_CHUNK_SIZE"
      wanted := "chunk size"
      read := word64?
      field := (·.transport.chunkSize)
      put := fun x c => { c with transport.chunkSize := x }
      put_field := fun _ => rfl },
    { name := "ZIGBEE_PORT_TRANSPORT_CONNECT_TIMEOUT_MS"
      wanted := "timeout"
      read := word64?
      field := (·.transport.connectTimeoutMs)
      put := fun x c => { c with transport.connectTimeoutMs := x }
      put_field := fun _ => rfl },
    { name := "ZIGBEE_PORT_TRANSPORT_POLL_INTERVAL_MS"
      wanted := "interval"
      read := word64?
      field := (·.transport.pollIntervalMs)
      put := fun x c => { c with transport.pollIntervalMs := x }
      put_field := fun _ => rfl },
    { name := "ZIGBEE_PORT_SERIAL_DEFAULT_BAUD"
      wanted := "baud rate"
      read := word32?
      field := (·.serial.baud)
      put := fun x c => { c with serial.baud := x }
      put_field := fun _ => rfl },
    { name := "ZIGBEE_PORT_SERIAL_FLOW_CONTROL"
      wanted := "flow control mode"
      read := flow?
      field := (·.serial.flow)
      put := fun x c => { c with serial.flow := x }
      put_field := fun _ => rfl },
    { name := "ZIGBEE_PORT_NETWORK_DEFAULT_PORT"
      wanted := "port number"
      read := fun text => (word16? text).map some
      field := (·.network.port)
      put := fun x c => { c with network.port := x }
      put_field := fun _ => rfl },
    { name := "ZIGBEE_PORT_LOGGING_LEVEL"
      wanted := "log filter"
      read := some
      field := (·.logging.level)
      put := fun x c => { c with logging.level := x }
      put_field := fun _ => rfl },
    { name := "ZIGBEE_PORT_LOGGING_FORMAT"
      wanted := "log format (json, pretty, compact)"
      read := format?
      field := (·.logging.format)
      put := fun x c => { c with logging.format := x }
      put_field := fun _ => rfl }]

/-- The configuration with every field replaced whose variable is set. -/
def overlay (e : Environment) (c : Config) : Config where
  transport :=
    { ringCapacity :=
        e.over "ZIGBEE_PORT_TRANSPORT_RX_BUFFER_CAPACITY" word64? c.transport.ringCapacity
      chunkSize := e.over "ZIGBEE_PORT_TRANSPORT_CHUNK_SIZE" word64? c.transport.chunkSize
      connectTimeoutMs :=
        e.over "ZIGBEE_PORT_TRANSPORT_CONNECT_TIMEOUT_MS" word64? c.transport.connectTimeoutMs
      pollIntervalMs :=
        e.over "ZIGBEE_PORT_TRANSPORT_POLL_INTERVAL_MS" word64? c.transport.pollIntervalMs }
  serial :=
    { baud := e.over "ZIGBEE_PORT_SERIAL_DEFAULT_BAUD" word32? c.serial.baud
      flow := e.over "ZIGBEE_PORT_SERIAL_FLOW_CONTROL" flow? c.serial.flow
      aliases := c.serial.aliases }
  network :=
    { port :=
        e.over "ZIGBEE_PORT_NETWORK_DEFAULT_PORT" (fun text => (word16? text).map some)
          c.network.port }
  logging :=
    { level := e.over "ZIGBEE_PORT_LOGGING_LEVEL" some c.logging.level
      format := e.over "ZIGBEE_PORT_LOGGING_FORMAT" format? c.logging.format }

namespace Variable

variable {e : Environment} {v : Variable}

/-- The complaint about a variable that is set to a text which stands for nothing. -/
def complaint? (e : Environment) (v : Variable) : Option BadOverride :=
  (e.get? v.name).bind fun text =>
    if (v.read text).isSome then none
    else some { name := v.name, value := text, wanted := v.wanted }

/-- The configuration with the variable's field replaced if the variable is set. -/
def replaced (e : Environment) (v : Variable) (c : Config) : Config :=
  v.put (e.over v.name v.read (v.field c)) c

end Variable

/-- The complaint about the first variable whose text stands for nothing. -/
def misread? (e : Environment) : Option BadOverride := Variable.all.findSome? (·.complaint? e)

/-- Replacing the fields one after the other replaces them all. -/
theorem foldl_replaced (e : Environment) (c : Config) :
    Variable.all.foldl (fun c v => v.replaced e c) c = overlay e c := by
  simp only [Variable.all, List.foldl_cons, List.foldl_nil, Variable.replaced, overlay]

/-! ## Overrides in order -/

/-- The override that does what a variable says. -/
def Variable.override (v : Variable) : Override where
  name := v.name
  wanted := v.wanted
  apply text c := (v.read text).map (v.put · c)

/-- The overrides are those of the variables, in the same order. -/
theorem overrides_eq : overrides = Variable.all.map Variable.override := by
  simp only [overrides, Variable.all, List.map_cons, List.map_nil, List.cons.injEq, and_true,
    numberOverride, Variable.override, word64?, word32?, word16?, number?, Option.map_map]
  exact ⟨rfl, rfl, rfl, rfl, rfl, rfl, rfl, rfl, rfl⟩

theorem applyOverrides_cons (e : Environment) (v : Variable) (os : List Override) (c : Config) :
    applyOverrides e (v.override :: os) c =
      match v.complaint? e with
      | some bad => .error bad
      | none => applyOverrides e os (v.replaced e c) := by
  cases hget : e.get? v.name with
  | none =>
      simp [applyOverrides, overriding, Variable.override, Variable.complaint?, Variable.replaced,
        Environment.over, hget, v.put_field]
  | some text =>
      cases hread : v.read text with
      | none =>
          simp [applyOverrides, overriding, Variable.override, Variable.complaint?, hget, hread]
      | some x =>
          simp [applyOverrides, overriding, Variable.override, Variable.complaint?,
            Variable.replaced, Environment.over, hget, hread]

/-- Overrides of variables are taken unless one of the variables is complained about, and the
complaint is about the first such one. -/
theorem applyOverrides_eq (e : Environment) (vs : List Variable) (c : Config) :
    applyOverrides e (vs.map Variable.override) c =
      match vs.findSome? (·.complaint? e) with
      | some bad => .error bad
      | none => .ok (vs.foldl (fun c v => v.replaced e c) c) := by
  induction vs generalizing c with
  | nil => rfl
  | cons v vs ih =>
      rw [List.map_cons, applyOverrides_cons, List.findSome?_cons]
      cases v.complaint? e with
      | some bad => rfl
      | none => exact ih (v.replaced e c)

/-- **The environment overrides a configuration field by field**, unless it has a variable that
cannot be understood. -/
theorem overridden_eq (e : Environment) (c : Config) :
    overridden e c =
      match misread? e with
      | some bad => .error bad
      | none => .ok (overlay e c) := by
  rw [overridden, overrides_eq, applyOverrides_eq, foldl_replaced]
  rfl

/-! ## The check in order -/

/-- The fault of a number below its least value. -/
def tooSmall (key : String) (value least : Nat) : List Unfit :=
  if value < least then [.belowMinimum key value least] else []

/-- The numbers of a configuration that are too small, in the order in which they are checked. -/
def numberFaults (c : Config) : List Unfit :=
  tooSmall "transport.rx_buffer_capacity" c.transport.ringCapacity.toNat 2
    ++ tooSmall "transport.chunk_size" c.transport.chunkSize.toNat 1
    ++ tooSmall "transport.poll_interval_ms" c.transport.pollIntervalMs.toNat 1
    ++ tooSmall "transport.connect_timeout_ms" c.transport.connectTimeoutMs.toNat 1
    ++ tooSmall "serial.default_baud" c.serial.baud.toNat 1

/-- What is wrong with a log filter. -/
def filterFaults (level : String) : List Unfit :=
  match LogFilter.check level with
  | .ok () => []
  | .error (.cut place) => [.brokenFilter place.message]
  | .error fault => [.badFilter level fault.reason]

theorem filterFaults_eq_singleton {level : String} {reason : Unfit}
    (h : reason ∈ filterFaults level) : filterFaults level = [reason] := by
  rw [filterFaults] at h ⊢
  cases hfilter : LogFilter.check level with
  | ok u => simp [hfilter] at h
  | error fault => cases fault <;> simp_all

/-- All that is wrong with a configuration: first its numbers, then its log filter. -/
def faults (c : Config) : List Unfit := c.numberFaults ++ filterFaults c.logging.level

/-- The check of the numbers finds the first that is too small. -/
theorem head?_numberFaults (c : Config) :
    c.numberFaults.head? =
      (c.minimums.find? fun (_, value, least) => value < least).map
        fun (key, value, least) => .belowMinimum key value least := by
  have hhead (key : String) (value least : Nat) (rest : List Unfit)
      (others : List (String × Nat × Nat))
      (hrest : rest.head? = (others.find? fun (_, value, least) => value < least).map
        fun (key, value, least) => .belowMinimum key value least) :
      (tooSmall key value least ++ rest).head? =
        (((key, value, least) :: others).find? fun (_, value, least) => value < least).map
          fun (key, value, least) => .belowMinimum key value least := by
    rw [tooSmall]
    by_cases h : value < least
    · simp [h]
    · simpa [h] using hrest
  simp only [numberFaults, List.append_assoc, minimums]
  refine hhead _ _ _ _ _ (hhead _ _ _ _ _ (hhead _ _ _ _ _ (hhead _ _ _ _ _ ?_)))
  simpa using hhead "serial.default_baud" c.serial.baud.toNat 1 [] [] rfl

/-- **The check tells the first fault**, and passes what has none. -/
theorem check_eq (c : Config) :
    c.check =
      match c.faults.head? with
      | some reason => .error reason
      | none => .ok () := by
  rw [faults, List.head?_append, head?_numberFaults, check]
  cases c.minimums.find? fun (_, value, least) => value < least with
  | some minimum => rfl
  | none =>
      simp only [Option.map_none, Option.none_or, filterFaults]
      cases LogFilter.check c.logging.level with
      | ok u => rfl
      | error fault => cases fault <;> rfl

/-! ## Loading a file -/

/-- **The effective configuration is the overlay**, if every variable can be understood and the
overlay has no fault. -/
theorem effective_eq (e : Environment) (c : Config) :
    effective e c =
      match misread? e with
      | some bad => .error (.badOverride bad)
      | none =>
        match (overlay e c).faults.head? with
        | some reason => .error (.unfit reason)
        | none => .ok (overlay e c) := by
  rw [effective, overridden_eq]
  cases misread? e with
  | some bad => rfl
  | none =>
      simp only [check_eq]
      cases (overlay e c).faults.head? <;> rfl

theorem effective_eq_ok_iff {e : Environment} {c d : Config} :
    effective e c = .ok d ↔ misread? e = none ∧ (overlay e c).faults = [] ∧ d = overlay e c := by
  rw [effective_eq]
  cases misread? e with
  | some bad => simp
  | none =>
      cases hfaults : (overlay e c).faults with
      | nil => simp [eq_comm]
      | cons reason rest => simp

/-- Loading concludes if it ends in a configuration, or in an error that the caller is told.  It
does not where the log filter cannot even be taken apart. -/
def Concludes {α : Type} (result : Except ConfigError α) : Prop :=
  ∀ complaint, result ≠ .error (.unfit (.brokenFilter complaint))

/-- A broken filter comes up only after everything else was found right. -/
theorem faults_eq_of_head?_broken {c : Config} {complaint : String}
    (h : c.faults.head? = some (.brokenFilter complaint)) :
    c.faults = [.brokenFilter complaint] := by
  rw [faults, List.head?_append, head?_numberFaults] at h
  cases hnumbers : c.numberFaults with
  | nil =>
      rw [← head?_numberFaults, hnumbers, List.head?_nil, Option.none_or] at h
      rw [faults, hnumbers, List.nil_append]
      exact filterFaults_eq_singleton (List.mem_of_mem_head? h)
  | cons first rest =>
      -- the first fault would be a number's
      have hfirst := head?_numberFaults c
      rw [hnumbers, List.head?_cons] at hfirst
      rw [← hfirst, Option.some_or] at h
      obtain ⟨⟨key, value, least⟩, -, heq⟩ := Option.map_eq_some_iff.1 hfirst.symm
      cases heq.trans (Option.some.inj h)

/-- The effective configuration fails to come out only over a broken filter. -/
theorem not_concludes_effective_iff (e : Environment) (c : Config) :
    ¬ Concludes (effective e c) ↔
      misread? e = none ∧ ∃ complaint, (overlay e c).faults = [.brokenFilter complaint] := by
  rw [Concludes, not_forall, effective_eq]
  cases misread? e with
  | some bad => simp
  | none =>
      simp only [ne_eq, not_not, true_and]
      refine exists_congr fun complaint => ?_
      constructor
      · intro h
        apply faults_eq_of_head?_broken
        cases hhead : (overlay e c).faults.head? with
        | none => rw [hhead] at h; cases h
        | some reason => rw [hhead] at h; cases h; rfl
      · intro h
        rw [h]
        rfl

section loadFrom

variable {h : Host} {path : String} {c : Config}

theorem loadFrom_of_contents (hfile : ofContents path (h.files.read h.cwd path) = .ok c) :
    loadFrom h path =
      (effective h.environment c).map fun c => { path := some path, config := c } := by
  rw [loadFrom, hfile]

theorem concludes_map {α β : Type} {f : α → β} {result : Except ConfigError α} :
    Concludes (result.map f) ↔ Concludes result := by
  cases result <;> simp [Concludes, Except.map]

/-- **A file that decodes is overlaid with the environment and checked.**  If a variable cannot be
understood, the first such one, in the order of `Variable.all`, is the error, with its text as it
is set.  Otherwise the error is the first fault of the overlay, in the order of `faults`; and if it
has none, the overlay is what is loaded.  Of these ends one is no answer to the caller, and it comes
exactly where the log filter cannot be taken apart and all else is right. -/
theorem loadFrom_overlay (hfile : ofContents path (h.files.read h.cwd path) = .ok c) :
    (loadFrom h path =
      match misread? h.environment with
      | some bad => .error (.badOverride bad)
      | none =>
        match (overlay h.environment c).faults.head? with
        | some reason => .error (.unfit reason)
        | none => .ok { path := some path, config := overlay h.environment c }) ∧
      (¬ Concludes (loadFrom h path) ↔
        misread? h.environment = none ∧
          ∃ complaint, (overlay h.environment c).faults = [.brokenFilter complaint]) := by
  rw [loadFrom_of_contents hfile, concludes_map]
  refine ⟨?_, not_concludes_effective_iff h.environment c⟩
  rw [effective_eq]
  cases misread? h.environment with
  | some bad => rfl
  | none => cases (overlay h.environment c).faults.head? <;> rfl

end loadFrom

/-! ### On a machine -/

/-- A machine with one file, in its working directory, and variables that are set to texts. -/
def machine (text : String) (vars : List (String × String)) : Host where
  files.nodes := [(["port.toml"], .file (bytesOfText text))]
  environment.bindings := vars.map fun (name, value) => (name, bytesOfText value)

/-- A name in the working directory leads to the file if it is the file's name, and else
nowhere. -/
theorem walk_machine {name : String} (hfault : Host.Files.pathFault? name = none)
    (hnames : Host.Files.namesOf name = [name]) (hdots : name ≠ "..")
    (hsize : ¬ 255 < name.utf8ByteSize) (hend : (name.endsWith "/" || name.endsWith "/.") = false)
    (text : String) (vars : List (String × String)) :
    (machine text vars).files.walk [] name =
      if name = "port.toml" then .found ["port.toml"] (.file (bytesOfText text))
      else .missing [name] := by
  have hroot : (machine text vars).files.at? [] = some .directory := rfl
  rw [Host.Files.walk, hfault, hnames, Host.Files.origin, ite_self]
  cases hname : name == "port.toml" with
  | true =>
      have hplace : (machine text vars).files.at? [name] = some (.file (bytesOfText text)) := by
        simp [Host.Files.at?, machine, List.lookup_cons, hname]
      simp only [Host.Files.follow, hroot, List.nil_append, hplace, if_neg hdots, if_neg hsize,
        hend]
      simp [beq_iff_eq.1 hname]
  | false =>
      have hplace : (machine text vars).files.at? [name] = none := by
        simp [Host.Files.at?, machine, List.lookup_cons, hname]
      simp only [Host.Files.follow, hroot, List.nil_append, hplace, if_neg hdots, if_neg hsize]
      simp [beq_eq_false_iff_ne.1 hname]

theorem walk_machine_file (text : String) (vars : List (String × String)) :
    (machine text vars).files.walk [] "port.toml" =
      .found ["port.toml"] (.file (bytesOfText text)) := by
  have hfault : Host.Files.pathFault? "port.toml" = none := by
    have hzero : "port.toml".contains '\x00' = false := by simp
    rw [Host.Files.pathFault?, hzero]
    decide +kernel
  exact (walk_machine hfault (by decide +kernel) (by decide) (by decide) (by decide +kernel)
    text vars).trans (if_pos rfl)

theorem read_machine (text : String) (vars : List (String × String)) :
    (machine text vars).files.read [] "port.toml" = .ok (bytesOfText text) := by
  rw [Host.Files.read, walk_machine_file]

theorem contents_machine (text : String) (vars : List (String × String)) :
    ofContents "port.toml" ((machine text vars).files.read [] "port.toml") = ofText text := by
  rw [read_machine, ofContents, textOfBytes?_bytesOfText]

/-- A file that sets three fields. -/
def threeFields : String :=
  "[transport]\nchunk_size = 64\n[serial]\ndefault_baud = 9600\n"
    ++ "port_aliases.dongle = \"/dev/ttyACM0\"\n"

/-- The configuration of that file. -/
def ofThreeFields : Config where
  transport.chunkSize := 64
  serial := { baud := 9600, aliases := .ofList [("dongle", "/dev/ttyACM0")] }

/-- Variables about fields of every kind, in spellings that are allowed. -/
def sixVariables : List (String × String) :=
  [("ZIGBEE_PORT_LOGGING_FORMAT", "JSON"), ("ZIGBEE_PORT_LOGGING_LEVEL", "warn,link=trace"),
    ("ZIGBEE_PORT_NETWORK_DEFAULT_PORT", "6638\n"), ("ZIGBEE_PORT_SERIAL_FLOW_CONTROL", " RtsCts"),
    ("ZIGBEE_PORT_SERIAL_DEFAULT_BAUD", "057600"),
    ("ZIGBEE_PORT_TRANSPORT_RX_BUFFER_CAPACITY", "\t+1024 ")]

theorem loadFrom_sixVariables :
    ofContents "port.toml" ((machine threeFields sixVariables).files.read [] "port.toml") =
        .ok ofThreeFields ∧
      loadFrom (machine threeFields sixVariables) "port.toml" =
        .ok { path := some "port.toml"
              config :=
                { transport := { ringCapacity := 1024, chunkSize := 64 }
                  serial := { ofThreeFields.serial with baud := 57600, flow := .hardware }
                  network.port := some 6638
                  logging := { level := "warn,link=trace", format := .json } } } := by
  have hfile : ofContents "port.toml" ((machine threeFields sixVariables).files.read [] "port.toml")
      = .ok ofThreeFields := by
    rw [contents_machine]
    rfl
  refine ⟨hfile, (loadFrom_overlay hfile).1.trans ?_⟩
  have hread : misread? (machine threeFields sixVariables).environment = none := by decide +kernel
  have hover : overlay (machine threeFields sixVariables).environment ofThreeFields =
      { transport := { ringCapacity := 1024, chunkSize := 64 }
        serial := { ofThreeFields.serial with baud := 57600, flow := .hardware }
        network.port := some 6638
        logging := { level := "warn,link=trace", format := .json } } := by decide +kernel
  rw [hread, hover]
  rfl

/-- A filter that is no filter, after a blank of more than one byte. -/
def shiftedFilter : List (String × String) := [("ZIGBEE_PORT_LOGGING_LEVEL", "\u3000[s]x")]

theorem not_concludes_effective_shiftedFilter :
    ¬ Concludes (effective (machine "" shiftedFilter).environment {}) := by
  rw [not_concludes_effective_iff]
  exact ⟨by decide +kernel, "start byte index 1 is not a char boundary; it is inside "
    ++ "'\\u\x7b3000\x7d' (bytes 0..3 of string)", by decide +kernel⟩

/-- An empty file and one variable are enough for loading not to conclude. -/
theorem not_concludes_loadFrom_shiftedFilter :
    ofContents "port.toml" ((machine "" shiftedFilter).files.read [] "port.toml") = .ok {} ∧
      ¬ Concludes (loadFrom (machine "" shiftedFilter) "port.toml") := by
  have hfile : ofContents "port.toml" ((machine "" shiftedFilter).files.read [] "port.toml") =
      .ok {} := by
    rw [contents_machine]
    rfl
  rw [loadFrom_of_contents hfile, concludes_map]
  exact ⟨hfile, not_concludes_effective_shiftedFilter⟩

end Config

end DongleLink
