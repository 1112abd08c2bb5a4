import DongleLink.Program
import Std.Async.DNS
import Std.Async.Timer
import Std.Async.TCP

/-!
# DongleLink.Main

The command line program.  It reads the environment and the configuration file,
connects to the dongle, and moves bytes between the connection and a port in
memory; what is done with them is decided by `DongleLink.Program`.

A serial line is used with the speed and the flow control that the system has set
for its device.
-/

namespace DongleLink.Main

open Std.Async Std.Net

/-! ## Faults -/

/-- A fault by its number; the network reports it below zero. -/
def numberedFault (code : UInt32) : IoFault :=
  .system (if code.toNat < 2147483648 then code.toNat else 4294967296 - code.toNat)

/-- The fault that an action ended with. -/
def faultOf : IO.Error → IoFault
  | .alreadyExists _ code _ | .otherError code _ | .resourceBusy code _
  | .resourceVanished code _ | .unsupportedOperation code _ | .hardwareFault code _
  | .unsatisfiedConstraints code _ | .illegalOperation code _ | .protocolError code _
  | .timeExpired code _ | .interrupted _ code _ | .noFileOrDirectory _ code _
  | .invalidArgument _ code _ | .permissionDenied _ code _ | .resourceExhausted _ code _
  | .inappropriateType _ code _ | .noSuchThing _ code _ => numberedFault code
  | .unexpectedEof => .bare .unexpectedEof
  | .userError text => .described .other text

/-- The result of an action, or its fault. -/
def attempt {α : Type} (action : IO α) : IO (Except IoFault α) := do
  return (← action.toBaseIO).mapError faultOf

/-! ## Configuration -/

/-- The variables that can matter, as far as they are set. -/
def readEnvironment : IO Environment := do
  let names := [Config.pathVariable, "XDG_CONFIG_HOME", "HOME"] ++ Config.overrides.map (·.name)
  let found ← names.filterMapM fun name => do
    return (← IO.getEnv name).map fun value => (name, bytesOfText value)
  return { bindings := found }

/-- Whether there is something at a path. -/
def isThere (path : String) : IO Bool := do
  match ← attempt (IO.FS.realPath path) with
  | .ok _ => return true
  | .error _ => return false

/-- The configuration with the environment taken into account. -/
def readConfig (named : Option String) : IO (Except ConfigError Config) := do
  let environment ← readEnvironment
  let path? ←
    match named with
    | some path => pure (some path)
    | none => (Config.candidates environment).findM? isThere
  match path? with
  | none => return Config.effective environment {}
  | some path =>
    let contents ← attempt (IO.FS.readBinFile path)
    return (Config.ofContents path (contents.map (·.data.toList))).bind
      (Config.effective environment)

/-! ## Connections -/

/-- What a connection brings within some time. -/
inductive Arrival where
  | bytes (bytes : List UInt8)
  | silence
  | over

/-- A connection to a dongle. -/
structure Connection where
  send : List UInt8 → IO Unit
  /-- what comes within so many milliseconds -/
  receive : Nat → IO Arrival

/-- The most bytes asked of a socket at a time. -/
def socketChunk : UInt64 := 256

def overSocket (socket : TCP.Socket.Client) : Connection where
  send bytes := (socket.send ⟨bytes.toArray⟩).block
  receive millis := Async.block do
    let timer ← Selector.sleep (.ofNat millis)
    Selectable.one #[
      .case (socket.recvSelector socketChunk) fun got =>
        return match got with
          | some bytes => .bytes bytes.data.toList
          | none => .over,
      .case timer fun _ => return .silence]

/-- Connect to an address; `none` if that takes too long. -/
def connectTo (address : IPAddr) (port : UInt16) (millis : Nat) :
    Async (Option TCP.Socket.Client) := do
  let socket ← TCP.Socket.Client.mk
  let address :=
    match address with
    | .v4 address => SocketAddress.v4 ⟨address, port⟩
    | .v6 address => SocketAddress.v6 ⟨address, port⟩
  let connected ←
    Async.race (do socket.connect address; return true) (do sleep (.ofNat millis); return false)
  if connected then
    socket.noDelay
    return some socket
  else return none

/-- Connect to the first address of a host that answers. -/
def connectNetwork (place host : String) (port : UInt16) (timeout : Span) :
    IO (Except LinkError Connection) := do
  match ← (DNS.getAddrInfo host "").block.toBaseIO with
  | .error e => return .error (.invalidTarget place (toString e))
  | .ok addresses =>
    let mut problem := LinkError.invalidTarget place "host resolved to no addresses"
    for address in addresses do
      match ← attempt (connectTo address port timeout.millis).block with
      | .ok (some socket) => return .ok (overSocket socket)
      | .ok none => problem := .connectTimeout place timeout
      | .error fault =>
        problem := if fault.kind = .connectionRefused then .refused place else .io fault
    return .error problem

/-- How often a device is looked at, in milliseconds. -/
def devicePause : Nat := 5

/-- Wait until a task has ended or the time is over. -/
partial def endsWithin {α : Type} (task : Task α) (millis : Nat) : IO Bool := do
  if ← IO.hasFinished task then return true
  else if millis = 0 then return false
  else
    IO.sleep (.ofNat (min millis devicePause))
    endsWithin task (millis - devicePause)

/-- Open a serial device.  It is read byte by byte, ahead of what is asked for. -/
def connectDevice (path : String) : IO (Except LinkError Connection) := do
  match ← attempt (IO.FS.Handle.mk path .readWrite) with
  | .error (.system number) => return .error (.serial (.ofSystem number))
  | .error fault => return .error (.serial (.ofIoFault fault))
  | .ok handle =>
    let next := IO.asTask (handle.read 1) .dedicated
    let pending ← IO.mkRef (← next)
    return .ok {
      send := fun bytes => do
        handle.write ⟨bytes.toArray⟩
        handle.flush
      receive := fun millis => do
        let task ← pending.get
        if ← endsWithin task millis then
          match task.get with
          | .ok bytes =>
            if bytes.isEmpty then return .over
            pending.set (← next)
            return .bytes bytes.data.toList
          | .error _ => return .over
        else return .silence }

def connect (target : Target) (settings : Settings) : IO (Except LinkError Connection) :=
  match target with
  | .network host port => connectNetwork target.place host port settings.connectTimeout
  | .serial path _ _ => connectDevice path

/-! ## Commands -/

/-- The longest silence after which an open line is shown, in milliseconds. -/
def longestSilence : Nat := 250

/-- Show a look's line, if it completes one. -/
def showLook (line : List UInt8) (look : Dump.Look) : IO (List UInt8) := do
  let (shown, line) := Dump.step line look
  if let some bytes := shown then IO.println (Payload.text bytes)
  return line

/-- Show what comes until the time is over or the link drops. -/
partial def showArrivals (connection : Connection) (deadline : Option Nat) (u : InUse PeerLine)
    (line : List UInt8) : IO Unit := do
  let now ← IO.monoMsNow
  let patience := (deadline.map (· - now)).getD longestSilence
  if patience = 0 then discard (showLook line none)
  else
    match ← connection.receive (min patience longestSilence) with
    | .silence => showArrivals connection deadline u (← showLook line none)
    | .over => discard (showLook line none)
    | .bytes bytes =>
      let (_, u) := u.onWire fun wire => (wire.peerSend? bytes).getD wire
      let (bytes, u) := Program.drain u
      let line ← bytes.foldlM (fun line byte => showLook line (some byte)) line
      showArrivals connection deadline u line

/-- End with a failure. -/
def fail (failure : Program.Failure) : IO UInt32 := do
  if let some line := failure.line? then IO.eprintln line
  return .ofNat failure.exitCode

/-- Attend a dongle. -/
def attend (a : Program.Attendance) : IO UInt32 := do
  match Program.begin { PeerLine.offline a.target.place with peer := true } a with
  | .error failure => fail failure
  | .ok u =>
    match ← connect a.target a.settings with
    | .error e => fail (.link e)
    | .ok connection =>
      discard (attempt (connection.send u.port.wire.outbound))
      let now ← IO.monoMsNow
      showArrivals connection (a.limitMs.map (now + ·)) u []
      (← IO.getStdout).flush
      return 0

/-- Where devices of serial dongles are. -/
def deviceNames : List String :=
  ["/dev/ttyUSB", "/dev/ttyACM"].flatMap fun stem => (List.range 16).map fun n => s!"{stem}{n}"

/-- Show the serial devices that are there. -/
def list : IO UInt32 := do
  let found ← deviceNames.filterM isThere
  if found.isEmpty then IO.println Program.noPortsLine
  for name in found do IO.println name
  return 0

/-- How the program is called. -/
def usage : String :=
  "Usage: donglelink [-c FILE] list\n" ++
  "       donglelink [-c FILE] monitor TARGET [--duration-ms MS]\n" ++
  "       donglelink [-c FILE] send TARGET PAYLOAD [--wait-ms MS]"

/-- Carry out the words of a command line. -/
def run (words : List String) : IO UInt32 := do
  match CommandLine.parse words with
  | .error .help =>
    IO.println usage
    return 0
  | .error .version =>
    IO.println "donglelink 0.1.0"
    return 0
  | .error fault =>
    IO.eprintln usage
    fail (.arguments fault)
  | .ok line =>
    match ← readConfig line.config with
    | .error e => fail (.config e)
    | .ok c =>
      match Program.taskOf c line.command with
      | .error failure => fail failure
      | .ok .list => list
      | .ok (.attend a) => attend a

end DongleLink.Main

def main (words : List String) : IO UInt32 := DongleLink.Main.run words
