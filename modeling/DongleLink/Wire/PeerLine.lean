import DongleLink.Wire

/-!
# DongleLink.Wire.PeerLine

A line with somebody at the far end: bytes go both ways until the peer hangs up.
A serial line outlives its sessions, and what came in between two of them is
dropped when the line is opened again.
-/

namespace DongleLink

/-- A line with a peer. -/
structure PeerLine where
  place : String
  /-- what an attempt to connect meets while there is no peer -/
  absence : LinkError
  /-- what it meets while another port holds the line -/
  busy : LinkError
  /-- somebody is at the far end -/
  peer : Bool
  /-- bytes from the peer that nobody has read -/
  inbound : List UInt8 := []
  /-- bytes that the peer has got -/
  outbound : List UInt8 := []
  deriving DecidableEq, Repr

namespace PeerLine

/-- A serial line whose device is there as long as the peer is. -/
def serial (path : String) (baud : UInt32) : PeerLine where
  place := s!"serial://{path}@{baud}"
  absence := .serial (.ofSystem 2)
  busy := .deviceNotFound path
  peer := true

/-- A network line on a machine without a network. -/
def offline (place : String) : PeerLine where
  place := place
  absence := .io (.system 101)
  busy := .io (.system 101)
  peer := false

/-- The peer sends, if there is one. -/
def peerSend? (bytes : List UInt8) (l : PeerLine) : Option PeerLine :=
  if l.peer then some { l with inbound := l.inbound ++ bytes } else none

/-- The peer hangs up. -/
def peerClose (l : PeerLine) : PeerLine := { l with peer := false }

def connect (l : PeerLine) : Except LinkError Unit × PeerLine :=
  if l.peer then (.ok (), { l with inbound := [] }) else (.error l.absence, l)

/-- What another port meets that connects to the line while it is held or free. -/
def connectBeside (held : Bool) (l : PeerLine) : Except LinkError Unit :=
  if held && l.peer then .error l.busy else l.connect.1

def readChunk (n : Nat) (l : PeerLine) : Received × PeerLine :=
  if l.inbound.isEmpty then
    if l.peer then (.failed (.bare .timedOut), l) else (.ended, l)
  else (.data (l.inbound.take n), { l with inbound := l.inbound.drop n })

def idle (l : PeerLine) : Bool := l.inbound.isEmpty && l.peer

def write (bytes : List UInt8) (l : PeerLine) : Except IoFault Unit × PeerLine :=
  if l.peer then (.ok (), { l with outbound := l.outbound ++ bytes })
  else (.error (.system 5), l)

instance : Wire PeerLine where
  place := PeerLine.place
  connect _ _ := connect
  readChunk := readChunk
  idle := idle
  backlog l := l.inbound.length + 1
  holds _ := false
  park l := l
  unpark l := l
  write := write
  shutdown l := l

end PeerLine

end DongleLink
