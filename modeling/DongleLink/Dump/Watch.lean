import DongleLink.Inbox

/-!
# DongleLink.Dump.Watch

Showing bytes until the link drops, while the receive loop goes on storing them.
The watcher looks for a byte; when it is told of none, be it that the time is over
or that the link is down, it looks whether the link is up, which is a second look,
and goes on or stops.  The loop can move between the two.
-/

namespace DongleLink.Dump

/-- Where the watcher is. -/
inductive WatcherAt where
  /-- about to look for a byte -/
  | looking
  /-- was told of none and is about to look whether the link is up -/
  | doubting
  | stopped
  deriving DecidableEq, Repr

/-- A watcher and the inbox it watches. -/
structure Watch where
  inbox : Inbox
  watcher : WatcherAt := .looking
  /-- the bytes that were shown, oldest first -/
  shown : List UInt8 := []
  deriving DecidableEq, Repr

namespace Watch

/-- What the loop or the watcher does in one piece. -/
inductive Move where
  /-- the loop stores bytes -/
  | store (bytes : List UInt8)
  /-- the loop ends -/
  | linkDown
  /-- the watcher looks for a byte, at the end of its time if there is none -/
  | look
  /-- the watcher looks whether the link is up -/
  | doubt
  deriving DecidableEq, Repr

/-- What a move leads to, if it can be made. -/
def step (m : Move) (w : Watch) : Option Watch :=
  match m with
  | .store bytes =>
    if w.inbox.linkUp then some { w with inbox := (w.inbox.ingest bytes).2 } else none
  | .linkDown => if w.inbox.linkUp then some { w with inbox := w.inbox.linkDown } else none
  | .look =>
    if w.watcher = .looking then
      match w.inbox.look with
      | (.byte b, inbox) => some { w with inbox := inbox, shown := w.shown ++ [b] }
      | (.closed, _) | (.empty, _) => some { w with watcher := .doubting }
    else none
  | .doubt =>
    if w.watcher = .doubting then
      some { w with watcher := if w.inbox.linkUp then .looking else .stopped }
    else none

/-- What moves in order lead to, if all of them can be made. -/
def run (moves : List Move) (w : Watch) : Option Watch := moves.foldlM (fun w m => step m w) w

end Watch

end DongleLink.Dump
