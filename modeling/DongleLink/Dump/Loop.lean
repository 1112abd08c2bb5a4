import DongleLink.Dump

/-!
# DongleLink.Dump.Loop

Showing received bytes until the time is over or the link drops.  Before each look for a byte
comes the question whether the time is over; after each look that brings none comes the question
whether the link is still up.  Either can end the showing, and what is on the open line then is
shown last.
-/

namespace DongleLink.Dump

/-- What one turn of the loop meets. -/
inductive Turn where
  /-- the time is over -/
  | overdue
  /-- a byte came in time -/
  | byte (b : UInt8)
  /-- none came in time, and the link is up or down -/
  | silence (linkUp : Bool)
  deriving DecidableEq, Repr

/-- The look for a byte that is made in a turn; when the time is over there is none. -/
def Turn.look? : Turn → Option Look
  | overdue => none
  | byte b => some (some b)
  | silence _ => some none

/-- Whether the loop goes on after a turn. -/
def Turn.goesOn : Turn → Bool
  | overdue => false
  | byte _ => true
  | silence linkUp => linkUp

/-- The lines that the loop shows, given the bytes on the open line; `none` as long as it has
not ended.  Turns after the one that ends it are never met. -/
def showing (line : List UInt8) : List Turn → Option (List (List UInt8))
  | [] => none
  | turn :: rest =>
    let (shown, line) :=
      match turn.look? with
      | none => (none, line)
      | some look => step line look
    if turn.goesOn then (showing line rest).map (shown.toList ++ ·)
    else some (shown.toList ++ (finish line).toList)

end DongleLink.Dump
