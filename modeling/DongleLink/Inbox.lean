import DongleLink.Ring

/-!
# DongleLink.Inbox

What the receive loop and the readers share: the ring and whether the link is
up.  Each function here is what one of them does in one piece, with nobody
looking in between; both the port and the interleavings of its callers are
built from them.
-/

namespace DongleLink

/- Loop and readers share one lock.  What either of them does while it has the lock is a function
of the inbox alone; waking the others comes after and is no part of it. -/

/-- The receiving side that loop and readers share. -/
structure Inbox where
  ring : Ring
  /-- a stream is attached and its receive loop has not ended -/
  linkUp : Bool
  deriving DecidableEq, Repr, Inhabited

/-- What a reader finds when it looks. -/
inductive Found where
  | byte (b : UInt8)
  /-- nothing, and nothing will come -/
  | closed
  /-- nothing yet -/
  | empty
  deriving DecidableEq, Repr

namespace Inbox

/-- The unread bytes, oldest first. -/
def unread (i : Inbox) : List UInt8 := i.ring.toList

/-- The receive loop stores a chunk; the number tells how many bytes were evicted. -/
def ingest (bytes : List UInt8) (i : Inbox) : Nat × Inbox :=
  let (evicted, ring) := i.ring.pushAll bytes
  (evicted, { i with ring := ring })

/-- The link goes down. -/
def linkDown (i : Inbox) : Inbox := { i with linkUp := false }

/-- A reader looks, and takes a byte if there is one. -/
def look (i : Inbox) : Found × Inbox :=
  match i.ring.pop with
  | some (b, ring) => (.byte b, { i with ring := ring })
  | none => (if i.linkUp then .empty else .closed, i)

/-- A new stream is attached: nothing is unread, and the link is up. -/
def attach (i : Inbox) : Inbox := { ring := i.ring.clear, linkUp := true }

/-- Forget what is unread. -/
def purge (i : Inbox) : Inbox := { i with ring := i.ring.clear }

@[simp] theorem unread_linkDown (i : Inbox) : i.linkDown.unread = i.unread := rfl

@[simp] theorem unread_attach (i : Inbox) : i.attach.unread = [] := by
  simp [attach, unread]

@[simp] theorem unread_purge (i : Inbox) : i.purge.unread = [] := by
  simp [purge, unread]

/-- A reader is told that nothing will come only on an empty, dead link. -/
theorem look_eq_closed_iff (i : Inbox) :
    i.look.1 = .closed ↔ i.unread = [] ∧ i.linkUp = false := by
  rw [look, unread, ← Ring.pop_eq_none_iff]
  cases h : i.ring.pop with
  | none => cases i.linkUp <;> simp
  | some p => simp

/-- A reader is told to wait only on an empty, live link. -/
theorem look_eq_empty_iff (i : Inbox) :
    i.look.1 = .empty ↔ i.unread = [] ∧ i.linkUp = true := by
  rw [look, unread, ← Ring.pop_eq_none_iff]
  cases h : i.ring.pop with
  | none => cases i.linkUp <;> simp
  | some p => simp

/-- A reader takes the oldest unread byte. -/
theorem unread_of_look {i j : Inbox} {b : UInt8} (h : i.look = (.byte b, j)) :
    i.unread = b :: j.unread := by
  rw [look] at h
  cases hp : i.ring.pop with
  | none => rw [hp] at h; cases hl : i.linkUp <;> simp [hl] at h
  | some p =>
    rw [hp] at h
    obtain ⟨h1, rfl⟩ := Prod.mk.inj h
    cases h1
    exact Ring.toList_of_pop hp

/-- A look at the ring does not touch the link. -/
theorem linkUp_of_look {i j : Inbox} {found : Found} (h : i.look = (found, j)) :
    j.linkUp = i.linkUp := by
  rw [look] at h
  cases hp : i.ring.pop with
  | none => rw [hp] at h; rw [← (Prod.mk.inj h).2]
  | some p => rw [hp] at h; rw [← (Prod.mk.inj h).2]

end Inbox

end DongleLink
