import DongleLink.Payload

/-!
# DongleLink.Dump

Showing received bytes as they come.  Bytes collect on a line; the line is shown
when it is full, when the dongle falls silent, and at the end.
-/

namespace DongleLink.Dump

/-- Bytes on a full line. -/
def lineLength : Nat := 16

/-- What one look for a byte brings: the byte, or nothing in time. -/
abbrev Look := Option UInt8

/-- The open line, unless it is empty: what is shown at the end. -/
def finish (line : List UInt8) : Option (List UInt8) :=
  if line.isEmpty then none else some line

/-- Take one look into account: the line that is complete now, if any, and the
bytes that stay on the open one. -/
def step (line : List UInt8) : Look → Option (List UInt8) × List UInt8
  | some b =>
    let line := line ++ [b]
    if line.length = lineLength then (some line, []) else (none, line)
  | none => (finish line, [])

/-- The lines that a run of looks shows, given the bytes already on the line. -/
def lines (line : List UInt8) : List Look → List (List UInt8)
  | [] => (finish line).toList
  | look :: rest =>
    let (shown, line) := step line look
    shown.toList ++ lines line rest

/-- The bytes among the looks. -/
def bytesOf (looks : List Look) : List UInt8 := looks.filterMap id

/-- What is shown, put together, is what came, in order. -/
theorem flatten_lines (line : List UInt8) (looks : List Look) :
    (lines line looks).flatten = line ++ bytesOf looks := by
  have hfin (l : List UInt8) : (finish l).toList.flatten = l := by
    cases l <;> simp [finish]
  induction looks generalizing line with
  | nil => simpa [lines, bytesOf] using hfin line
  | cons look rest ih =>
    cases look with
    | none =>
      simp [lines, step, ih, bytesOf, hfin line]
    | some b =>
      simp only [lines, step]
      split <;> simp [ih, bytesOf]

end DongleLink.Dump
