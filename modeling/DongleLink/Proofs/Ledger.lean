import DongleLink.Proofs.BoundedQueue
import DongleLink.Proofs.Port
import DongleLink.Wire.Scripted

/-!
# DongleLink.Proofs.Ledger

What becomes of the bytes that a port receives.  Bytes leave the ring at its old end
only, one reader, one eviction or one purge after another; so the bytes that left,
in the order in which they left, followed by those that are unread are the bytes
that were received, and the place of a byte in this list is its one fate.

`entry_cases` says what a single action does to the ledger and to the unread bytes.
The law of a whole run (`removals_append_unread`) is its sum, and the counters of a
port are the lengths of the ledger's lists modulo 2^64 (`counters_run`).
-/

namespace DongleLink

namespace Inbox

@[simp] theorem ingest_nil (i : Inbox) : i.ingest [] = (0, i) := rfl

/-- What a chunk evicts and what it leaves unread are the old bytes and the chunk. -/
theorem take_evicted_append_unread (i : Inbox) (bytes : List UInt8) :
    (i.unread ++ bytes).take (i.ingest bytes).1 ++ (i.ingest bytes).2.unread =
      i.unread ++ bytes :=
  i.ring.take_evicted_append_toList bytes

/-- No more bytes are evicted than there are. -/
theorem ingest_evicted_le (i : Inbox) (bytes : List UInt8) :
    (i.ingest bytes).1 ≤ (i.unread ++ bytes).length := by
  have h := i.ring.pushAll_evicted bytes
  simp only [ingest, unread, List.length_append, Ring.length_toList, h]
  omega

/-- Of the old bytes and the chunk, the newest that fit are kept. -/
theorem unread_ingest (i : Inbox) (bytes : List UInt8) :
    (i.ingest bytes).2.unread =
      (i.unread ++ bytes).rtake (min (i.unread.length + bytes.length) i.ring.usable) := by
  have hkept := Ring.drop_eq_rtake (i.unread ++ bytes) i.ring.usable
  rw [List.length_append] at hkept
  rw [← hkept]
  simp only [ingest, unread, Ring.toList_pushAll, Ring.length_toList]

/-- The others are evicted. -/
theorem ingest_evicted (i : Inbox) (bytes : List UInt8) :
    (i.ingest bytes).1 = i.unread.length + bytes.length - i.ring.usable := by
  simp only [ingest, unread, Ring.pushAll_evicted, Ring.length_toList]

/-- Storing does not change how many bytes there is room for. -/
@[simp] theorem usable_ingest (i : Inbox) (bytes : List UInt8) :
    (i.ingest bytes).2.ring.usable = i.ring.usable :=
  i.ring.usable_pushAll bytes

theorem usable_of_look {i j : Inbox} {found : Found} (h : i.look = (found, j)) :
    j.ring.usable = i.ring.usable := by
  rw [look] at h
  cases hpop : i.ring.pop with
  | none =>
      rw [hpop] at h
      rw [← (Prod.mk.inj h).2]
  | some popped =>
      rw [hpop] at h
      rw [← (Prod.mk.inj h).2]
      exact Ring.usable_pop hpop

end Inbox

namespace Port

variable {σ : Type}

/-! ## Fates -/

/- The order in which bytes leave the ring matters, and a ledger has it only fate by fate.  So the
bytes of a run are listed once more, each with its fate (`removals`), and the ledger's lists are
those of one fate. -/

/-- What became of a byte that is no longer unread. -/
inductive ByteFate where
  | delivered
  | evicted
  | discarded
  deriving DecidableEq, Repr

namespace Ledger

/-- The bytes that met a fate. -/
def ofFate (l : Ledger) : ByteFate → List UInt8
  | .delivered => l.delivered
  | .evicted => l.evicted
  | .discarded => l.discarded

/-- The bytes that are no longer unread, with their fates.  A ledger of one action has
bytes of one fate only, so there is no order to choose. -/
def removals (l : Ledger) : List (ByteFate × UInt8) :=
  l.delivered.map (ByteFate.delivered, ·) ++ l.evicted.map (ByteFate.evicted, ·) ++
    l.discarded.map (ByteFate.discarded, ·)

theorem ofFate_continued (l m : Ledger) (fate : ByteFate) :
    (l.continued m).ofFate fate = l.ofFate fate ++ m.ofFate fate := by
  cases fate <;> rfl

end Ledger

/-- Those of some bytes that met a fate. -/
def withFate (fate : ByteFate) (gone : List (ByteFate × UInt8)) : List UInt8 :=
  (gone.filter (·.1 == fate)).map Prod.snd

theorem withFate_append (fate : ByteFate) (xs ys : List (ByteFate × UInt8)) :
    withFate fate (xs ++ ys) = withFate fate xs ++ withFate fate ys := by
  simp [withFate]

/-- Bytes of one fate are all there, or none of them is. -/
theorem withFate_map (fate other : ByteFate) (bytes : List UInt8) :
    withFate fate (bytes.map (other, ·)) = if other = fate then bytes else [] := by
  by_cases h : other = fate
  · simp [withFate, h, List.filter_map, Function.comp_def]
  · simp [withFate, h, List.filter_map, Function.comp_def]

@[simp] theorem withFate_removals (fate : ByteFate) (l : Ledger) :
    withFate fate l.removals = l.ofFate fate := by
  rw [Ledger.removals, withFate_append, withFate_append, withFate_map, withFate_map, withFate_map]
  cases fate <;> simp [Ledger.ofFate]

theorem sublist_withFate (fate : ByteFate) (gone : List (ByteFate × UInt8)) :
    (withFate fate gone).Sublist (gone.map Prod.snd) :=
  List.filter_sublist.map Prod.snd

/-! ## Runs -/

section run

variable [Wire σ]

/-- The bytes that left the ring during a run, in the order in which they left, with
their fates. -/
def removals : List (Action σ) → Port σ → List (ByteFate × UInt8)
  | [], _ => []
  | a :: rest, p => (p.entry a).removals ++ removals rest (p.act a)

/-! ## One action -/

/-- **What an action does to the bytes**: the loop stores a chunk, and what is evicted
is older than all that is left; or a reader takes the oldest byte; or all unread bytes
are discarded; or nothing becomes of any byte. -/
theorem entry_cases (p : Port σ) (a : Action σ) :
    (∃ bytes out, p.entry a = { received := bytes, evicted := out } ∧
        out ++ (p.act a).inbox.unread = p.inbox.unread ++ bytes) ∨
      (∃ b, p.entry a = { delivered := [b] } ∧ p.inbox.unread = b :: (p.act a).inbox.unread) ∨
      (p.entry a = { discarded := p.inbox.unread } ∧ (p.act a).inbox.unread = []) ∨
      (p.entry a = {} ∧ (p.act a).inbox.unread = p.inbox.unread) := by
  cases a with
  | openWith o thread =>
      -- taking the new stream back leaves the ring as it is
      have hunread : (p.act (.openWith o thread)).inbox.unread =
          (p.openWith o).2.inbox.unread := by
        obtain heq | ⟨fault, -, -, heq⟩ := openThreaded_cases thread o p <;> simp [act, heq]
      rw [hunread]
      obtain ⟨-, -, h⟩ | ⟨-, ⟨e, wire, -, h⟩ | ⟨wire, -, h⟩⟩ := openWith_cases o p
      · exact .inr (.inr (.inr ⟨by simp [entry, h], by simp [h]⟩))
      · exact .inr (.inr (.inr ⟨by simp [entry, h], by simp [h]⟩))
      · exact .inr (.inr (.inl ⟨by simp [entry, h], by simp [h, attached]⟩))
  | close => exact .inr (.inr (.inr ⟨rfl, by simp [act, close]⟩))
  | purge => exact .inr (.inr (.inl ⟨rfl, by simp [act, purge]⟩))
  | look =>
      obtain ⟨b, inbox, hi, h⟩ | ⟨-, h⟩ := p.look_cases
      · refine .inr (.inl ⟨b, by simp [entry, h], ?_⟩)
        simpa [act, h] using Inbox.unread_of_look hi
      · refine .inr (.inr (.inr ⟨?_, by simp [act, h]⟩))
        cases hl : p.inbox.linkUp <;> simp [entry, h, hl]
  | write bytes =>
      refine .inr (.inr (.inr ⟨rfl, ?_⟩))
      simp only [act]
      split <;> simp
  | resume bytes => exact .inr (.inr (.inr ⟨rfl, by simp [act]⟩))
  | hear r =>
      cases hlistens : p.listens with
      | false =>
          refine .inr (.inr (.inr ⟨?_, by simp [act, hlistens]⟩))
          cases r <;> simp [entry, hlistens]
      | true =>
          obtain ⟨bytes, rfl, -, h⟩ | ⟨hnone, h⟩ := hear_cases r p
          · refine .inl ⟨bytes, (p.inbox.unread ++ bytes).take (p.inbox.ingest bytes).1,
              by simp [entry, hlistens], ?_⟩
            simpa [act, hlistens, h, ingest] using p.inbox.take_evicted_append_unread bytes
          · refine .inr (.inr (.inr ⟨?_, ?_⟩))
            · cases r with
              | data bytes => simp [entry, hlistens, hnone bytes rfl]
              | ended => rfl
              | failed fault => rfl
            · obtain h | h := h <;> simp [act, hlistens, h]
  | onWire f => exact .inr (.inr (.inr ⟨rfl, rfl⟩))

/-- What left the ring and what is unread then are what was unread and what came. -/
theorem entry_removals_append_unread (p : Port σ) (a : Action σ) :
    (p.entry a).removals.map Prod.snd ++ (p.act a).inbox.unread =
      p.inbox.unread ++ (p.entry a).received := by
  obtain ⟨bytes, out, he, h⟩ | ⟨b, he, h⟩ | ⟨he, h⟩ | ⟨he, h⟩ := p.entry_cases a
  · simp [he, Ledger.removals, h, Function.comp_def]
  · simp [he, Ledger.removals, h]
  · simp [he, Ledger.removals, h, Function.comp_def]
  · simp [he, Ledger.removals, h]

/-- Bytes are evicted only if they are older than all that is left in the ring. -/
theorem entry_evicted_append_unread {p : Port σ} {a : Action σ} (hne : (p.entry a).evicted ≠ []) :
    (p.entry a).evicted ++ (p.act a).inbox.unread = p.inbox.unread ++ (p.entry a).received := by
  obtain ⟨bytes, out, he, h⟩ | ⟨b, he, -⟩ | ⟨he, -⟩ | ⟨he, -⟩ := p.entry_cases a
  · simpa [he] using h
  · simp [he] at hne
  · simp [he] at hne
  · simp [he] at hne

/-- No action changes how many bytes there is room for. -/
theorem usable_act (p : Port σ) (a : Action σ) :
    (p.act a).inbox.ring.usable = p.inbox.ring.usable := by
  have hvacated : p.vacated.inbox.ring = p.inbox.ring := by
    unfold vacated
    split
    · simp [Inbox.linkDown]
    · rfl
  cases a with
  | openWith o thread =>
      have hopen : (p.openWith o).2.inbox.ring.usable = p.inbox.ring.usable := by
        obtain ⟨-, -, h⟩ | ⟨-, ⟨e, wire, -, h⟩ | ⟨wire, -, h⟩⟩ := openWith_cases o p
        all_goals simp [h, attached, Inbox.attach, hvacated, Ring.usable]
      obtain heq | ⟨fault, -, -, heq⟩ := openThreaded_cases thread o p
      all_goals simp [act, heq, hopen, Inbox.linkDown]
  | close => simp [act, close, Inbox.linkDown]
  | purge => simp [act, purge, Inbox.purge, Ring.usable]
  | look =>
      obtain ⟨b, inbox, hi, h⟩ | ⟨-, h⟩ := p.look_cases
      · simpa [act, h] using Inbox.usable_of_look hi
      · simp [act, h]
  | write bytes =>
      simp only [act]
      split <;> simp
  | resume bytes => simp [act]
  | hear r =>
      simp only [act]
      split
      · obtain ⟨bytes, -, -, h⟩ | ⟨-, h | h⟩ := hear_cases r p
        all_goals simp [h, ingest, endLoop, Inbox.linkDown]
      · rfl
  | onWire f => rfl

theorem usable_run (p : Port σ) (actions : List (Action σ)) :
    (p.run actions).inbox.ring.usable = p.inbox.ring.usable := by
  induction actions generalizing p with
  | nil => rfl
  | cons a actions ih => rw [run_cons, ih, usable_act]

/-! ## Counters -/

/-- The three counters of received bytes grew by the lengths of a ledger's lists. -/
structure Counted (c d : Counters) (l : Ledger) : Prop where
  received : d.received = c.received + .ofNat l.received.length
  delivered : d.delivered = c.delivered + .ofNat l.delivered.length
  evicted : d.evicted = c.evicted + .ofNat l.evicted.length

theorem Counted.refl (c : Counters) : Counted c c {} := by
  constructor <;> simp

theorem Counted.trans {b c d : Counters} {l m : Ledger} (h : Counted b c l) (k : Counted c d m) :
    Counted b d (l.continued m) := by
  constructor
  · simp [Ledger.continued, k.received, h.received, UInt64.add_assoc]
  · simp [Ledger.continued, k.delivered, h.delivered, UInt64.add_assoc]
  · simp [Ledger.continued, k.evicted, h.evicted, UInt64.add_assoc]

theorem counted_transmit (bytes : List UInt8) (p : Port σ) :
    Counted p.counters (p.transmit bytes).2.counters {} := by
  obtain ⟨hr, hd, he⟩ := counters_transmit bytes p
  constructor <;> simp [hr, hd, he]

/-- An action counts what it adds to the ledger. -/
theorem counted_act (p : Port σ) (a : Action σ) :
    Counted p.counters (p.act a).counters (p.entry a) := by
  cases a with
  | openWith o thread =>
      have hcounters : (p.act (.openWith o thread)).counters = p.counters :=
        counters_openThreaded thread o p
      rw [hcounters]
      obtain ⟨-, -, h⟩ | ⟨-, ⟨e, wire, -, h⟩ | ⟨wire, -, h⟩⟩ := openWith_cases o p <;>
        constructor <;> simp [entry, h]
  | close => constructor <;> simp [act, entry, close]
  | purge => constructor <;> simp [act, entry, purge]
  | look =>
      obtain ⟨b, inbox, hi, h⟩ | ⟨-, h⟩ := p.look_cases
      · constructor <;> simp [act, entry, h]
      · cases hl : p.inbox.linkUp <;> constructor <;> simp [act, entry, h, hl]
  | write bytes =>
      simp only [act, entry]
      split
      · exact counted_transmit bytes p
      · exact Counted.refl p.counters
  | resume bytes => exact counted_transmit bytes p
  | hear r =>
      cases hlistens : p.listens with
      | false => cases r <;> constructor <;> simp [act, entry, hlistens]
      | true =>
          obtain ⟨bytes, rfl, -, h⟩ | ⟨hnone, h⟩ := hear_cases r p
          · have hle := p.inbox.ingest_evicted_le bytes
            constructor
            · simp [act, entry, hlistens, h, ingest]
            · simp [act, entry, hlistens, h, ingest]
            · simp only [act, entry, hlistens, h, ingest, if_true, List.length_take,
                Nat.min_eq_left hle]
          · have hentry : p.entry (.hear r) = {} := by
              cases r with
              | data bytes => simp [entry, hlistens, hnone bytes rfl]
              | ended => rfl
              | failed fault => rfl
            have hcounters : (p.act (.hear r)).counters = p.counters := by
              obtain h | h := h <;> simp [act, hlistens, h]
            rw [hentry, hcounters]
            exact Counted.refl p.counters
  | onWire f => exact Counted.refl p.counters

/-! ## Whole runs -/

/-- What left the ring during a run and what is unread at its end are what was unread
at its beginning and what was received. -/
theorem removals_append_unread (p : Port σ) (actions : List (Action σ)) :
    (removals actions p).map Prod.snd ++ (p.run actions).inbox.unread =
      p.inbox.unread ++ (ledger actions p).received := by
  induction actions generalizing p with
  | nil => simp [removals, ledger]
  | cons a actions ih =>
      calc (removals (a :: actions) p).map Prod.snd ++ (p.run (a :: actions)).inbox.unread
        _ = (p.entry a).removals.map Prod.snd ++
              ((removals actions (p.act a)).map Prod.snd ++
                ((p.act a).run actions).inbox.unread) := by
            simp [removals]
        _ = ((p.entry a).removals.map Prod.snd ++ (p.act a).inbox.unread) ++
              (ledger actions (p.act a)).received := by
            rw [ih, List.append_assoc]
        _ = p.inbox.unread ++ (ledger (a :: actions) p).received := by
            rw [entry_removals_append_unread, List.append_assoc]
            rfl

/-- The fates of the bytes that left the ring are those of the ledger. -/
theorem withFate_removals_run (fate : ByteFate) (p : Port σ) (actions : List (Action σ)) :
    withFate fate (removals actions p) = (ledger actions p).ofFate fate := by
  induction actions generalizing p with
  | nil => cases fate <;> rfl
  | cons a actions ih =>
      simp only [removals, ledger, withFate_append, withFate_removals, ih, Ledger.ofFate_continued]

/-- A run counts what it adds to the ledger. -/
theorem counted_run (p : Port σ) (actions : List (Action σ)) :
    Counted p.counters (p.run actions).counters (ledger actions p) := by
  induction actions generalizing p with
  | nil => exact Counted.refl p.counters
  | cons a actions ih => exact (p.counted_act a).trans (ih (p.act a))

/-- Bytes that left the ring met one of three fates. -/
theorem length_removals (p : Port σ) (actions : List (Action σ)) :
    (removals actions p).length = (ledger actions p).delivered.length +
      (ledger actions p).evicted.length + (ledger actions p).discarded.length := by
  induction actions generalizing p with
  | nil => rfl
  | cons a actions ih =>
      simp only [removals, ledger, Ledger.continued, Ledger.removals, List.length_append,
        List.length_map, ih]
      omega

/-- Where every byte met the same fate, the bytes that left are those that met it. -/
theorem removals_eq_delivered {p : Port σ} {actions : List (Action σ)}
    (he : (ledger actions p).evicted = []) (hd : (ledger actions p).discarded = []) :
    (removals actions p).map Prod.snd = (ledger actions p).delivered := by
  induction actions generalizing p with
  | nil => rfl
  | cons a actions ih =>
      simp only [ledger, Ledger.continued, List.append_eq_nil_iff] at he hd
      simp [removals, ledger, Ledger.continued, Ledger.removals, he.1, hd.1, ih he.2 hd.2,
        Function.comp_def]

/-- **Each received byte has one fate.**  For every run of a new port: the bytes that
left the ring, in order, followed by the unread ones are the received ones, and their
fates are those of the ledger; the counters agree with the ledger and with each other;
the delivered bytes come in the order in which they were received; bytes are evicted
only if they are older than all that is left; and where nothing was evicted or discarded,
nothing but delivered bytes left the ring. -/
theorem fates_of_run {wire : σ} {settings : Settings} {p : Port σ}
    (h : create wire settings = .ok p) (actions : List (Action σ)) :
    ((removals actions p).map Prod.snd ++ (p.run actions).inbox.unread =
          (ledger actions p).received ∧
        ∀ fate, withFate fate (removals actions p) = (ledger actions p).ofFate fate) ∧
      ((p.run actions).counters.received = .ofNat (ledger actions p).received.length ∧
        (p.run actions).counters.delivered = .ofNat (ledger actions p).delivered.length ∧
        (p.run actions).counters.evicted = .ofNat (ledger actions p).evicted.length ∧
        (p.run actions).counters.received =
          (p.run actions).counters.delivered + (p.run actions).counters.evicted +
            .ofNat (p.run actions).available + .ofNat (ledger actions p).discarded.length) ∧
      (ledger actions p).delivered.Sublist (ledger actions p).received ∧
      (∀ before a after, actions = before ++ a :: after →
        ((p.run before).entry a).evicted ≠ [] →
          ((p.run before).entry a).evicted ++ (p.run (before ++ [a])).inbox.unread =
            (p.run before).inbox.unread ++ ((p.run before).entry a).received) ∧
      ((ledger actions p).evicted = [] → (ledger actions p).discarded = [] →
        (ledger actions p).delivered ++ (p.run actions).inbox.unread =
          (ledger actions p).received) := by
  obtain ⟨-, -, hcap, rfl⟩ := create_eq_ok_iff.1 h
  generalize hp : ({ wire := wire, settings := settings, inbox := _ } : Port σ) = p
  have hempty : p.inbox.unread = [] := by rw [← hp]; exact Ring.toList_ofCapacity _ hcap
  have hzero : p.counters = {} := by rw [← hp]
  have hlaw := p.removals_append_unread actions
  rw [hempty, List.nil_append] at hlaw
  obtain ⟨hr, hd, he⟩ := p.counted_run actions
  rw [hzero] at hr hd he
  simp only [UInt64.zero_add] at hr hd he
  have hsum : (ledger actions p).received.length =
      (ledger actions p).delivered.length + (ledger actions p).evicted.length +
        (p.run actions).available + (ledger actions p).discarded.length := by
    have hlen := congrArg List.length hlaw
    rw [List.length_append, List.length_map, length_removals, Inbox.unread,
      Ring.length_toList] at hlen
    rw [available]; omega
  refine ⟨⟨hlaw, fun fate => p.withFate_removals_run fate actions⟩, ⟨hr, hd, he, ?_⟩, ?_, ?_, ?_⟩
  · rw [hr, hd, he, hsum]
    simp only [UInt64.ofNat_add]
  · have hsub := sublist_withFate .delivered (removals actions p)
    rw [withFate_removals_run] at hsub
    rw [← hlaw]
    exact hsub.trans (List.sublist_append_left _ _)
  · intro before a after _ hne
    rw [run_append]
    exact entry_evicted_append_unread hne
  · intro hev hdis
    rw [← removals_eq_delivered hev hdis, hlaw]

end run

/-- A run in which a byte meets each of the fates, on a ring for two bytes. -/
def fourFates : List (Action Scripted) :=
  [.openWith {}, .hear (.data [1, 2, 3]), .look, .hear (.data [4]), .purge, .hear (.data [5])]

/-- The second byte is delivered, the first one evicted, two are discarded, and the last
one stays. -/
theorem fates_of_fourFates :
    ∃ p, create { name := "" } { ringCapacity := 3, chunkSize := 4 } = .ok p ∧
      (ledger fourFates p).received = [1, 2, 3, 4, 5] ∧
      removals fourFates p = [(.evicted, 1), (.delivered, 2), (.discarded, 3), (.discarded, 4)] ∧
      (p.run fourFates).inbox.unread = [5] ∧
      (p.run fourFates).counters.received = 1 + 1 + 1 + 2 := by
  refine ⟨_, rfl, by decide, by decide, by decide, ?_⟩
  have h : create ({ name := "" } : Scripted) { ringCapacity := 3, chunkSize := 4 } = .ok _ := rfl
  exact (fates_of_run h fourFates).2.1.2.2.2.trans (by decide)

/-- A stream ends with a byte unread. -/
def endedUnread : List (Action Scripted) :=
  [.openWith {}, .hear (.data [7]), .hear .ended]

/-- An opening that fails for lack of a thread takes the byte with it: until then nothing was
discarded, nothing is ever delivered or evicted, and afterwards nothing is unread. -/
theorem lost_to_failed_opening :
    ∃ p, create { name := "" } { ringCapacity := 3, chunkSize := 4 } = .ok p ∧
      let before := p.run endedUnread
      let after := p.run (endedUnread ++ [.openWith {} (.error (.system 11))])
      ((ledger endedUnread p).discarded = [] ∧ before.inbox.unread = [7]) ∧
        (before.openThreaded (.error (.system 11)) {}).1 = .error (.io (.system 11)) ∧
        after.counters.received = 1 ∧
        after.counters.delivered + after.counters.evicted + .ofNat after.available = 0 := by
  refine ⟨_, rfl, ?_⟩
  decide

end Port

end DongleLink
