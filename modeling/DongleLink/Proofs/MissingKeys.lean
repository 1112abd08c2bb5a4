import DongleLink.Proofs.DistinctKeys
import DongleLink.Proofs.Overlay
import DongleLink.Proofs.SavedConfig

/-!
# DongleLink.Proofs.MissingKeys

What a document leaves out has its standard value, and nothing else in the document matters.

A record is decoded key by key, in the order of the document.  Where its fields are slots that
leave each other alone (`Slot`), and no key stands twice, each slot ends up as what its key gives,
wherever that stands, or as it was.  A configuration is four such records in a fifth.  What a
document gives for the ten known keys is a relation of its own (`Gives`), which the decoder has no
part in; it determines what is loaded.
-/

namespace DongleLink

namespace Toml.Decode

/-! ## Slots -/

/- A table sets the fields of a record one after the other, in the order of the document.  As no
slot changes another, the order does not show, and each slot can be looked at alone. -/

/-- A field of a record that can be read and written. -/
structure Slot (α : Type) where
  {Field : Type}
  key : String
  decode : Placed Value → Except Misfit Field
  get : α → Field
  put : Field → α → α
  get_put : ∀ x r, get (put x r) = x

variable {α : Type}

/-- The field of a slot: it is written with what its value is decoded as. -/
def Slot.field (s : Slot α) : RecordField α :=
  ⟨s.key, fun v r => (s.decode v).map fun x => s.put x r⟩

/-- Slots with keys of their own, none of which changes another. -/
structure Apart (slots : List (Slot α)) : Prop where
  nodup : (slots.map Slot.key).Nodup
  get_put : ∀ s ∈ slots, ∀ s' ∈ slots, s.key ≠ s'.key → ∀ x r, s.get (s'.put x r) = s.get r

/-- What a slot is after decoding: what its key gives, or what it was if there is no such key. -/
def Slot.Takes (s : Slot α) (t : Entries) (before after : α) : Prop :=
  (Entries.get? s.key t = none → s.get after = s.get before) ∧
    ∀ v, Entries.get? s.key t = some v → s.decode v = .ok (s.get after)

/-- What a table gives for the key of a slot, if anything, can be decoded. -/
def Slot.Decodes (s : Slot α) (t : Entries) : Prop :=
  ∀ v, Entries.get? s.key t = some v → ∃ x, s.decode v = .ok x

variable {slots : List (Slot α)} {t : Entries}

/-- The field of a key is that of the slot with this key. -/
theorem find?_map_field (slots : List (Slot α)) (key : String) :
    (slots.map Slot.field).find? (·.key == key) = (slots.find? (·.key == key)).map Slot.field := by
  rw [List.find?_map]
  rfl

/-- **Each slot takes what its key gives**, if all that is given can be decoded. -/
theorem exists_setEntries (hapart : Apart slots) (hnodup : (keys t).Nodup)
    (hdecode : ∀ s ∈ slots, s.Decodes t) (r : α) :
    ∃ r', setEntries (slots.map Slot.field) t r = .ok r' ∧ ∀ s ∈ slots, s.Takes t r r' := by
  induction t generalizing r with
  | nil => exact ⟨r, rfl, fun s _ => ⟨fun _ => rfl, by rintro v ⟨⟩⟩⟩
  | cons entry t ih =>
      obtain ⟨k, v⟩ := entry
      obtain ⟨hk, hrest⟩ : k.value ∉ keys t ∧ (keys t).Nodup := by simpa [keys] using hnodup
      have hgone : Entries.get? k.value t = none := Entries.get?_of_not_mem hk
      have hother : ∀ key, key ≠ k.value →
          Entries.get? key ((k, v) :: t) = Entries.get? key t := fun key hne => by
        rw [Entries.get?, if_neg (Ne.symm hne)]
      have hdecodeRest : ∀ s ∈ slots, s.Decodes t := by
        intro s hs w hw
        refine hdecode s hs w ?_
        rwa [hother s.key (by rintro hsame; rw [hsame, hgone] at hw; cases hw)]
      cases hfind : slots.find? (·.key == k.value) with
      | none =>
          have hunknown : ∀ s ∈ slots, s.key ≠ k.value := by simpa using hfind
          obtain ⟨r', hr', htakes⟩ := ih hrest hdecodeRest r
          refine ⟨r', by rw [setEntries, find?_map_field, hfind]; exact hr', fun s hs => ?_⟩
          rw [Slot.Takes, hother s.key (hunknown s hs)]
          exact htakes s hs
      | some s₀ =>
          have hmem := List.mem_of_find?_eq_some hfind
          have hkey : s₀.key = k.value := by simpa using List.find?_some hfind
          have hhere : Entries.get? k.value ((k, v) :: t) = some v := if_pos rfl
          obtain ⟨x, hx⟩ := hdecode s₀ hmem v (hkey ▸ hhere)
          obtain ⟨r', hr', htakes⟩ := ih hrest hdecodeRest (s₀.put x r)
          refine ⟨r', ?_, fun s hs => ?_⟩
          · rw [setEntries, find?_map_field, hfind]
            simpa [Slot.field, hx, Except.map] using hr'
          · by_cases hsame : s.key = k.value
            · -- the key does not come again, so the slot stays as it was written here
              obtain rfl := List.inj_on_of_nodup_map hapart.nodup hs hmem (hsame.trans hkey.symm)
              have hget := (htakes s hs).1 (by rw [hsame, hgone])
              rw [Slot.Takes, hsame, hhere, hget, s.get_put]
              exact ⟨by rintro ⟨⟩, by rintro w ⟨⟩; exact hx⟩
            · rw [Slot.Takes, hother s.key hsame]
              refine ⟨fun hnone => ?_, (htakes s hs).2⟩
              rw [(htakes s hs).1 hnone]
              exact hapart.get_put s hs s₀ hmem (hkey ▸ hsame) x r

theorem Slot.Takes.eq {s : Slot α} {before after : α} (h : s.Takes t before after) {x : s.Field}
    (hnone : Entries.get? s.key t = none → x = s.get before)
    (hsome : ∀ v, Entries.get? s.key t = some v → s.decode v = .ok x) : s.get after = x := by
  cases hget : Entries.get? s.key t with
  | none => rw [h.1 hget, hnone hget]
  | some v => exact Except.ok.inj ((h.2 v hget).symm.trans (hsome v hget))

/-! ## What is given -/

/-- The table of a section, which is empty if the section is missing. -/
def IsSection (d : Entries) (key : String) (t : Entries) : Prop :=
  (Entries.get? key d = none ∧ t = []) ∨
    ∃ origin stretch, Entries.get? key d = some ⟨.table origin t, stretch⟩

theorem IsSection.distinct {d : Entries} {key : String} (h : IsSection d key t)
    (hd : Entries.Distinct d) : Entries.Distinct t := by
  obtain ⟨-, rfl⟩ | ⟨origin, stretch, hget⟩ := h
  · exact Entries.distinct_nil
  · exact Entries.distinct_table_iff.1 (hd.of_get? hget)

/-- A table gives something for a key, in the sense of `means`, or does not have the key. -/
def Tells {β : Type} (means : Value → β → Prop) (t : Entries) (key : String) (x : Option β) :
    Prop :=
  Option.Rel (fun v b => means v.value b) (Entries.get? key t) x

section tells

variable {β : Type} {means : Value → β → Prop} {s : Slot α} {x : Option β} {before after : α}

theorem Tells.cases {key : String} (h : Tells means t key x) :
    (Entries.get? key t = none ∧ x = none) ∨
      ∃ v b, Entries.get? key t = some v ∧ x = some b ∧ means v.value b := by
  rw [Tells] at h
  generalize Entries.get? key t = found at h
  cases h with
  | none => exact .inl ⟨rfl, rfl⟩
  | some h => exact .inr ⟨_, _, rfl, rfl, h⟩

/-- What is given can be decoded, if all that `means` something can. -/
theorem Tells.exists_decode (h : Tells means t s.key x)
    (hmeans : ∀ v b, Entries.get? s.key t = some v → means v.value b → ∃ y, s.decode v = .ok y) :
    s.Decodes t := by
  intro v hv
  obtain ⟨hnone, -⟩ | ⟨w, b, hw, -, hb⟩ := h.cases
  · rw [hnone] at hv
    cases hv
  · obtain rfl := Option.some.inj (hw.symm.trans hv)
    exact hmeans w b hw hb

/-- A slot takes what is given, or stays as it was. -/
theorem Slot.Takes.cases (htakes : s.Takes t before after) (h : Tells means t s.key x) :
    (x = none ∧ s.get after = s.get before) ∨
      ∃ v b, Entries.get? s.key t = some v ∧ x = some b ∧ means v.value b ∧
        s.decode v = .ok (s.get after) := by
  obtain ⟨hnone, hx⟩ | ⟨v, b, hv, hx, hb⟩ := h.cases
  · exact .inl ⟨hx, htakes.1 hnone⟩
  · exact .inr ⟨v, b, hv, hx, hb, htakes.2 v hv⟩

end tells

section slot

variable {s : Slot α} {means : Value → s.Field → Prop} {x : Option s.Field} {before after : α}

theorem Tells.decodes (h : Tells means t s.key x)
    (hmeans : ∀ v b, means v.value b → s.decode v = .ok b) : s.Decodes t :=
  h.exists_decode fun v b _ hb => ⟨b, hmeans v b hb⟩

/-- A slot is what is given, or else what it was. -/
theorem Slot.Takes.get_eq (htakes : s.Takes t before after) (h : Tells means t s.key x)
    (hmeans : ∀ v b, means v.value b → s.decode v = .ok b) :
    s.get after = x.getD (s.get before) := by
  obtain ⟨rfl, hget⟩ | ⟨v, b, -, rfl, hb, hget⟩ := htakes.cases h
  · exact hget
  · exact Except.ok.inj (hget.symm.trans (hmeans v b hb))

end slot

/-- A section is decoded as a record, each slot of which takes what the section's table gives; the
record stays as it was if the section is missing. -/
theorem exists_record (hapart : Apart slots) {d : Entries} {key : String}
    (hsection : IsSection d key t) (hnodup : (keys t).Nodup)
    (hdecode : ∀ s ∈ slots, s.Decodes t) (r : α)
    (wanted : String) :
    ∃ r', (∀ s ∈ slots, s.Takes t r r') ∧ (Entries.get? key d = none → r' = r) ∧
      ∀ v, Entries.get? key d = some v → record wanted (slots.map Slot.field) r v = .ok r' := by
  obtain ⟨r', hr', htakes⟩ := exists_setEntries hapart hnodup hdecode r
  refine ⟨r', htakes, ?_⟩
  obtain ⟨hnone, rfl⟩ | ⟨origin, stretch, hget⟩ := hsection
  · refine ⟨fun _ => (Except.ok.inj hr').symm, fun v hv => ?_⟩
    rw [hnone] at hv
    cases hv
  · refine ⟨fun hnone => ?_, fun v hv => ?_⟩
    · rw [hget] at hnone
      cases hnone
    · rw [hget] at hv
      cases hv
      exact hr'

/-! ## What values mean -/

/-- A whole number. -/
def IsNumber (v : Value) (n : Nat) : Prop := v = .integer n

def IsText (v : Value) (s : String) : Prop := v = .string s

/-- One of several choices: its name, or a table with the name as the only key and nothing in its
value. -/
def IsChoice (name : α → String) (v : Value) (a : α) : Prop :=
  v = .string (name a) ∨
    ∃ origin key content, v = .table origin [(key, content)] ∧ key.value = name a ∧
      ((∃ inner, content.value = .table inner []) ∨ content.value = .array [] ∨
        content.value = .tables [])

/-- A table of texts, as a map. -/
def IsMap (v : Value) (m : String → Option String) : Prop :=
  ∃ origin t, v = .table origin t ∧ ∀ name, Tells IsText t name (m name)

theorem IsChoice.choice {name : α → String} {all : List α} {a : α} {v : Placed Value}
    (h : IsChoice name v.value a) (hall : all.find? (name · == name a) = some a) :
    choice name all v = .ok a := by
  obtain ⟨v, stretch⟩ := v
  obtain rfl | ⟨origin, key, ⟨content, place⟩, rfl, hkey, hnothing⟩ := h
  · exact choice_name hall stretch
  · have hchoice : choiceOf name all key = .ok a := by rw [choiceOf, hkey, hall]
    have hmore : nothingMore ⟨content, place⟩ = .ok () := by
      obtain ⟨inner, rfl⟩ | rfl | rfl := hnothing <;> rfl
    simp only [Decode.choice, hchoice, hmore]

/-- A table of texts is read as pairs with its keys. -/
theorem exists_textsOf (h : ∀ entry ∈ t, ∃ s, entry.2.value = .string s) :
    ∃ pairs, textsOf t = .ok pairs ∧ pairs.map Prod.fst = keys t ∧
      ∀ name, Tells IsText t name (pairs.lookup name) := by
  induction t with
  | nil => exact ⟨[], rfl, rfl, fun name => .none⟩
  | cons entry t ih =>
      obtain ⟨k, v⟩ := entry
      obtain ⟨⟨s, hs⟩, hrest⟩ := List.forall_mem_cons.1 h
      obtain ⟨pairs, hpairs, hkeys, htells⟩ := ih hrest
      refine ⟨(k.value, s) :: pairs, ?_, congrArg (k.value :: ·) hkeys, fun name => ?_⟩
      · have hs' : v.value = .string s := hs
        simp only [textsOf, text, hs', hpairs]
      · rw [Tells, Entries.get?, List.lookup_cons]
        by_cases hname : k.value = name
        · rw [if_pos hname, beq_iff_eq.2 hname.symm]
          exact .some hs
        · rw [if_neg hname, beq_eq_false_iff_ne.2 (Ne.symm hname)]
          exact htells name

theorem Tells.text_unique {name : String} {x y : Option String} (hx : Tells IsText t name x)
    (hy : Tells IsText t name y) : x = y := by
  rw [Tells] at hx hy
  generalize Entries.get? name t = found at hx hy
  cases hx with
  | none =>
      cases hy
      rfl
  | some hx =>
      cases hy with
      | some hy => exact congrArg some (Value.string.inj (hx.symm.trans hy))

/-- Each entry of a map is a text. -/
theorem forall_text_of_tells (hnodup : (keys t).Nodup) {m : String → Option String}
    (h : ∀ name, Tells IsText t name (m name)) : ∀ entry ∈ t, ∃ s, entry.2.value = .string s := by
  intro entry hentry
  have htells := h entry.1.value
  rw [Tells, Entries.get?_of_mem hnodup hentry] at htells
  generalize m entry.1.value = x at htells
  cases htells with
  | some hs => exact ⟨_, hs⟩

/-- A map is decoded as aliases that are the same map. -/
theorem IsMap.exists_aliases {v : Placed Value} {m : String → Option String}
    (h : IsMap v.value m) (hdistinct : v.value.Distinct) :
    ∃ pairs, texts v = .ok pairs ∧ (Aliases.ofList pairs).get? = m := by
  obtain ⟨v, stretch⟩ := v
  obtain ⟨origin, t, rfl, hm⟩ := h
  have hnodup := (Entries.distinct_table_iff.1 hdistinct).nodup
  obtain ⟨pairs, hpairs, hkeys, htells⟩ := exists_textsOf (forall_text_of_tells hnodup hm)
  refine ⟨pairs, hpairs, ?_⟩
  have hentries : (Aliases.ofList pairs).entries = pairs :=
    Aliases.entries_foldl_insert pairs .empty (by simpa [Aliases.empty, hkeys] using hnodup)
  funext name
  rw [Aliases.get?, hentries]
  exact (htells name).text_unique (hm name)

end Toml.Decode

namespace Config

open Toml Toml.Decode

/-! ## The slots of a configuration -/

def transportSlots : List (Slot Transport) :=
  [{ key := "rx_buffer_capacity"
     decode := word64 "usize"
     get := (·.ringCapacity)
     put := fun n t => { t with ringCapacity := n }
     get_put := fun _ _ => rfl },
    { key := "chunk_size"
      decode := word64 "usize"
      get := (·.chunkSize)
      put := fun n t => { t with chunkSize := n }
      get_put := fun _ _ => rfl },
    { key := "connect_timeout_ms"
      decode := word64 "u64"
      get := (·.connectTimeoutMs)
      put := fun n t => { t with connectTimeoutMs := n }
      get_put := fun _ _ => rfl },
    { key := "poll_interval_ms"
      decode := word64 "u64"
      get := (·.pollIntervalMs)
      put := fun n t => { t with pollIntervalMs := n }
      get_put := fun _ _ => rfl }]

def serialSlots : List (Slot Serial) :=
  [{ key := "default_baud"
     decode := word32
     get := (·.baud)
     put := fun n s => { s with baud := n }
     get_put := fun _ _ => rfl },
    { key := "flow_control"
      decode := choice FlowControl.name FlowControl.all
      get := (·.flow)
      put := fun f s => { s with flow := f }
      get_put := fun _ _ => rfl },
    { key := "port_aliases"
      decode := fun v => (texts v).map Aliases.ofList
      get := (·.aliases)
      put := fun a s => { s with aliases := a }
      get_put := fun _ _ => rfl }]

def networkSlots : List (Slot Network) :=
  [{ key := "default_port"
     decode := fun v => (word16 v).map some
     get := (·.port)
     put := fun p n => { n with port := p }
     get_put := fun _ _ => rfl }]

def loggingSlots : List (Slot Logging) :=
  [{ key := "level"
     decode := text
     get := (·.level)
     put := fun level l => { l with level := level }
     get_put := fun _ _ => rfl },
    { key := "format"
      decode := choice LogFormat.name LogFormat.all
      get := (·.format)
      put := fun f l => { l with format := f }
      get_put := fun _ _ => rfl }]

def sectionSlots : List (Slot Config) :=
  [{ key := "transport"
     decode := record "struct TransportConfig" transportFields {}
     get := (·.transport)
     put := fun t c => { c with transport := t }
     get_put := fun _ _ => rfl },
    { key := "serial"
      decode := record "struct SerialConfig" serialFields {}
      get := (·.serial)
      put := fun s c => { c with serial := s }
      get_put := fun _ _ => rfl },
    { key := "network"
      decode := record "struct NetworkConfig" networkFields {}
      get := (·.network)
      put := fun n c => { c with network := n }
      get_put := fun _ _ => rfl },
    { key := "logging"
      decode := record "struct LoggingConfig" loggingFields {}
      get := (·.logging)
      put := fun l c => { c with logging := l }
      get_put := fun _ _ => rfl }]

theorem transportFields_eq : transportFields = transportSlots.map Slot.field := rfl

theorem loggingFields_eq : loggingFields = loggingSlots.map Slot.field := rfl

theorem sections_eq : sections = sectionSlots.map Slot.field := rfl

theorem networkFields_eq : networkFields = networkSlots.map Slot.field := by
  have hset : (fun (v : Placed Value) (s : Network) =>
      (word16 v).map fun n => { s with port := some n }) =
      fun v s => ((word16 v).map some).map fun p => { s with port := p } := by
    funext v s
    cases word16 v <;> rfl
  simp only [networkFields, networkSlots, Slot.field, hset, List.map_cons, List.map_nil]

theorem serialFields_eq : serialFields = serialSlots.map Slot.field := by
  have hset : (fun (v : Placed Value) (s : Serial) =>
      (texts v).map fun pairs => { s with aliases := .ofList pairs }) =
      fun v s => ((texts v).map Aliases.ofList).map fun a => { s with aliases := a } := by
    funext v s
    cases texts v <;> rfl
  simp only [serialFields, serialSlots, Slot.field, hset, List.map_cons, List.map_nil]

theorem apart_transport : Apart transportSlots := ⟨by decide, by simp [transportSlots]⟩

theorem apart_serial : Apart serialSlots := ⟨by decide, by simp [serialSlots]⟩

theorem apart_network : Apart networkSlots := ⟨by decide, by simp [networkSlots]⟩

theorem apart_logging : Apart loggingSlots := ⟨by decide, by simp [loggingSlots]⟩

theorem apart_sections : Apart sectionSlots := ⟨by decide, by simp [sectionSlots]⟩

/-! ## What a document gives -/

/- These say without the decoder what a document gives: a section is there or not, a key is there
or not, and a value means a number, a text or a choice. -/

/-- What a document can give for the known keys. -/
structure Given where
  ringCapacity : Option UInt64 := none
  chunkSize : Option UInt64 := none
  connectTimeoutMs : Option UInt64 := none
  pollIntervalMs : Option UInt64 := none
  baud : Option UInt32 := none
  flow : Option FlowControl := none
  /-- what each name stands for -/
  aliases : Option (String → Option String) := none
  port : Option UInt16 := none
  level : Option String := none
  format : Option LogFormat := none

/-- A document gives certain values for the known keys, each of the right type and in its range.
What else is in it, and in which order, does not matter. -/
structure Gives (d : Entries) (g : Given) : Prop where
  transport : ∃ t, IsSection d "transport" t ∧
    Tells (fun v (n : UInt64) => IsNumber v n.toNat) t "rx_buffer_capacity" g.ringCapacity ∧
    Tells (fun v (n : UInt64) => IsNumber v n.toNat) t "chunk_size" g.chunkSize ∧
    Tells (fun v (n : UInt64) => IsNumber v n.toNat) t "connect_timeout_ms" g.connectTimeoutMs ∧
    Tells (fun v (n : UInt64) => IsNumber v n.toNat) t "poll_interval_ms" g.pollIntervalMs
  serial : ∃ t, IsSection d "serial" t ∧
    Tells (fun v (n : UInt32) => IsNumber v n.toNat) t "default_baud" g.baud ∧
    Tells (IsChoice FlowControl.name) t "flow_control" g.flow ∧
    Tells IsMap t "port_aliases" g.aliases
  network : ∃ t, IsSection d "network" t ∧
    Tells (fun v (n : UInt16) => IsNumber v n.toNat) t "default_port" g.port
  logging : ∃ t, IsSection d "logging" t ∧
    Tells IsText t "level" g.level ∧
    Tells (IsChoice LogFormat.name) t "format" g.format

/-- A configuration is what is given, and where nothing is, the standard value. -/
structure Fulfils (c : Config) (g : Given) : Prop where
  ringCapacity : c.transport.ringCapacity = g.ringCapacity.getD 512
  chunkSize : c.transport.chunkSize = g.chunkSize.getD 1024
  connectTimeoutMs : c.transport.connectTimeoutMs = g.connectTimeoutMs.getD 5000
  pollIntervalMs : c.transport.pollIntervalMs = g.pollIntervalMs.getD 100
  baud : c.serial.baud = g.baud.getD 115200
  flow : c.serial.flow = g.flow.getD .none
  aliases : c.serial.aliases.get? = g.aliases.getD fun _ => none
  port : c.network.port = g.port
  level : c.logging.level = g.level.getD "info"
  format : c.logging.format = g.format.getD .pretty

/-! ## Decoding what is given -/

theorem word64_of_isNumber (wanted : String) (v : Placed Value) (n : UInt64)
    (h : IsNumber v.value n.toNat) : word64 wanted v = .ok n := by
  obtain ⟨v, stretch⟩ := v
  cases h
  exact word64_toNat wanted n stretch

theorem word32_of_isNumber (v : Placed Value) (n : UInt32) (h : IsNumber v.value n.toNat) :
    word32 v = .ok n := by
  obtain ⟨v, stretch⟩ := v
  cases h
  exact word32_toNat n stretch

theorem word16_of_isNumber (v : Placed Value) (n : UInt16) (h : IsNumber v.value n.toNat) :
    word16 v = .ok n := by
  obtain ⟨v, stretch⟩ := v
  cases h
  exact word16_toNat n stretch

theorem text_of_isText (v : Placed Value) (s : String) (h : IsText v.value s) :
    text v = .ok s := by
  obtain ⟨v, stretch⟩ := v
  cases h
  rfl

theorem flow_of_isChoice (v : Placed Value) (f : FlowControl)
    (h : IsChoice FlowControl.name v.value f) :
    choice FlowControl.name FlowControl.all v = .ok f :=
  h.choice (by cases f <;> rfl)

theorem format_of_isChoice (v : Placed Value) (f : LogFormat)
    (h : IsChoice LogFormat.name v.value f) : choice LogFormat.name LogFormat.all v = .ok f :=
  h.choice (by cases f <;> rfl)

section sections

variable {d : Entries} {g : Given}

theorem Gives.exists_transport (h : Gives d g) (hd : Entries.Distinct d) :
    ∃ r : Transport,
      (Entries.get? "transport" d = none → r = {}) ∧
      (∀ v, Entries.get? "transport" d = some v →
        record "struct TransportConfig" transportFields {} v = .ok r) ∧
      r.ringCapacity = g.ringCapacity.getD 512 ∧ r.chunkSize = g.chunkSize.getD 1024 ∧
      r.connectTimeoutMs = g.connectTimeoutMs.getD 5000 ∧
      r.pollIntervalMs = g.pollIntervalMs.getD 100 := by
  obtain ⟨t, hsection, hring, hchunk, htimeout, hpoll⟩ := h.transport
  have hdecode : ∀ s ∈ transportSlots, s.Decodes t :=
    List.forall_mem_cons.2 ⟨hring.decodes (word64_of_isNumber _),
      List.forall_mem_cons.2 ⟨hchunk.decodes (word64_of_isNumber _),
        List.forall_mem_cons.2 ⟨htimeout.decodes (word64_of_isNumber _),
          List.forall_mem_singleton.2 (hpoll.decodes (word64_of_isNumber _))⟩⟩⟩
  obtain ⟨r, htakes, hnone, hsome⟩ := exists_record apart_transport hsection
    (hsection.distinct hd).nodup hdecode {} "struct TransportConfig"
  rw [← transportFields_eq] at hsome
  simp only [transportSlots, List.forall_mem_cons] at htakes
  obtain ⟨tring, tchunk, ttimeout, tpoll, -⟩ := htakes
  exact ⟨r, hnone, hsome, tring.get_eq hring (word64_of_isNumber _),
    tchunk.get_eq hchunk (word64_of_isNumber _), ttimeout.get_eq htimeout (word64_of_isNumber _),
    tpoll.get_eq hpoll (word64_of_isNumber _)⟩

theorem Gives.exists_serial (h : Gives d g) (hd : Entries.Distinct d) :
    ∃ r : Serial,
      (Entries.get? "serial" d = none → r = {}) ∧
      (∀ v, Entries.get? "serial" d = some v →
        record "struct SerialConfig" serialFields {} v = .ok r) ∧
      r.baud = g.baud.getD 115200 ∧ r.flow = g.flow.getD .none ∧
      r.aliases.get? = g.aliases.getD fun _ => none := by
  obtain ⟨t, hsection, hbaud, hflow, haliases⟩ := h.serial
  have ht := hsection.distinct hd
  have hmap : ∀ v m, Entries.get? "port_aliases" t = some v → IsMap v.value m →
      ∃ a, (texts v).map Aliases.ofList = .ok a ∧ a.get? = m := by
    intro v m hv hm
    obtain ⟨pairs, hpairs, hget⟩ := hm.exists_aliases (ht.of_get? hv)
    exact ⟨.ofList pairs, by rw [hpairs]; rfl, hget⟩
  have hdecode : ∀ s ∈ serialSlots, s.Decodes t :=
    List.forall_mem_cons.2 ⟨hbaud.decodes word32_of_isNumber,
      List.forall_mem_cons.2 ⟨hflow.decodes flow_of_isChoice,
        List.forall_mem_singleton.2 (haliases.exists_decode fun v m hv hm =>
          (hmap v m hv hm).imp fun _ => And.left)⟩⟩
  obtain ⟨r, htakes, hnone, hsome⟩ := exists_record apart_serial hsection ht.nodup hdecode {}
    "struct SerialConfig"
  rw [← serialFields_eq] at hsome
  simp only [serialSlots, List.forall_mem_cons] at htakes
  obtain ⟨tbaud, tflow, taliases, -⟩ := htakes
  refine ⟨r, hnone, hsome, tbaud.get_eq hbaud word32_of_isNumber,
    tflow.get_eq hflow flow_of_isChoice, ?_⟩
  obtain ⟨hg, hget⟩ | ⟨v, m, hv, hg, hm, hget⟩ := taliases.cases haliases
  · rw [hg]
    exact congrArg Aliases.get? hget
  · obtain ⟨a, ha, hgets⟩ := hmap v m hv hm
    rw [hg, Option.getD_some, ← hgets]
    exact congrArg Aliases.get? (Except.ok.inj (hget.symm.trans ha))

theorem Gives.exists_network (h : Gives d g) (hd : Entries.Distinct d) :
    ∃ r : Network,
      (Entries.get? "network" d = none → r = {}) ∧
      (∀ v, Entries.get? "network" d = some v →
        record "struct NetworkConfig" networkFields {} v = .ok r) ∧
      r.port = g.port := by
  obtain ⟨t, hsection, hport⟩ := h.network
  have hword : ∀ (v : Placed Value) (n : UInt16), IsNumber v.value n.toNat →
      (word16 v).map some = .ok (some n) := fun v n hn => by
    rw [word16_of_isNumber v n hn]
    rfl
  have hdecode : ∀ s ∈ networkSlots, s.Decodes t :=
    List.forall_mem_singleton.2 (hport.exists_decode fun v n _ hn => ⟨some n, hword v n hn⟩)
  obtain ⟨r, htakes, hnone, hsome⟩ := exists_record apart_network hsection
    (hsection.distinct hd).nodup hdecode {} "struct NetworkConfig"
  rw [← networkFields_eq] at hsome
  simp only [networkSlots, List.forall_mem_cons] at htakes
  refine ⟨r, hnone, hsome, ?_⟩
  obtain ⟨hg, hget⟩ | ⟨v, n, -, hg, hn, hget⟩ := htakes.1.cases hport
  · rw [hg]
    exact hget
  · rw [hg]
    exact Except.ok.inj (hget.symm.trans (hword v n hn))

theorem Gives.exists_logging (h : Gives d g) (hd : Entries.Distinct d) :
    ∃ r : Logging,
      (Entries.get? "logging" d = none → r = {}) ∧
      (∀ v, Entries.get? "logging" d = some v →
        record "struct LoggingConfig" loggingFields {} v = .ok r) ∧
      r.level = g.level.getD "info" ∧ r.format = g.format.getD .pretty := by
  obtain ⟨t, hsection, hlevel, hformat⟩ := h.logging
  have hdecode : ∀ s ∈ loggingSlots, s.Decodes t :=
    List.forall_mem_cons.2 ⟨hlevel.decodes text_of_isText,
      List.forall_mem_singleton.2 (hformat.decodes format_of_isChoice)⟩
  obtain ⟨r, htakes, hnone, hsome⟩ := exists_record apart_logging hsection
    (hsection.distinct hd).nodup hdecode {} "struct LoggingConfig"
  rw [← loggingFields_eq] at hsome
  simp only [loggingSlots, List.forall_mem_cons] at htakes
  obtain ⟨tlevel, tformat, -⟩ := htakes
  exact ⟨r, hnone, hsome, tlevel.get_eq hlevel text_of_isText,
    tformat.get_eq hformat format_of_isChoice⟩

/-- What is given is decoded. -/
theorem Gives.exists_decode (h : Gives d g) (hd : Entries.Distinct d) :
    ∃ c, decode d = .ok c ∧ Fulfils c g := by
  obtain ⟨transport, transportNone, transportSome, hring, hchunk, htimeout, hpoll⟩ :=
    h.exists_transport hd
  obtain ⟨serial, serialNone, serialSome, hbaud, hflow, haliases⟩ := h.exists_serial hd
  obtain ⟨network, networkNone, networkSome, hport⟩ := h.exists_network hd
  obtain ⟨logging, loggingNone, loggingSome, hlevel, hformat⟩ := h.exists_logging hd
  have hdecode : ∀ s ∈ sectionSlots, s.Decodes d :=
    List.forall_mem_cons.2 ⟨fun v hv => ⟨transport, transportSome v hv⟩,
      List.forall_mem_cons.2 ⟨fun v hv => ⟨serial, serialSome v hv⟩,
        List.forall_mem_cons.2 ⟨fun v hv => ⟨network, networkSome v hv⟩,
          List.forall_mem_singleton.2 fun v hv => ⟨logging, loggingSome v hv⟩⟩⟩⟩
  obtain ⟨c, hc, htakes⟩ := exists_setEntries apart_sections hd.nodup hdecode {}
  rw [← sections_eq] at hc
  simp only [sectionSlots, List.forall_mem_cons] at htakes
  obtain ⟨ttransport, tserial, tnetwork, tlogging, -⟩ := htakes
  obtain rfl : c.transport = transport := ttransport.eq transportNone transportSome
  obtain rfl : c.serial = serial := tserial.eq serialNone serialSome
  obtain rfl : c.network = network := tnetwork.eq networkNone networkSome
  obtain rfl : c.logging = logging := tlogging.eq loggingNone loggingSome
  exact ⟨c, hc, ⟨hring, hchunk, htimeout, hpoll, hbaud, hflow, haliases, hport, hlevel, hformat⟩⟩

end sections

/-! ## Loading what is given -/

/-- Two configurations that are the same, apart from the order of their aliases. -/
def Alike (c c' : Config) : Prop :=
  c' = { c with serial.aliases := c'.serial.aliases } ∧
    c'.serial.aliases.get? = c.serial.aliases.get?

theorem Fulfils.alike {c c' : Config} {g : Given} (h : Fulfils c g) (h' : Fulfils c' g) :
    Alike c c' := by
  refine ⟨?_, h'.aliases.trans h.aliases.symm⟩
  obtain ⟨⟨_, _, _, _⟩, ⟨_, _, _⟩, ⟨_⟩, ⟨_, _⟩⟩ := c
  obtain ⟨⟨_, _, _, _⟩, ⟨_, _, _⟩, ⟨_⟩, ⟨_, _⟩⟩ := c'
  obtain ⟨rfl, rfl, rfl, rfl, rfl, rfl, -, rfl, rfl, rfl⟩ := h
  obtain ⟨rfl, rfl, rfl, rfl, rfl, rfl, -, rfl, rfl, rfl⟩ := h'
  rfl

/-- The aliases are not checked. -/
theorem Alike.check_eq {c c' : Config} (h : Alike c c') : c'.check = c.check := by
  rw [h.1]
  rfl

/-- **Missing keys take their standard values, and nothing else matters.**  If a file is a TOML
document whose sections are tables and whose known keys have values of the right types and in their
ranges, and no variable overrides anything, then the configuration is what the document gives, with
the standard value where it gives nothing, and what is loaded is that configuration if it passes
the check.  Any other document that gives the same, in whatever order and among whatever other keys
and sections, comes to the same. -/
theorem loadFrom_of_gives {h : Host} {path text : String} {bytes : List UInt8} {d : Entries}
    {g : Given} (hfile : h.files.read h.cwd path = .ok bytes)
    (htext : textOfBytes? bytes = some text) (htoml : read? text = some d) (hgives : Gives d g)
    (hunset : ∀ o ∈ overrides, h.environment.get? o.name = none) :
    ∃ c, decode d = .ok c ∧ Fulfils c g ∧
      (loadFrom h path =
        match c.check with
        | .ok () => .ok { path := some path, config := c }
        | .error reason => .error (.unfit reason)) ∧
      ∀ text' d', read? text' = some d' → Gives d' g →
        ∃ c', decode d' = .ok c' ∧ Fulfils c' g ∧ Alike c c' ∧ c'.check = c.check := by
  obtain ⟨c, hc, hfulfils⟩ := hgives.exists_decode (distinct_of_read? htoml)
  refine ⟨c, hc, hfulfils, ?_, ?_⟩
  · have hcontents : ofContents path (h.files.read h.cwd path) = .ok c := by
      simp only [hfile, ofContents, htext, ofText, htoml, hc]
    simp only [loadFrom, hcontents, effective, overridden_of_unset hunset]
    cases c.check <;> rfl
  · intro text' d' htoml' hgives'
    obtain ⟨c', hc', hfulfils'⟩ := hgives'.exists_decode (distinct_of_read? htoml')
    exact ⟨c', hc', hfulfils', hfulfils.alike hfulfils', (hfulfils.alike hfulfils').check_eq⟩

/-- A file that gives one number and two aliases. -/
def orderly : String :=
  "[transport]\nchunk_size = 64\n[serial.port_aliases]\n"
    ++ "stick = \"/dev/ttyACM0\"\nhub = \"tcp://hub\"\n"

/-- The same in another order, in another spelling, and among other keys. -/
def disorderly : String :=
  "[serial]\nport_aliases = \x7bhub = \"tcp://hub\", stick = \"/dev/ttyACM0\"\x7d\n"
    ++ "[later]\nsize = [1]\n[transport]\nshape = 2\nchunk_size = 64\n"

/-- What both files give. -/
def chunkAndAliases : Given where
  chunkSize := some 64
  aliases := some fun name =>
    if name = "stick" then some "/dev/ttyACM0"
    else if name = "hub" then some "tcp://hub"
    else none

theorem tells_chunkAndAliases {t : Entries} {a b : Option Stretch}
    (hstick : Entries.get? "stick" t = some ⟨.string "/dev/ttyACM0", a⟩)
    (hhub : Entries.get? "hub" t = some ⟨.string "tcp://hub", b⟩)
    (hothers : ∀ name, name ≠ "stick" → name ≠ "hub" → Entries.get? name t = none)
    (name : String) :
    Tells IsText t name (if name = "stick" then some "/dev/ttyACM0"
      else if name = "hub" then some "tcp://hub" else none) := by
  rw [Tells]
  split_ifs with h₁ h₂
  · rw [h₁, hstick]
    exact .some rfl
  · rw [h₂, hhub]
    exact .some rfl
  · rw [hothers name h₁ h₂]
    exact .none

set_option maxRecDepth 20000 in
theorem gives_orderly : ∃ d, read? orderly = some d ∧ Gives d chunkAndAliases := by
  obtain ⟨s₁, s₂, s₃, s₄, s₅, s₆, s₇, s₈, s₉, s₁₀, s₁₁, s₁₂, hread⟩ :
      ∃ s₁ s₂ s₃ s₄ s₅ s₆ s₇ s₈ s₉ s₁₀ s₁₁ s₁₂, read? orderly = some
        [(⟨"transport", s₁⟩, ⟨.table .header [(⟨"chunk_size", s₂⟩, ⟨.integer 64, s₃⟩)], s₄⟩),
          (⟨"serial", s₅⟩, ⟨.table .implied
            [(⟨"port_aliases", s₆⟩, ⟨.table .header
              [(⟨"stick", s₇⟩, ⟨.string "/dev/ttyACM0", s₈⟩),
                (⟨"hub", s₉⟩, ⟨.string "tcp://hub", s₁₀⟩)], s₁₁⟩)], s₁₂⟩)] :=
    ⟨_, _, _, _, _, _, _, _, _, _, _, _, rfl⟩
  refine ⟨_, hread, ⟨_, .inr ⟨_, _, rfl⟩, .none, .some rfl, .none, .none⟩,
    ⟨_, .inr ⟨_, _, rfl⟩, .none, .none, .some ⟨_, _, rfl, tells_chunkAndAliases rfl rfl ?_⟩⟩,
    ⟨_, .inl ⟨rfl, rfl⟩, .none⟩, ⟨_, .inl ⟨rfl, rfl⟩, .none, .none⟩⟩
  exact fun name hstick hhub => by simp [Entries.get?, Ne.symm hstick, Ne.symm hhub]

set_option maxRecDepth 20000 in
theorem gives_disorderly : ∃ d, read? disorderly = some d ∧ Gives d chunkAndAliases := by
  obtain ⟨s₁, s₂, s₃, s₄, s₅, s₆, s₇, s₈, s₉, s₁₀, s₁₁, s₁₂, s₁₃, s₁₄, s₁₅, s₁₆, s₁₇, s₁₈, s₁₉,
      hread⟩ :
      ∃ s₁ s₂ s₃ s₄ s₅ s₆ s₇ s₈ s₉ s₁₀ s₁₁ s₁₂ s₁₃ s₁₄ s₁₅ s₁₆ s₁₇ s₁₈ s₁₉,
        read? disorderly = some
          [(⟨"serial", s₁⟩, ⟨.table .header
              [(⟨"port_aliases", s₂⟩, ⟨.table .inline
                [(⟨"hub", s₃⟩, ⟨.string "tcp://hub", s₄⟩),
                  (⟨"stick", s₅⟩, ⟨.string "/dev/ttyACM0", s₆⟩)], s₇⟩)], s₈⟩),
            (⟨"later", s₉⟩, ⟨.table .header
              [(⟨"size", s₁₀⟩, ⟨.array [⟨.integer 1, s₁₁⟩], s₁₂⟩)], s₁₃⟩),
            (⟨"transport", s₁₄⟩, ⟨.table .header
              [(⟨"shape", s₁₅⟩, ⟨.integer 2, s₁₆⟩),
                (⟨"chunk_size", s₁₇⟩, ⟨.integer 64, s₁₈⟩)], s₁₉⟩)] :=
    ⟨_, _, _, _, _, _, _, _, _, _, _, _, _, _, _, _, _, _, _, rfl⟩
  refine ⟨_, hread, ⟨_, .inr ⟨_, _, rfl⟩, .none, .some rfl, .none, .none⟩,
    ⟨_, .inr ⟨_, _, rfl⟩, .none, .none, .some ⟨_, _, rfl, tells_chunkAndAliases rfl rfl ?_⟩⟩,
    ⟨_, .inl ⟨rfl, rfl⟩, .none⟩, ⟨_, .inl ⟨rfl, rfl⟩, .none, .none⟩⟩
  exact fun name hstick hhub => by simp [Entries.get?, Ne.symm hstick, Ne.symm hhub]

/-- One value below the standard one, which is no reason to refuse it. -/
theorem Fulfils.check_chunkAndAliases {c : Config} (h : Fulfils c chunkAndAliases) :
    c.check = .ok () := by
  rw [check, minimums, h.ringCapacity, h.chunkSize, h.pollIntervalMs, h.connectTimeoutMs, h.baud,
    h.level]
  decide +kernel

/-- Both files are loaded as the same, with standard values for all but what they give. -/
theorem loadFrom_of_gives_disorderly :
    ∃ c c', loadFrom (machine orderly []) "port.toml" =
        .ok { path := some "port.toml", config := c } ∧
      loadFrom (machine disorderly []) "port.toml" =
        .ok { path := some "port.toml", config := c' } ∧
      Fulfils c chunkAndAliases ∧ Fulfils c' chunkAndAliases ∧ Alike c c' := by
  obtain ⟨d, hread, hgives⟩ := gives_orderly
  obtain ⟨d', hread', hgives'⟩ := gives_disorderly
  obtain ⟨c, -, hc, hload, hothers⟩ := loadFrom_of_gives (read_machine orderly [])
    (textOfBytes?_bytesOfText orderly) hread hgives fun o _ => rfl
  obtain ⟨c', hdecode', hc', halike, -⟩ := hothers disorderly d' hread' hgives'
  obtain ⟨c'', hdecode'', -, hload', -⟩ := loadFrom_of_gives (read_machine disorderly [])
    (textOfBytes?_bytesOfText disorderly) hread' hgives' fun o _ => rfl
  obtain rfl : c' = c'' := Except.ok.inj (hdecode'.symm.trans hdecode'')
  rw [hc.check_chunkAndAliases] at hload
  rw [hc'.check_chunkAndAliases] at hload'
  exact ⟨c, c', hload, hload', hc, hc', halike⟩

end Config

end DongleLink
