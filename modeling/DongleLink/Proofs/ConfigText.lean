import DongleLink.Config.Load
import DongleLink.Proofs.DocumentTables

/-!
# DongleLink.Proofs.ConfigText

The document of a configuration is read back as the configuration.

A configuration is five sections, and each is read as its own record; only the aliases have keys
that are not known beforehand, and those differ.  A document exists if the numbers of the transport
section have no more than 63 bits, since all others are narrower anyway.
-/

namespace DongleLink

/-! ## Setting the fields of a record -/

namespace Toml.Decode

variable {α : Type} {fields : List (RecordField α)} {items : List (String × Value)}

/-- Entries that say certain things turn one record into another, wherever they stand. -/
def Sets (fields : List (RecordField α)) (items : List (String × Value)) (r r' : α) : Prop :=
  ∀ t : Entries, plain t = items → setEntries fields t r = .ok r'

theorem Sets.nil (r : α) : Sets fields [] r r := by
  intro t ht
  obtain rfl := List.map_eq_nil_iff.1 ht
  rfl

/-- A field is set to what its value is decoded as. -/
theorem Sets.cons {β : Type} {key : String} {value : Value} {b : β} {r r' : α} {name : String}
    {decode : Placed Value → Except Misfit β} {put : β → α → α}
    (hfind : fields.find? (·.key == key) = some ⟨name, fun v r => (decode v).map fun b => put b r⟩)
    (hdecode : ∀ stretch, decode ⟨value, stretch⟩ = .ok b) (h : Sets fields items (put b r) r') :
    Sets fields ((key, value) :: items) r r' := by
  intro t ht
  obtain ⟨k, stretch, u, rfl, hu⟩ := exists_of_plain_eq_cons ht
  rw [setEntries, hfind]
  simp only [hdecode, Except.map]
  exact h u hu

/-! ## Values -/

theorem number_natCast {limit n : Nat} (h : n ≤ limit) (wanted : String)
    (stretch : Option Stretch) : number wanted limit ⟨.integer n, stretch⟩ = .ok n := by
  have hrange : (0 : Int) ≤ n ∧ (n : Int) ≤ limit := by omega
  simp only [number, if_pos hrange, Int.toNat_natCast]

theorem choice_name {name : α → String} {all : List α} {a : α}
    (h : all.find? (name · == name a) = some a) (stretch : Option Stretch) :
    choice name all ⟨.string (name a), stretch⟩ = .ok a := by
  simp only [choice, choiceOf, h]

/-- A table of texts is read as them. -/
theorem texts_table {t : Entries} {pairs : List (String × String)}
    (h : plain t = pairs.map fun pair => (pair.1, .string pair.2)) (origin : Origin)
    (stretch : Option Stretch) : texts ⟨.table origin t, stretch⟩ = .ok pairs := by
  have htexts : textsOf t = .ok pairs := by
    induction pairs generalizing t with
    | nil =>
        obtain rfl := List.map_eq_nil_iff.1 h
        rfl
    | cons pair pairs ih =>
        obtain ⟨a, b, t, rfl, ht⟩ := exists_of_plain_eq_cons h
        simp only [textsOf, text, ih ht]
  exact htexts

end Toml.Decode

namespace Aliases

/-- A new name comes last. -/
theorem entries_insert {a : Aliases} {name : String} (hnew : name ∉ a.entries.map Prod.fst)
    (target : String) : (a.insert name target).entries = a.entries ++ [(name, target)] := by
  have herase : (a.erase name).entries = a.entries := by
    refine List.filter_eq_self.2 fun entry hentry => ?_
    have hne : entry.1 ≠ name := fun h => hnew (h ▸ List.mem_map_of_mem hentry)
    simpa using hne
  exact congrArg (· ++ [(name, target)]) herase

theorem entries_foldl_insert (pairs : List (String × String)) (a : Aliases)
    (hnodup : ((a.entries ++ pairs).map Prod.fst).Nodup) :
    (pairs.foldl (fun a (name, target) => a.insert name target) a).entries =
      a.entries ++ pairs := by
  induction pairs generalizing a with
  | nil => simp
  | cons pair pairs ih =>
      obtain ⟨name, target⟩ := pair
      have hnew : name ∉ a.entries.map Prod.fst := by
        rw [List.map_append, List.nodup_append] at hnodup
        exact fun h => hnodup.2.2 name h name List.mem_cons_self rfl
      have hentries := entries_insert hnew target
      rw [List.foldl_cons, ih _ (by rw [hentries]; simpa using hnodup), hentries]
      simp

/-- Different names keep what they were given, in their order. -/
theorem ofList_entries (a : Aliases) : ofList a.entries = a := by
  have hentries : (ofList a.entries).entries = a.entries :=
    entries_foldl_insert a.entries empty a.nodup
  generalize ofList a.entries = b at hentries
  cases a
  cases b
  cases hentries
  rfl

end Aliases

namespace Config

open Toml Toml.Decode

/-! ## The sections that are written -/

def Transport.written (t : Transport) : Section where
  path := []
  key := "transport"
  items :=
    [("rx_buffer_capacity", .integer t.ringCapacity.toNat),
      ("chunk_size", .integer t.chunkSize.toNat),
      ("connect_timeout_ms", .integer t.connectTimeoutMs.toNat),
      ("poll_interval_ms", .integer t.pollIntervalMs.toNat)]

def Serial.written (s : Serial) : Section where
  path := []
  key := "serial"
  items := [("default_baud", .integer s.baud.toNat), ("flow_control", .text s.flow.name)]

def Serial.aliasesWritten (s : Serial) : Section where
  path := ["serial"]
  key := "port_aliases"
  items := s.aliases.entries.map fun (name, target) => (name, .text target)

def Network.written (n : Network) : Section where
  path := []
  key := "network"
  items := n.port.toList.map fun port => ("default_port", .integer port.toNat)

def Logging.written (l : Logging) : Section where
  path := []
  key := "logging"
  items := [("level", .text l.level), ("format", .text l.format.name)]

/-- The sections of a configuration, in the order of its document. -/
def written (c : Config) : List Section :=
  [c.transport.written, c.serial.written, c.serial.aliasesWritten, c.network.written,
    c.logging.written]

/-- The numbers that are wide enough to exceed a document's integers do not. -/
structure Transport.Fits (t : Transport) : Prop where
  ringCapacity : t.ringCapacity.toNat ≤ largestInteger
  chunkSize : t.chunkSize.toNat ≤ largestInteger
  connectTimeoutMs : t.connectTimeoutMs.toNat ≤ largestInteger
  pollIntervalMs : t.pollIntervalMs.toNat ≤ largestInteger

theorem word32_le_largestInteger (n : UInt32) : n.toNat ≤ largestInteger := by
  have hn := n.toNat_lt
  rw [largestInteger]
  omega

theorem word16_le_largestInteger (n : UInt16) : n.toNat ≤ largestInteger := by
  have hn := n.toNat_lt
  rw [largestInteger]
  omega

/-! ## Encoding -/

theorem numberLine?_of_le {n : Nat} (h : n ≤ largestInteger) (key : String) :
    numberLine? key n = some (itemLine (key, .integer n)) := by
  rw [numberLine?, numeral?, if_pos h]
  rfl

theorem le_of_numberLine? {n : Nat} {key : String} {line : List Char}
    (h : numberLine? key n = some line) : n ≤ largestInteger := by
  by_contra hlt
  rw [numberLine?, numeral?, if_neg hlt] at h
  cases h

theorem Transport.lines?_of_fits {t : Transport} (h : t.Fits) :
    t.lines? = some t.written.chars := by
  simp [lines?, numberLine?_of_le h.ringCapacity, numberLine?_of_le h.chunkSize,
    numberLine?_of_le h.connectTimeoutMs, numberLine?_of_le h.pollIntervalMs, Section.chars,
    written, headerLine]

theorem Transport.lines?_of_not_fits {t : Transport} (h : ¬ t.Fits) : t.lines? = none := by
  rw [Option.eq_none_iff_forall_ne_some]
  intro lines hlines
  simp only [lines?, Option.bind_eq_bind, Option.bind_eq_some_iff] at hlines
  obtain ⟨_, hring, _, hchunk, _, htimeout, _, hpoll, -⟩ := hlines
  exact h ⟨le_of_numberLine? hring, le_of_numberLine? hchunk, le_of_numberLine? htimeout,
    le_of_numberLine? hpoll⟩

theorem Serial.lines?_eq (s : Serial) : s.lines? = some s.written.chars := by
  have hbaud := word32_le_largestInteger s.baud
  simp [lines?, numberLine?_of_le hbaud, Section.chars, written, headerLine, textLine, itemLine,
    Item.chars]

theorem Serial.aliasLines_eq (s : Serial) : s.aliasLines = s.aliasesWritten.chars := by
  simp [aliasLines, Section.chars, aliasesWritten, headerLine, textLine, itemLine, Item.chars,
    List.flatMap_map]

theorem Network.lines?_eq (n : Network) : n.lines? = some n.written.chars := by
  obtain ⟨port⟩ := n
  cases port with
  | none => simp [lines?, Section.chars, written, headerLine]
  | some port =>
      have hport := word16_le_largestInteger port
      simp [lines?, numberLine?_of_le hport, Section.chars, written, headerLine]

theorem Logging.lines_eq (l : Logging) : l.lines = l.written.chars := by
  simp [lines, Section.chars, written, headerLine, textLine, itemLine, Item.chars]

/-- The document of a configuration is that of its sections. -/
theorem encode?_of_fits {c : Config} (h : c.transport.Fits) :
    c.encode? = some (String.ofList (documentOf c.written)) := by
  simp [encode?, Transport.lines?_of_fits h, Serial.lines?_eq, Network.lines?_eq,
    Serial.aliasLines_eq, Logging.lines_eq, documentOf, written]

theorem encode?_of_not_fits {c : Config} (h : ¬ c.transport.Fits) : c.encode? = none := by
  simp [encode?, Transport.lines?_of_not_fits h]

/-! ## Decoding -/

theorem word64_toNat (wanted : String) (n : UInt64) (stretch : Option Stretch) :
    word64 wanted ⟨.integer n.toNat, stretch⟩ = .ok n := by
  have hn := n.toNat_lt
  rw [word64, number_natCast (by omega)]
  exact congrArg Except.ok n.ofNat_toNat

theorem word32_toNat (n : UInt32) (stretch : Option Stretch) :
    word32 ⟨.integer n.toNat, stretch⟩ = .ok n := by
  have hn := n.toNat_lt
  rw [word32, number_natCast (by omega)]
  exact congrArg Except.ok n.ofNat_toNat

theorem word16_toNat (n : UInt16) (stretch : Option Stretch) :
    word16 ⟨.integer n.toNat, stretch⟩ = .ok n := by
  have hn := n.toNat_lt
  rw [word16, number_natCast (by omega)]
  exact congrArg Except.ok n.ofNat_toNat

theorem choice_flow (f : FlowControl) (stretch : Option Stretch) :
    choice FlowControl.name FlowControl.all ⟨.string f.name, stretch⟩ = .ok f :=
  choice_name (by cases f <;> rfl) stretch

theorem choice_format (f : LogFormat) (stretch : Option Stretch) :
    choice LogFormat.name LogFormat.all ⟨.string f.name, stretch⟩ = .ok f :=
  choice_name (by cases f <;> rfl) stretch

theorem sets_transport (t : Transport) : Sets transportFields (said t.written.items) {} t :=
  .cons rfl (word64_toNat "usize" t.ringCapacity) <|
    .cons rfl (word64_toNat "usize" t.chunkSize) <|
      .cons rfl (word64_toNat "u64" t.connectTimeoutMs) <|
        .cons rfl (word64_toNat "u64" t.pollIntervalMs) <| .nil t

theorem sets_serial (s : Serial) {aliases : Entries}
    (haliases : plain aliases = said s.aliasesWritten.items) :
    Sets serialFields (said s.written.items ++ [("port_aliases", .table .header aliases)]) {}
      s := by
  have hpairs : plain aliases = s.aliases.entries.map fun pair => (pair.1, .string pair.2) := by
    simpa [said, Serial.aliasesWritten, Item.value, Function.comp_def] using haliases
  have htexts := texts_table hpairs .header
  refine .cons rfl (word32_toNat s.baud) <| .cons rfl (choice_flow s.flow) <|
    .cons rfl htexts ?_
  rw [Aliases.ofList_entries]
  exact .nil s

theorem sets_network (n : Network) : Sets networkFields (said n.written.items) {} n := by
  obtain ⟨port⟩ := n
  cases port with
  | none => exact .nil _
  | some port => exact .cons rfl (word16_toNat port) <| .nil _

theorem sets_logging (l : Logging) : Sets loggingFields (said l.written.items) {} l :=
  .cons rfl (fun _ => rfl) <| .cons rfl (choice_format l.format) <| .nil l

/-! ## The document -/

theorem fits_of_mem_written {c : Config} (h : c.transport.Fits) : ∀ t ∈ c.written, t.Fits := by
  have htop : 0 < mostKeyParts := by decide
  have hbelow : 1 < mostKeyParts := by decide
  simp only [written, List.forall_mem_cons, List.not_mem_nil, false_implies, implies_true, and_true]
  refine ⟨⟨htop, ?_⟩, ⟨htop, ?_⟩, ⟨hbelow, ?_⟩, ⟨htop, ?_⟩, ⟨htop, ?_⟩⟩
  · simpa [Transport.written, Item.Fits] using
      ⟨h.ringCapacity, h.chunkSize, h.connectTimeoutMs, h.pollIntervalMs⟩
  · simpa [Serial.written, Item.Fits, largestInteger] using word32_le_largestInteger c.serial.baud
  · intro item hitem
    obtain ⟨pair, -, rfl⟩ := List.mem_map.1 hitem
    exact trivial
  · intro item hitem
    obtain ⟨port, -, rfl⟩ := List.mem_map.1 hitem
    exact word16_le_largestInteger port
  · simp [Logging.written, Item.Fits]

/-- No section has a key twice. -/
theorem nodup_of_mem_written (c : Config) : ∀ t ∈ c.written, (t.items.map Prod.fst).Nodup := by
  simp only [written, List.forall_mem_cons, List.not_mem_nil, false_implies, implies_true, and_true]
  refine ⟨by simp [Transport.written], by simp [Serial.written], ?_, ?_, by simp [Logging.written]⟩
  · simpa [Serial.aliasesWritten, Function.comp_def] using c.serial.aliases.nodup
  · cases h : c.network.port <;> simp [Network.written, h]

/-- The table of a configuration's document, apart from the places of what is in it. -/
theorem exists_table {c : Config} (h : c.transport.Fits) :
    ∃ t transport serial aliases network logging : Entries,
      read? (String.ofList (documentOf c.written)) = some t ∧
      plain t = [("transport", .table .header transport), ("serial", .table .header serial),
        ("network", .table .header network), ("logging", .table .header logging)] ∧
      plain transport = said c.transport.written.items ∧
      plain serial = said c.serial.written.items ++ [("port_aliases", .table .header aliases)] ∧
      plain aliases = said c.serial.aliasesWritten.items ∧
      plain network = said c.network.written.items ∧
      plain logging = said c.logging.written.items := by
  obtain ⟨blocks, hblocks, hread⟩ := read?_documentOf (fits_of_mem_written h)
  obtain _ | ⟨htransport, _ | ⟨hserial, _ | ⟨haliases, _ | ⟨hnetwork, _ | ⟨hlogging, _ | _⟩⟩⟩⟩⟩ :=
    hblocks
  have hnodup := nodup_of_mem_written c
  simp only [written, List.forall_mem_cons] at hnodup
  obtain ⟨ndTransport, ndSerial, ndAliases, ndNetwork, ndLogging, -⟩ := hnodup
  obtain ⟨_, _, hgives⟩ := Draft.gives_nil.top htransport rfl (by simp [keys]) ndTransport
  obtain ⟨_, _, hgives⟩ := hgives.top hserial rfl
    (by simp [keys, Transport.written, Serial.written]) ndSerial
  -- the serial section is the last one here, so the aliases go into its table
  obtain ⟨_, _, hgives⟩ := hgives.below haliases rfl
    (by simp [keys, Transport.written, Serial.written])
    (by simp [keys_eq, hserial.entries, said, Serial.written, Serial.aliasesWritten]) ndAliases
  obtain ⟨_, _, hgives⟩ := hgives.top hnetwork rfl
    (by simp [keys, Transport.written, Serial.written, Network.written]) ndNetwork
  obtain ⟨_, _, hgives⟩ := hgives.top hlogging rfl
    (by simp [keys, Transport.written, Serial.written, Network.written, Logging.written]) ndLogging
  have htable := hgives.tableOf?
  simp only [List.nil_append, List.append_assoc] at htable
  simp only [List.flatMap_cons, List.flatMap_nil, List.append_nil] at hread
  refine ⟨_, _, _, _, _, _, hread.trans htable, rfl, htransport.entries, ?_, haliases.entries,
    hnetwork.entries, hlogging.entries⟩
  rw [plain_append, hserial.entries]
  rfl

/-- **The document of a configuration is read as it.** -/
theorem ofText_written {c : Config} (h : c.transport.Fits) :
    ofText (String.ofList (documentOf c.written)) = .ok c := by
  obtain ⟨t, transport, serial, aliases, network, logging, hread, ht, htransport, hserial, haliases,
    hnetwork, hlogging⟩ := exists_table h
  have hdecode : Sets sections (plain t) {} c := by
    rw [ht]
    exact .cons rfl (fun _ => sets_transport c.transport transport htransport) <|
      .cons rfl (fun _ => sets_serial c.serial haliases serial hserial) <|
        .cons rfl (fun _ => sets_network c.network network hnetwork) <|
          .cons rfl (fun _ => sets_logging c.logging logging hlogging) <| .nil c
  rw [ofText, hread]
  simp only [decode, hdecode t rfl]

end Config

end DongleLink
