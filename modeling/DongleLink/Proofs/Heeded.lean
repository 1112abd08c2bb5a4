import DongleLink.Proofs.EntryPoints

/-!
# DongleLink.Proofs.Heeded

Whether loading heeds the variables of the environment.  A variable is heeded if its field has the
value that its text stands for.  Where loading succeeds, that is so of every variable that is set to
a text, and of no other: bytes that are no text leave the field alone, as if the variable were not
set (`heeded_of_loading`).  A text that stands for nothing makes loading fail, and the error names
the first variable that has one; so does a log filter that is none.
-/

namespace DongleLink.Config

/-! ## Ways of loading -/

/-- A way of loading, from the configuration that it starts with to what it ends in. -/
inductive Loading (h : Host) : Config → Except ConfigError Loaded → Prop where
  | named {path : String} {c : Config}
      (hfile : ofContents path (h.files.read h.cwd path) = .ok c) : Loading h c (loadFrom h path)
  | found {path : String} {c : Config} (hpath : resolvePath h = some path)
      (hfile : ofContents path (h.files.read h.cwd path) = .ok c) : Loading h c (load h)
  | unfound (hpath : resolvePath h = none) : Loading h {} (load h)

variable {h : Host} {c : Config} {result : Except ConfigError Loaded}

/-- Every way goes through the overrides and the check. -/
theorem Loading.eq_map (hload : Loading h c result) :
    ∃ from?, result =
      (effective h.environment c).map fun c => { path := from?, config := c } := by
  cases hload with
  | named hfile => exact ⟨_, loadFrom_of_contents hfile⟩
  | found hpath hfile => exact ⟨_, (load_of_found hpath).trans (loadFrom_of_contents hfile)⟩
  | unfound hpath => exact ⟨_, load_of_unfound hpath⟩

/-! ## Variables -/

namespace Variable

variable {e : Environment} {v : Variable}

/-- The variable is set to a text, if it is set. -/
def Textual (e : Environment) (v : Variable) : Prop :=
  ∀ bytes, e.bindings.lookup v.name = some bytes → ∃ text, textOfBytes? bytes = some text

/-- The variable's field has the value that its text stands for, if it is set. -/
def Heeded (e : Environment) (v : Variable) (c : Config) : Prop :=
  ∀ bytes, e.bindings.lookup v.name = some bytes →
    ∃ text, textOfBytes? bytes = some text ∧ v.read text = some (v.field c)

/-- The variable's text stands for something, if it is set to a text. -/
def Understood (e : Environment) (v : Variable) : Prop :=
  ∀ text, e.get? v.name = some text → (v.read text).isSome = true

/-- The overlay has in every field what the field's variable says. -/
theorem field_overlay (e : Environment) (c : Config) :
    ∀ v ∈ Variable.all, v.field (overlay e c) = e.over v.name v.read (v.field c) := by
  simp only [Variable.all, List.forall_mem_cons, List.not_mem_nil, false_imp_iff, implies_true,
    and_true]
  exact ⟨rfl, rfl, rfl, rfl, rfl, rfl, rfl, rfl, rfl⟩

theorem complaint?_eq_none_iff : v.complaint? e = none ↔ v.Understood e := by
  rw [complaint?, Understood]
  cases e.get? v.name with
  | none => simp
  | some text => simp [Option.isSome_iff_ne_none]

theorem complaint?_eq_some_iff {bad : BadOverride} :
    v.complaint? e = some bad ↔
      ∃ text, e.get? v.name = some text ∧ v.read text = none ∧
        bad = { name := v.name, value := text, wanted := v.wanted } := by
  rw [complaint?]
  cases e.get? v.name with
  | none => simp
  | some text => cases hread : v.read text <;> simp [hread, @eq_comm _ bad]

theorem misread?_eq_none_iff : misread? e = none ↔ ∀ v ∈ Variable.all, v.Understood e := by
  simp only [misread?, List.findSome?_eq_none_iff, complaint?_eq_none_iff]

/-- Where a variable cannot be understood, the first such one is complained about. -/
theorem exists_first_misread (hv : v ∈ Variable.all) (hnot : ¬ v.Understood e) :
    ∃ before w after text, Variable.all = before ++ w :: after ∧
      (∀ u ∈ before, u.Understood e) ∧ e.get? w.name = some text ∧ w.read text = none ∧
      misread? e = some { name := w.name, value := text, wanted := w.wanted } := by
  cases hmisread : misread? e with
  | none => exact absurd (misread?_eq_none_iff.1 hmisread v hv) hnot
  | some bad =>
      obtain ⟨before, w, after, hall, hw, hbefore⟩ := List.findSome?_eq_some_iff.1 hmisread
      obtain ⟨text, htext, hread, rfl⟩ := complaint?_eq_some_iff.1 hw
      exact ⟨before, w, after, text, hall, fun u hu => complaint?_eq_none_iff.1 (hbefore u hu),
        htext, hread, rfl⟩

/-- A variable that is set, but not to a text, leaves its field alone. -/
theorem field_overlay_of_not_textual (hv : v ∈ Variable.all) (hnot : ¬ v.Textual e) :
    v.field (overlay e c) = v.field c := by
  rw [Textual] at hnot
  push Not at hnot
  obtain ⟨bytes, hset, hbytes⟩ := hnot
  have hget : e.get? v.name = none := by
    rw [Environment.get?, hset, Option.bind_some]
    exact Option.eq_none_iff_forall_ne_some.2 hbytes
  rw [field_overlay e c v hv, Environment.over, hget]
  rfl

/-- Without a complaint the overlay heeds exactly the variables that are set to texts. -/
theorem heeded_overlay_iff (hread : misread? e = none) (hv : v ∈ Variable.all) :
    v.Heeded e (overlay e c) ↔ v.Textual e := by
  constructor
  · intro hheeded bytes hset
    obtain ⟨text, htext, -⟩ := hheeded bytes hset
    exact ⟨text, htext⟩
  · intro htextual bytes hset
    obtain ⟨text, htext⟩ := htextual bytes hset
    have hget : e.get? v.name = some text := by
      rw [Environment.get?, hset, Option.bind_some, htext]
    obtain ⟨x, hx⟩ := Option.isSome_iff_exists.1 (misread?_eq_none_iff.1 hread v hv text hget)
    refine ⟨text, htext, ?_⟩
    rw [field_overlay e c v hv, Environment.over, hget, Option.bind_some, hx]
    rfl

end Variable

/-! ## Loading -/

/-- A variable for the log filter decides what is wrong with the filter. -/
theorem faults_overlay_of_level {e : Environment} {text : String}
    (htext : e.get? "ZIGBEE_PORT_LOGGING_LEVEL" = some text) :
    (overlay e c).faults = (overlay e c).numberFaults ++ filterFaults text := by
  have hlevel : (overlay e c).logging.level = text := by
    simp [overlay, Environment.over, htext]
  rw [faults, hlevel]

/-- **Loading heeds the variables that are set to texts, and no others.**  Take any way of loading.
If it succeeds, a variable is heeded exactly if it is not set or set to a text, and otherwise its
field is as it was at the start.  If a text stands for nothing, loading fails, and the error gives
the first such variable with its text.  If the variable of the log filter is set to what is no
filter, loading fails too; where nothing before it is wrong, the error is about that text. -/
theorem heeded_of_loading (hload : Loading h c result) :
    (∀ l, result = .ok l → ∀ v ∈ Variable.all,
      (v.Heeded h.environment l.config ↔ v.Textual h.environment) ∧
        (¬ v.Textual h.environment → v.field l.config = v.field c)) ∧
    (∀ v ∈ Variable.all, ¬ v.Understood h.environment →
      ∃ before w after text, Variable.all = before ++ w :: after ∧
        (∀ u ∈ before, u.Understood h.environment) ∧
        h.environment.get? w.name = some text ∧ w.read text = none ∧
        result = .error (.badOverride { name := w.name, value := text, wanted := w.wanted })) ∧
    ∀ text reason, h.environment.get? "ZIGBEE_PORT_LOGGING_LEVEL" = some text →
      reason ∈ filterFaults text →
      (∀ l, result ≠ .ok l) ∧
        ((∀ v ∈ Variable.all, v.Understood h.environment) →
          (overlay h.environment c).numberFaults = [] → result = .error (.unfit reason)) := by
  obtain ⟨from?, rfl⟩ := hload.eq_map
  refine ⟨fun l hl v hv => ?_, fun v hv hnot => ?_, fun text reason htext hreason => ?_⟩
  · obtain ⟨hmisread, -, hconfig⟩ := effective_eq_ok_iff.1 (effective_of_map hl).1
    rw [hconfig]
    exact ⟨Variable.heeded_overlay_iff hmisread hv, Variable.field_overlay_of_not_textual hv⟩
  · obtain ⟨before, w, after, text, hall, hbefore, htext, hread, hmisread⟩ :=
      Variable.exists_first_misread hv hnot
    refine ⟨before, w, after, text, hall, hbefore, htext, hread, ?_⟩
    rw [effective_eq, hmisread]
    rfl
  · have hfaults := faults_overlay_of_level (c := c) htext
    rw [filterFaults_eq_singleton hreason] at hfaults
    refine ⟨fun l hl => ?_, fun hread hnumbers => ?_⟩
    · obtain ⟨-, hnone, -⟩ := effective_eq_ok_iff.1 (effective_of_map hl).1
      rw [hfaults] at hnone
      simp at hnone
    · rw [effective_eq, Variable.misread?_eq_none_iff.2 hread, hfaults, hnumbers]
      rfl

/-! ### On a machine -/

/-- A machine with an empty file and variables that are set to bytes. -/
def bytesSet (bindings : List (String × List UInt8)) : Host :=
  { machine "" [] with environment.bindings := bindings }

theorem contents_bytesSet (bindings : List (String × List UInt8)) :
    ofContents "port.toml"
      ((bytesSet bindings).files.read (bytesSet bindings).cwd "port.toml") = .ok {} :=
  (contents_machine "" []).trans rfl

/-- A chunk size in bytes that are no text, and a baud rate. -/
def halfTextual : List (String × List UInt8) :=
  [("ZIGBEE_PORT_TRANSPORT_CHUNK_SIZE", [0x36, 0x34, 0xff]),
    ("ZIGBEE_PORT_SERIAL_DEFAULT_BAUD", bytesOfText "57600")]

/-- All variables are heeded but the chunk size. -/
theorem heeded_halfTextual :
    Loading (bytesSet halfTextual) {} (loadFrom (bytesSet halfTextual) "port.toml") ∧
      loadFrom (bytesSet halfTextual) "port.toml" =
        .ok { path := some "port.toml", config := { serial.baud := 57600 } } ∧
      ∀ v ∈ Variable.all, v.Heeded (bytesSet halfTextual).environment { serial.baud := 57600 } ↔
        v.name ≠ "ZIGBEE_PORT_TRANSPORT_CHUNK_SIZE" := by
  have hload : Loading (bytesSet halfTextual) {} (loadFrom (bytesSet halfTextual) "port.toml") :=
    .named (contents_bytesSet halfTextual)
  have heffective : effective (bytesSet halfTextual).environment {} =
      .ok { serial.baud := 57600 } :=
    effective_eq_ok_iff.2 ⟨by decide +kernel, by decide +kernel, by decide +kernel⟩
  have heq : loadFrom (bytesSet halfTextual) "port.toml" =
      .ok { path := some "port.toml", config := { serial.baud := 57600 } } := by
    rw [loadFrom_of_contents (contents_bytesSet _), heffective]
    rfl
  refine ⟨hload, heq, fun v hv => ?_⟩
  rw [((heeded_of_loading hload).1 _ heq v hv).1, Variable.Textual]
  have hnotText : textOfBytes? [0x36, 0x34, 0xff] = none := by decide +kernel
  by_cases hchunk : v.name = "ZIGBEE_PORT_TRANSPORT_CHUNK_SIZE"
  · simp [bytesSet, halfTextual, hchunk, hnotText]
  · refine iff_of_true (fun bytes hset => ?_) hchunk
    rw [bytesSet, halfTextual, List.lookup_cons, beq_false_of_ne hchunk] at hset
    by_cases hbaud : v.name = "ZIGBEE_PORT_SERIAL_DEFAULT_BAUD"
    · rw [hbaud] at hset
      cases hset
      exact ⟨_, textOfBytes?_bytesOfText "57600"⟩
    · rw [List.lookup_cons, beq_false_of_ne hbaud] at hset
      cases hset

/-- A baud rate in bytes that are no text, and a log filter. -/
def baudInBytes : List (String × List UInt8) :=
  [("ZIGBEE_PORT_SERIAL_DEFAULT_BAUD", [0xff, 0x37]),
    ("ZIGBEE_PORT_LOGGING_LEVEL", bytesOfText "info")]

/-- The baud rate is passed over, and loading succeeds. -/
theorem unheeded_of_not_text :
    ∃ l, loadFrom (bytesSet baudInBytes) "port.toml" = .ok l ∧
      ∃ v ∈ Variable.all, v.name = "ZIGBEE_PORT_SERIAL_DEFAULT_BAUD" ∧
        ¬ v.Heeded (bytesSet baudInBytes).environment l.config := by
  have heffective : effective (bytesSet baudInBytes).environment {} = .ok {} :=
    effective_eq_ok_iff.2 ⟨by decide +kernel, by decide +kernel, by decide +kernel⟩
  have hnotText : textOfBytes? [0xff, 0x37] = none := by decide +kernel
  refine ⟨{ path := some "port.toml", config := {} }, ?_, Variable.all[4], List.getElem_mem _, rfl,
    fun hheeded => ?_⟩
  · rw [loadFrom_of_contents (contents_bytesSet _), heffective]
    rfl
  · obtain ⟨text, htext, -⟩ := hheeded [0xff, 0x37] rfl
    rw [hnotText] at htext
    cases htext

end DongleLink.Config
