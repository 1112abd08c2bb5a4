import DongleLink.Proofs.TargetGrammar
import Mathlib.Logic.ExistsUnique

/-!
# DongleLink.Proofs.TargetRoutes

Which way a text is read, and what that leaves to the defaults.  `Takes` gives each text its one
route, by its scheme or else by its looks, and knows no defaults.  On a route, a part that the
text names is never supplied, so that reading depends on the defaults of those parts only that
the text leaves out (`parse_eq_of_sameGaps`): both a target and a fault come of what the text
says.

A host and a port can be written with their scheme or without it.  Without it, a host whose first
label begins like the name of a device is taken for one (`bare_spelling_iff`).
-/

namespace DongleLink.Target

open Text

/-! ## Routes -/

/-- The way to read a text, with what is left of it after a scheme. -/
inductive Takes : List Char → Route → Prop where
  | tcp (rest : List Char) : Takes ("tcp://".toList ++ rest) (.network rest)
  | serial (rest : List Char) : Takes ("serial://".toList ++ rest) (.serial rest)
  | bareSerial {s : List Char} (hdevice : DeviceLike s) : Takes s (.serial s)
  | bareNetwork {s : List Char} (hne : s ≠ []) (htcp : ¬ "tcp://".toList <+: s)
      (hserial : ¬ "serial://".toList <+: s) (hdevice : ¬ DeviceLike s) : Takes s (.network s)

theorem takes_iff {s : List Char} {route : Route} :
    Takes s route ↔ s ≠ [] ∧ Route.of s = route := by
  constructor
  · intro h
    cases h with
    | tcp rest =>
        refine ⟨by simp, ?_⟩
        rw [Route.of, after?_eq_some_iff.2 rfl]
    | serial rest =>
        refine ⟨by simp, ?_⟩
        rw [Route.of, after?_eq_none_iff.2 (by simp), after?_eq_some_iff.2 rfl]
    | bareSerial hdevice =>
        refine ⟨by cases hdevice <;> simp, ?_⟩
        rw [route_of_bare hdevice.not_prefix.1 hdevice.not_prefix.2,
          if_pos (deviceLike_iff.1 hdevice)]
    | bareNetwork hne htcp hserial hdevice =>
        rw [deviceLike_iff] at hdevice
        exact ⟨hne, by rw [route_of_bare htcp hserial, if_neg hdevice]⟩
  · rintro ⟨hne, rfl⟩
    by_cases htcp : "tcp://".toList <+: s
    · obtain ⟨rest, rfl⟩ := htcp
      rw [Route.of, after?_eq_some_iff.2 rfl]
      exact .tcp rest
    · by_cases hserial : "serial://".toList <+: s
      · obtain ⟨rest, rfl⟩ := hserial
        rw [Route.of, after?_eq_none_iff.2 htcp, after?_eq_some_iff.2 rfl]
        exact .serial rest
      · rw [route_of_bare htcp hserial]
        split
        next hdevice => exact .bareSerial (deviceLike_iff.2 hdevice)
        next hdevice => exact .bareNetwork hne htcp hserial (mt deviceLike_iff.1 hdevice)

/-- A text takes one route, which is settled by the text alone. -/
theorem existsUnique_takes {s : List Char} (hne : s ≠ []) : ∃! route, Takes s route :=
  ⟨Route.of s, takes_iff.2 ⟨hne, rfl⟩, fun _ h => (takes_iff.1 h).2.symm⟩

theorem Takes.read_network {s rest : List Char} (h : Takes s (.network rest)) :
    Spelled.read s = Spelled.readNetwork rest := by
  obtain ⟨hne, hroute⟩ := takes_iff.1 h
  rw [Spelled.read, if_neg (by simpa using hne), hroute]

theorem Takes.read_serial {s rest : List Char} (h : Takes s (.serial rest)) :
    Spelled.read s = Spelled.readSerial rest := by
  obtain ⟨hne, hroute⟩ := takes_iff.1 h
  rw [Spelled.read, if_neg (by simpa using hne), hroute]

/-! ## What a text leaves out -/

/-- What is before the first question mark, and what is behind it, if there is one. -/
inductive Divides : List Char → List Char → List Char → Prop where
  | device {s : List Char} (hmark : '?' ∉ s) : Divides s s []
  | query {device query : List Char} (hmark : '?' ∉ device) :
      Divides (device ++ '?' :: query) device query

theorem Divides.cut {s device query : List Char} (h : Divides s device query) :
    splitFirst '?' s = none ∧ device = s ∧ query = [] ∨
      splitFirst '?' s = some (device, query) := by
  cases h with
  | device hmark => exact .inl ⟨splitFirst_eq_none_iff.2 hmark, rfl, rfl⟩
  | query hmark => exact .inr (splitFirst_eq_some_iff.2 ⟨rfl, hmark⟩)

theorem exists_divides (s : List Char) : ∃ device query, Divides s device query := by
  cases hcut : splitFirst '?' s with
  | none => exact ⟨s, [], .device (splitFirst_eq_none_iff.1 hcut)⟩
  | some cut =>
      obtain ⟨rfl, hmark⟩ := splitFirst_eq_some_iff.1 hcut
      exact ⟨cut.1, cut.2, .query hmark⟩

/-- Two defaults supply the same for each part that a text leaves out: a port behind the last
colon, a baud rate behind an at sign, a mode among the options. -/
structure SameGaps (d e : Defaults) (s : List Char) : Prop where
  tcpPort {rest : List Char} (hroute : Takes s (.network rest)) (hcolon : ':' ∉ rest) :
    d.tcpPort = e.tcpPort
  baud {rest device query : List Char} (hroute : Takes s (.serial rest))
    (hdivides : Divides rest device query) (hat : '@' ∉ device) : d.baud = e.baud
  flow {rest device query : List Char} (hroute : Takes s (.serial rest))
    (hdivides : Divides rest device query)
    (hflow : ∀ option ∈ query.splitOn '&', ¬ "flow=".toList <+: option) : d.flow = e.flow

theorem fill_network_congr {d e : Defaults} {host : List Char} {port : Option UInt16}
    (h : port = none → d.tcpPort = e.tcpPort) :
    (Spelled.network host port).fill d = (Spelled.network host port).fill e := by
  cases port with
  | none => simp only [Spelled.fill, h rfl]
  | some n => rfl

theorem fill_serial_congr {d e : Defaults} {path : List Char} {baud : Option UInt32}
    {flow : Option FlowControl} (hbaud : baud = none → d.baud = e.baud)
    (hflow : flow = none → d.flow = e.flow) :
    (Spelled.serial path baud flow).fill d = (Spelled.serial path baud flow).fill e := by
  have hrate : baud.getD d.baud = baud.getD e.baud := by
    cases baud with
    | none => exact hbaud rfl
    | some n => rfl
  have hmode : flow.getD d.flow = flow.getD e.flow := by
    cases flow with
    | none => exact hflow rfl
    | some f => rfl
  rw [Spelled.fill, Spelled.fill, hrate, hmode]

/-- A host whose port is to be supplied has no colon. -/
theorem not_mem_colon {s host : List Char}
    (h : Spelled.readNetwork s = .ok (.network host none)) : ':' ∉ s := by
  rw [Spelled.readNetwork] at h
  split at h
  next hcut => exact splitLast_eq_none_iff.1 hcut
  next =>
    split at h
    · cases h
    · cases h

/-- A device whose baud rate is to be supplied has no at sign. -/
theorem not_mem_at {device path : List Char}
    (h : Spelled.readDevice device = .ok (path, none)) : '@' ∉ device := by
  rw [Spelled.readDevice] at h
  split at h
  next hcut => exact splitLast_eq_none_iff.1 hcut
  next =>
    split at h
    · cases h
    · cases h
    · cases h

/-- Options that set no mode are none: an option that sets nothing is refused. -/
theorem not_prefix_flow {query : List Char}
    (h : Spelled.readOptions none (Spelled.optionsOf query) = .ok none) :
    ∀ option ∈ query.splitOn '&', ¬ "flow=".toList <+: option := by
  obtain ⟨flows, hflows, hlast⟩ := readOptions_optionsOf_iff.1 h
  rw [List.getLast?_eq_none_iff] at hlast
  subst hlast
  have hempty := List.forall₂_nil_right_iff.1 hflows
  -- only empty pieces are passed over
  intro option hmem hprefix
  have hnil : option = [] := by
    simpa using List.filter_eq_nil_iff.1 hempty option hmem
  subst hnil
  simp at hprefix

theorem readSerial_leaves_out {s device query path : List Char} {baud : Option UInt32}
    {flow : Option FlowControl} (hdivides : Divides s device query)
    (h : Spelled.readSerial s = .ok (.serial path baud flow)) :
    (baud = none → '@' ∉ device) ∧
      (flow = none → ∀ option ∈ query.splitOn '&', ¬ "flow=".toList <+: option) := by
  have hcut : splitFirst '?' s = none ∧ device = s ∧ Spelled.optionsOf query = [] ∨
      ∃ rest, splitFirst '?' s = some (device, rest) ∧
        Spelled.optionsOf query = Spelled.optionsOf rest := by
    obtain ⟨hnone, hdevice, rfl⟩ | hsome := hdivides.cut
    · exact .inl ⟨hnone, hdevice, rfl⟩
    · exact .inr ⟨query, hsome, rfl⟩
  rw [readSerial_eq_ok_iff hcut] at h
  obtain ⟨_, _, _, hdevice, -, hoptions, heq⟩ := h
  cases heq
  constructor
  · rintro rfl
    exact not_mem_at hdevice
  · rintro rfl
    exact not_prefix_flow hoptions

theorem fill_congr {d e : Defaults} {s : List Char} (h : SameGaps d e s) {parts : Spelled}
    (hread : Spelled.read s = .ok parts) : parts.fill d = parts.fill e := by
  have hne : s ≠ [] := by
    rintro rfl
    cases hread
  obtain ⟨route, htakes, -⟩ := existsUnique_takes hne
  cases route with
  | network rest =>
      rw [htakes.read_network] at hread
      obtain ⟨host, port, rfl⟩ := readNetwork_eq_ok hread
      refine fill_network_congr ?_
      rintro rfl
      exact h.tcpPort htakes (not_mem_colon hread)
  | serial rest =>
      rw [htakes.read_serial] at hread
      obtain ⟨path, baud, flow, rfl, -⟩ := readSerial_eq_ok hread
      obtain ⟨device, query, hdivides⟩ := exists_divides rest
      obtain ⟨hbaud, hflow⟩ := readSerial_leaves_out hdivides hread
      exact fill_serial_congr (fun hnone => h.baud htakes hdivides (hbaud hnone))
        fun hnone => h.flow htakes hdivides (hflow hnone)

/-- A text is read the same with two defaults that supply the same for what it leaves out. -/
theorem parse_eq_of_sameGaps {d e : Defaults} {input : String}
    (h : SameGaps d e (trim input.toList)) : parse d input = parse e input := by
  have hread : read d (trim input.toList) = read e (trim input.toList) := by
    rw [read, read]
    cases hparts : Spelled.read (trim input.toList) with
    | error fault => rfl
    | ok parts => exact fill_congr h hparts
  rw [parse, hread, parse]

/-- On the network there is neither a baud rate nor a mode. -/
theorem sameGaps_of_network {d e : Defaults} {s rest : List Char}
    (hroute : Takes s (.network rest)) (h : d.tcpPort = e.tcpPort) : SameGaps d e s where
  tcpPort _ _ := h
  baud hother := by cases (existsUnique_takes (takes_iff.1 hroute).1).unique hroute hother
  flow hother := by cases (existsUnique_takes (takes_iff.1 hroute).1).unique hroute hother

/-- On a serial line there is no port. -/
theorem sameGaps_of_serial {d e : Defaults} {s rest : List Char}
    (hroute : Takes s (.serial rest)) (hbaud : d.baud = e.baud) (hflow : d.flow = e.flow) :
    SameGaps d e s where
  tcpPort hother := by cases (existsUnique_takes (takes_iff.1 hroute).1).unique hroute hother
  baud _ _ _ := hbaud
  flow _ _ _ := hflow

/-- A target is of the kind of the route. -/
theorem exists_takes_of_parse {d : Defaults} {input : String} {t : Target}
    (h : parse d input = .ok t) :
    (∃ rest host port, Takes (trim input.toList) (.network rest) ∧ t = .network host port) ∨
      ∃ rest path baud flow, Takes (trim input.toList) (.serial rest) ∧
        t = .serial path baud flow := by
  obtain ⟨parts, hread, hfill⟩ := parse_eq_ok_iff.1 h
  have hne : trim input.toList ≠ [] := by
    intro hnil
    rw [hnil] at hread
    cases hread
  obtain ⟨route, htakes, -⟩ := existsUnique_takes hne
  cases route with
  | network rest =>
      rw [htakes.read_network] at hread
      obtain ⟨host, port, rfl⟩ := readNetwork_eq_ok hread
      obtain ⟨n, -, -, -, rfl⟩ := fill_network_eq_ok_iff.1 hfill
      exact .inl ⟨rest, _, n, htakes, rfl⟩
  | serial rest =>
      rw [htakes.read_serial] at hread
      obtain ⟨path, baud, flow, rfl, -⟩ := readSerial_eq_ok hread
      cases hfill
      exact .inr ⟨rest, _, _, _, htakes, rfl⟩

/-- **Defaults fill gaps and do nothing else.**  With two defaults that supply the same for all
that a text leaves out, reading it comes to the same, be it a target or a fault.  So what is read
on the network never depends on the baud rate and the mode, nor what is read on a serial line on
the port; and whether it is the one or the other is settled by the text. -/
theorem defaults_fill_gaps {input : String} {s : List Char} (hs : Trimmed input.toList s) :
    (∀ d e, SameGaps d e s → parse d input = parse e input) ∧
      (∀ rest, Takes s (.network rest) → ∀ d e : Defaults, d.tcpPort = e.tcpPort →
        parse d input = parse e input) ∧
      (∀ rest, Takes s (.serial rest) → ∀ d e : Defaults, d.baud = e.baud → d.flow = e.flow →
        parse d input = parse e input) ∧
      (∀ d host port, parse d input = .ok (.network host port) →
        ∃ rest, Takes s (.network rest)) ∧
      (∀ d path baud flow, parse d input = .ok (.serial path baud flow) →
        ∃ rest, Takes s (.serial rest)) ∧
      (s ≠ [] → ∃! route, Takes s route) := by
  obtain rfl := trimmed_iff.1 hs
  refine ⟨fun d e => parse_eq_of_sameGaps,
    fun rest hroute d e h => parse_eq_of_sameGaps (sameGaps_of_network hroute h),
    fun rest hroute d e hbaud hflow => parse_eq_of_sameGaps (sameGaps_of_serial hroute hbaud hflow),
    fun d host port h => ?_, fun d path baud flow h => ?_, existsUnique_takes⟩
  · obtain ⟨rest, _, _, htakes, -⟩ | ⟨_, _, _, _, -, ht⟩ := exists_takes_of_parse h
    · exact ⟨rest, htakes⟩
    · cases ht
  · obtain ⟨_, _, _, -, ht⟩ | ⟨rest, _, _, _, htakes, -⟩ := exists_takes_of_parse h
    · cases ht
    · exact ⟨rest, htakes⟩

/-- A device that leaves nothing out, with two defaults that have nothing in common, and a host
that leaves out its port, with two that have only that in common. -/
theorem defaults_fill_gaps_commonPort :
    let d : Defaults := { baud := 9600, flow := .hardware, tcpPort := some 6638 }
    let e : Defaults := { baud := 57600, flow := .software, tcpPort := none }
    let c : Defaults := { e with tcpPort := some 6638 }
    parse d " Com3@1200?&flow=off&flow=RTSCTS" = parse e " Com3@1200?&flow=off&flow=RTSCTS" ∧
      parse d "tcp://dongle" = parse c "tcp://dongle" ∧
      parse d "tcp://dongle" ≠ parse e "tcp://dongle" := by
  intro d e c
  have hdevice : Trimmed " Com3@1200?&flow=off&flow=RTSCTS".toList
      "Com3@1200?&flow=off&flow=RTSCTS".toList := trimmed_iff.2 (by decide)
  have hhost : Trimmed "tcp://dongle".toList "tcp://dongle".toList := trimmed_iff.2 (by decide)
  have hserial : Takes "Com3@1200?&flow=off&flow=RTSCTS".toList
      (.serial "Com3@1200?&flow=off&flow=RTSCTS".toList) := takes_iff.2 (by decide)
  refine ⟨(defaults_fill_gaps hdevice).1 d e ?_,
    (defaults_fill_gaps hhost).2.1 _ (.tcp "dongle".toList) d c rfl, by decide⟩
  -- the route and the parts of the first text are these and no others
  have hgaps : ∀ {rest device query : List Char},
      Takes "Com3@1200?&flow=off&flow=RTSCTS".toList (.serial rest) → Divides rest device query →
        device = "Com3@1200".toList ∧ query = "&flow=off&flow=RTSCTS".toList := by
    intro rest device query hroute hdivides
    cases (existsUnique_takes (by decide)).unique hserial hroute
    obtain ⟨hnone, -⟩ | hsome := hdivides.cut
    · exact absurd hnone (by decide)
    · have hcut : splitFirst '?' "Com3@1200?&flow=off&flow=RTSCTS".toList =
          some ("Com3@1200".toList, "&flow=off&flow=RTSCTS".toList) := by decide
      rw [hcut] at hsome
      cases hsome
      exact ⟨rfl, rfl⟩
  constructor
  · intro rest hroute
    cases (existsUnique_takes (by decide)).unique hserial hroute
  · intro rest device query hroute hdivides hat
    rw [(hgaps hroute hdivides).1] at hat
    exact absurd (by decide) hat
  · intro rest device query hroute hdivides hflow
    rw [(hgaps hroute hdivides).2] at hflow
    exact absurd (by decide) (hflow "flow=off".toList (by decide))

/-! ## Hosts without a scheme -/

/-- Two or more labels of letters, digits and hyphens, with dots between them. -/
def HostName (s : List Char) : Prop :=
  ∃ labels : List (List Char), 2 ≤ labels.length ∧
    (∀ label ∈ labels, label ≠ [] ∧ ∀ c ∈ label, c.isAlphanum = true ∨ c = '-') ∧
    s = ['.'].intercalate labels

theorem mem_intercalate {sep c : Char} {pieces : List (List Char)}
    (h : c ∈ [sep].intercalate pieces) : c = sep ∨ ∃ piece ∈ pieces, c ∈ piece := by
  induction pieces with
  | nil => simp at h
  | cons piece pieces ih =>
      cases pieces with
      | nil => exact .inr ⟨piece, by simp, by simpa using h⟩
      | cons next pieces =>
          simp only [List.intercalate_cons_cons, List.mem_append, List.mem_singleton] at h
          obtain (h | h) | h := h
          · exact .inr ⟨piece, by simp, h⟩
          · exact .inl h
          · obtain h | ⟨piece, hpiece, h⟩ := ih h
            · exact .inl h
            · exact .inr ⟨piece, List.mem_cons_of_mem _ hpiece, h⟩

theorem HostName.mem {s : List Char} (h : HostName s) {c : Char} (hc : c ∈ s) :
    c.isAlphanum = true ∨ c = '-' ∨ c = '.' := by
  obtain ⟨labels, -, hlabels, rfl⟩ := h
  obtain rfl | ⟨label, hlabel, hc⟩ := mem_intercalate hc
  · exact .inr (.inr rfl)
  · obtain hc | hc := (hlabels label hlabel).2 c hc
    · exact .inl hc
    · exact .inr (.inl hc)

theorem HostName.ne_nil {s : List Char} (h : HostName s) : s ≠ [] := by
  obtain ⟨labels, hlength, hlabels, rfl⟩ := h
  match labels with
  | first :: second :: rest =>
      rw [List.intercalate_cons_cons]
      simp

/-- What has a meaning in a target is not in a host name. -/
theorem HostName.not_mem {s : List Char} (h : HostName s) {c : Char}
    (hc : ¬ (c.isAlphanum = true ∨ c = '-' ∨ c = '.')) : c ∉ s :=
  fun hmem => hc (h.mem hmem)

theorem HostName.isBlank_eq {s : List Char} (h : HostName s) {c : Char} (hc : c ∈ s) :
    isBlank c = false := by
  obtain hc | rfl | rfl := h.mem hc
  · exact isBlank_of_isAlphanum hc
  · decide
  · decide

/-- What a text begins with makes a device of it; a colon has no part in that. -/
theorem deviceLike_append_colon {host : List Char} (hne : host ≠ []) (rest : List Char) :
    DeviceLike (host ++ ':' :: rest) ↔ DeviceLike host := by
  constructor
  · intro h
    -- in a shorter host the colon would have to be a letter or the digit
    match host with
    | [first] =>
        cases h with
        | slash => exact .slash []
        | com _ _ ho => simp at ho
    | [first, second] =>
        cases h with
        | slash => exact .slash [second]
        | com _ _ _ hm => simp at hm
    | [first, second, third] =>
        cases h with
        | slash => exact .slash [second, third]
        | com _ _ _ _ hdigit => simp at hdigit
    | first :: second :: third :: fourth :: others =>
        cases h with
        | slash => exact .slash (second :: third :: fourth :: others)
        | com _ hc ho hm hdigit => exact .com others hc ho hm hdigit
  · intro h
    cases h with
    | slash others => exact .slash _
    | com others hc ho hm hdigit => exact .com _ hc ho hm hdigit

theorem toList_bare (host : String) (port : UInt16) :
    (s!"{host}:{port}").toList = host.toList ++ ':' :: decimal port.toNat := by
  change (host ++ ":" ++ String.ofList (decimal port.toNat)).toList = _
  simp

theorem trim_bare {host : String} (h : HostName host.toList) (port : UInt16) :
    trim (s!"{host}:{port}").toList = (s!"{host}:{port}").toList := by
  rw [toList_bare]
  refine trim_eq_self (fun c hc => ?_) (fun c hc => ?_)
  · rw [List.head?_append_of_ne_nil _ h.ne_nil] at hc
    exact h.isBlank_eq (List.mem_of_head? hc)
  · rw [List.append_cons] at hc
    exact isBlank_getLast?_decimal hc

/-- There is no slash in it, and so no scheme before it. -/
theorem not_prefix_bare {host scheme : List Char} (h : HostName host) (hslash : '/' ∈ scheme)
    (n : Nat) : ¬ scheme <+: host ++ ':' :: decimal n := by
  intro hprefix
  have hmem := hprefix.subset hslash
  have hhost := h.not_mem (c := '/') (by decide)
  have hport := not_mem_decimal (c := '/') (by decide) n
  simp [hhost, hport] at hmem

theorem parse_bare_network {host : String} (h : HostName host.toList) {port : UInt16}
    (hzero : port ≠ 0) (d : Defaults) (hdevice : ¬ DeviceLike host.toList) :
    parse d s!"{host}:{port}" = .ok (.network host port) := by
  have hroute : Takes (host.toList ++ ':' :: decimal port.toNat)
      (.network (host.toList ++ ':' :: decimal port.toNat)) :=
    .bareNetwork (by simp) (not_prefix_bare h (by decide) _) (not_prefix_bare h (by decide) _)
      (by rwa [deviceLike_append_colon h.ne_nil])
  have hends : Spelled.unbracketed host.toList = host.toList := by
    refine (unbracketed_eq_self_iff _).2 ⟨fun hc => ?_, fun hc => ?_⟩
    · exact h.not_mem (by decide) (List.mem_of_head? hc)
    · exact h.not_mem (by decide) (List.mem_of_getLast? hc)
  rw [parse_eq_ok_iff, trim_bare h, toList_bare, hroute.read_network, readNetwork_append, hends]
  refine ⟨_, rfl, fill_network_eq_ok_iff.2 ⟨port, rfl, h.ne_nil, hzero, ?_⟩⟩
  rw [String.ofList_toList]

theorem parse_bare_serial {host : String} (h : HostName host.toList) (port : UInt16)
    (d : Defaults) (hdevice : DeviceLike host.toList) :
    parse d s!"{host}:{port}" = .ok (.serial s!"{host}:{port}" d.baud d.flow) := by
  have hroute : Takes (host.toList ++ ':' :: decimal port.toNat)
      (.serial (host.toList ++ ':' :: decimal port.toNat)) :=
    .bareSerial (by rwa [deviceLike_append_colon h.ne_nil])
  have hmark : '?' ∉ host.toList ++ ':' :: decimal port.toNat := by
    simp [h.not_mem (c := '?') (by decide), not_mem_decimal]
  have hat : '@' ∉ host.toList ++ ':' :: decimal port.toNat := by
    simp [h.not_mem (c := '@') (by decide), not_mem_decimal]
  have hline := SerialLine.device (d := d) hmark (.path hat) (by simp)
  rw [parse_eq_ok_iff, trim_bare h, toList_bare, hroute.read_serial, ← toList_bare]
  rw [← toList_bare, String.ofList_toList] at hline
  exact serialLine_iff.1 hline

/-- **With the scheme and without it.**  A host and a port behind the scheme are always read as
such.  Without it they are, exactly if the host does not begin like the name of a device;
otherwise all of it is the path of one. -/
theorem bare_spelling_iff {host : String} (h : HostName host.toList) {port : UInt16}
    (hzero : port ≠ 0) (d : Defaults) :
    parse d s!"tcp://{host}:{port}" = .ok (.network host port) ∧
      (parse d s!"{host}:{port}" = .ok (.network host port) ↔ ¬ DeviceLike host.toList) ∧
      (DeviceLike host.toList →
        parse d s!"{host}:{port}" = .ok (.serial s!"{host}:{port}" d.baud d.flow)) := by
  refine ⟨(parse_text_iff d (.network host port)).2 ⟨?_, ?_, ?_, hzero⟩,
    ⟨fun hparse hdevice => ?_, parse_bare_network h hzero d⟩, parse_bare_serial h port d⟩
  · simpa using h.ne_nil
  · exact fun hc => h.not_mem (by decide) (List.mem_of_head? hc)
  · exact fun hc => h.not_mem (by decide) (List.mem_of_getLast? hc)
  · rw [parse_bare_serial h port d hdevice] at hparse
    cases hparse

/-- A host that only just does not begin like a device, and one that does. -/
theorem bare_spelling_comLan :
    HostName "com-1.lan".toList ∧ HostName "com1.lan".toList ∧
      parse {} "com-1.lan:65535" = .ok (.network "com-1.lan" 65535) ∧
      parse {} "tcp://com1.lan:65535" = .ok (.network "com1.lan" 65535) ∧
      parse {} "com1.lan:65535" = .ok (.serial "com1.lan:65535" 115200 .none) := by
  have hhyphen : HostName "com-1.lan".toList :=
    ⟨["com-1".toList, "lan".toList], by decide, by simp, by decide⟩
  have hdigit : HostName "com1.lan".toList :=
    ⟨["com1".toList, "lan".toList], by decide, by simp, by decide⟩
  have hdevice : DeviceLike "com1.lan".toList := deviceLike_iff.2 (by decide)
  have hnone : ¬ DeviceLike "com-1.lan".toList := fun h => by
    cases deviceLike_iff.1 h
  have hread := @bare_spelling_iff "com-1.lan" hhyphen 65535 (by decide) {}
  have htaken := @bare_spelling_iff "com1.lan" hdigit 65535 (by decide) {}
  exact ⟨hhyphen, hdigit, hread.2.1.2 hnone, htaken.1, htaken.2.2 hdevice⟩

/-- A host name can be taken for a device. -/
theorem not_bare_spelling_network :
    ¬ ∀ (host : String) (port : UInt16) (d : Defaults), HostName host.toList → port ≠ 0 →
      parse d s!"{host}:{port}" = parse d s!"tcp://{host}:{port}" ∧
        parse d s!"{host}:{port}" = .ok (.network host port) := by
  intro h
  have hhost : HostName "com1.lan".toList :=
    ⟨["com1".toList, "lan".toList], by decide, by simp, by decide⟩
  have hparse := (h "com1.lan" 6638 {} hhost (by decide)).2
  revert hparse
  decide

end DongleLink.Target
