import DongleLink.Target
import Mathlib.Data.List.Basic

/-!
# DongleLink.Proofs.TargetText

The text of a target, and what is read back from it.  Hosts and paths are any texts, with
colons, at signs, brackets, blanks and schemes in them, so each cut that reading makes is shown
to undo one step of writing: the port stands after the last colon, the baud rate after the last
at sign, the mode after the first question mark, and the scheme settles the kind of target.

Reading a text gives well-formed targets only (`wellFormed_of_parse`), and those are the targets
that their own text gives back (`parse_text_iff`), whatever is supplied for missing parts: the
text of a target leaves none out.
-/

namespace DongleLink

namespace Text

/-- A numeral is made of digits. -/
theorem not_mem_decimal {c : Char} (h : c.isDigit = false) (n : Nat) : c ∉ decimal n := by
  intro hc
  have hdigit := Nat.isDigit_of_mem_toDigits (b := 10) (by decide) (by decide) hc
  rw [hdigit] at h
  cases h

theorem isBlank_of_isAlphanum {c : Char} (h : c.isAlphanum = true) : isBlank c = false := by
  have hrange : (65 ≤ c.toNat ∧ c.toNat ≤ 90) ∨ (97 ≤ c.toNat ∧ c.toNat ≤ 122) ∨
      48 ≤ c.toNat ∧ c.toNat ≤ 57 := by
    obtain halpha | hdigit := Bool.or_eq_true_iff.1 h
    · obtain hupper | hlower := Bool.or_eq_true_iff.1 halpha
      · exact .inl (of_decide_eq_true hupper)
      · have hboth := Bool.and_eq_true_iff.1 hlower
        exact .inr (.inl ⟨of_decide_eq_true hboth.1, of_decide_eq_true hboth.2⟩)
    · have hboth := Bool.and_eq_true_iff.1 hdigit
      exact .inr (.inr ⟨of_decide_eq_true hboth.1, of_decide_eq_true hboth.2⟩)
  simp only [isBlank, Bool.or_eq_false_iff, Bool.and_eq_false_iff, decide_eq_false_iff_not,
    beq_eq_false_iff_ne]
  omega

/-- A text with a numeral at its end does not end in a blank. -/
theorem isBlank_getLast?_decimal {s : List Char} {n : Nat} {c : Char}
    (h : (s ++ decimal n).getLast? = some c) : isBlank c = false := by
  have hne : decimal n ≠ [] := Nat.toDigits_ne_nil
  rw [List.getLast?_append_of_ne_nil _ hne] at h
  have hc : c ∈ decimal n := List.mem_of_getLast? h
  have hdigit := Nat.isDigit_of_mem_toDigits (b := 10) (by decide) (by decide) hc
  exact isBlank_of_isAlphanum (by rw [Char.isAlphanum, hdigit, Bool.or_true])

end Text

namespace Target

open Text

/-! ## The characters of a text -/

theorem toList_text_network (host : String) (port : UInt16) :
    (network host port).text.toList =
      "tcp://".toList ++ (host.toList ++ ':' :: decimal port.toNat) := by
  change ("tcp://" ++ host ++ ":" ++ String.ofList (decimal port.toNat)).toList = _
  simp

theorem toList_text_serial (path : String) (baud : UInt32) (flow : FlowControl) :
    (serial path baud flow).text.toList =
      "serial://".toList ++ (path.toList ++ '@' :: decimal baud.toNat ++
        '?' :: ("flow=".toList ++ flow.name.toList)) := by
  change ("serial://" ++ path ++ "@" ++ String.ofList (decimal baud.toNat) ++ "?flow="
    ++ flow.name).toList = _
  simp

/-- A text begins with its scheme and ends in a digit or a letter: no blanks are around it. -/
theorem trim_text (t : Target) : trim t.text.toList = t.text.toList := by
  cases t with
  | network host port =>
      rw [toList_text_network]
      refine trim_eq_self (fun c hc => ?_) (fun c hc => ?_)
      · cases hc
        decide
      · rw [List.append_cons, ← List.append_assoc] at hc
        exact isBlank_getLast?_decimal hc
  | serial path baud flow =>
      rw [toList_text_serial]
      refine trim_eq_self (fun c hc => ?_) (fun c hc => ?_)
      · cases hc
        decide
      · have hne : flow.name.toList ≠ [] := by cases flow <;> decide
        rw [List.getLast?_append_of_ne_nil _ (by simp),
          List.getLast?_append_of_ne_nil _ (List.cons_ne_nil _ _), ← List.singleton_append,
          ← List.append_assoc, List.getLast?_append_of_ne_nil _ hne] at hc
        cases flow <;> cases hc <;> decide

/-! ## Network targets -/

/-- What is left of a host has no bracket at its ends. -/
theorem unbracketed_ends (host : List Char) :
    (Spelled.unbracketed host).head? ≠ some '[' ∧
      (Spelled.unbracketed host).getLast? ≠ some ']' := by
  constructor
  · intro hhead
    -- what the tail is cut off from begins with no bracket, and the cut keeps the beginning
    obtain ⟨tail, heq, -⟩ := dropTailWhile_append_tail (· == ']') (host.dropWhile (· == '['))
    have hfirst : (host.dropWhile (· == '[')).head? = some '[' := by
      rw [heq, List.head?_append, show dropTailWhile _ _ = Spelled.unbracketed host from rfl, hhead]
      rfl
    have hkept := List.head?_dropWhile_not (· == '[') host
    rw [hfirst] at hkept
    cases hkept
  · intro hlast
    have hkept := getLast?_dropTailWhile hlast
    cases hkept

/-- Only brackets are taken off a host. -/
theorem unbracketed_eq_self_iff (host : List Char) :
    Spelled.unbracketed host = host ↔ host.head? ≠ some '[' ∧ host.getLast? ≠ some ']' := by
  constructor
  · intro heq
    have hends := unbracketed_ends host
    rwa [heq] at hends
  · rintro ⟨hfirst, hlast⟩
    have hfront : host.dropWhile (· == '[') = host := by
      cases host with
      | nil => rfl
      | cons c rest =>
          have hc : (c == '[') = false := by simpa using hfirst
          rw [List.dropWhile_cons, hc]
          rfl
    rw [Spelled.unbracketed, hfront]
    refine dropTailWhile_eq_self fun c hc => ?_
    have hne : c ≠ ']' := by
      rintro rfl
      exact hlast hc
    simpa using hne

/-- A host and a numeral after a colon are read as such. -/
theorem readNetwork_append (host : List Char) (port : UInt16) :
    Spelled.readNetwork (host ++ ':' :: decimal port.toNat) =
      .ok (.network (Spelled.unbracketed host) (some port)) := by
  have hcut := splitLast_append host (not_mem_decimal (c := ':') (by decide) port.toNat)
  have hport : readUnsigned 65535 (decimal port.toNat) = some port.toNat :=
    readUnsigned_decimal (by have := port.toNat_lt; omega)
  simp [Spelled.readNetwork, hcut, hport]

/-- A host that is read has lost its brackets. -/
theorem readNetwork_eq_ok {s : List Char} {parts : Spelled}
    (h : Spelled.readNetwork s = .ok parts) :
    ∃ host port, parts = .network (Spelled.unbracketed host) port := by
  rw [Spelled.readNetwork] at h
  split at h
  · cases h
    exact ⟨s, none, rfl⟩
  next host port _ =>
  split at h
  · cases h
  · cases h
    exact ⟨host, _, rfl⟩

theorem fill_network_eq_ok_iff {d : Defaults} {host : List Char} {port : Option UInt16}
    {t : Target} :
    (Spelled.network host port).fill d = .ok t ↔
      ∃ n, (port <|> d.tcpPort) = some n ∧ host ≠ [] ∧ n ≠ 0 ∧
        t = .network (String.ofList host) n := by
  simp only [Spelled.fill]
  cases hport : (port <|> d.tcpPort) with
  | none => simp
  | some n =>
      by_cases hhost : host = []
      · simp [hhost]
      · by_cases hn : n = 0
        · simp [hhost, hn]
        · simp only [Option.some.injEq, hhost, hn, List.isEmpty_eq_false_iff.2 hhost, ne_eq,
            not_false_eq_true, true_and, exists_eq_left', if_false, Bool.false_eq_true,
            Except.ok.injEq]
          exact eq_comm

theorem wellFormed_network_iff (host : List Char) (port : UInt16) :
    (network (String.ofList host) port).WellFormed ↔
      host ≠ [] ∧ host.head? ≠ some '[' ∧ host.getLast? ≠ some ']' ∧ port ≠ 0 := by
  simp [WellFormed]

/-! ## Serial targets -/

/-- A device is a path, or begins with one; a baud rate that it names is not zero. -/
theorem readDevice_eq_ok {device path : List Char} {baud : Option UInt32}
    (h : Spelled.readDevice device = .ok (path, baud)) :
    (∀ c ∈ path, c ∈ device) ∧ baud ≠ some 0 := by
  rw [Spelled.readDevice] at h
  split at h
  · cases h
    exact ⟨fun c hc => hc, by simp⟩
  next before after hcut =>
  obtain ⟨rfl, -⟩ := splitLast_eq_some_iff.1 hcut
  split at h
  · cases h
  · cases h
  next n hzero hread =>
  cases h
  refine ⟨fun c hc => by simp [hc], fun hbaud => ?_⟩
  have hle : n ≤ 4294967295 := by
    rw [readUnsigned] at hread
    split at hread
    next hfits =>
      cases hread
      simp only [Bool.and_eq_true, decide_eq_true_eq] at hfits
      exact hfits.2
    next => cases hread
  have hnat : (UInt32.ofNat n).toNat = n :=
    UInt32.toNat_ofNat_of_lt' (Nat.lt_succ_of_le hle)
  rw [Option.some.inj hbaud] at hnat
  exact hzero hnat.symm

/-- The path of a serial target has no question mark, because it ends before the first one. -/
theorem readSerial_eq_ok {s : List Char} {parts : Spelled} (h : Spelled.readSerial s = .ok parts) :
    ∃ path baud flow, parts = .serial path baud flow ∧ path ≠ [] ∧ '?' ∉ path ∧ baud ≠ some 0 := by
  rw [Spelled.readSerial] at h
  split at h
  next device options heq =>
  have hmark : '?' ∉ device := by
    split at heq
    next hnone =>
      cases heq
      exact splitFirst_eq_none_iff.1 hnone
    next hsome =>
      cases heq
      exact (splitFirst_eq_some_iff.1 hsome).2
  split at h
  · cases h
  · cases h
  next path baud hpath hread =>
  obtain ⟨hmem, hbaud⟩ := readDevice_eq_ok hread
  split at h
  · cases h
  next flow _ =>
    cases h
    exact ⟨path, baud, flow, rfl, hpath, fun hc => hmark (hmem '?' hc), hbaud⟩

/-- A path and a numeral after an at sign are read as such, unless it is zero. -/
theorem readDevice_append (path : List Char) (baud : UInt32) :
    Spelled.readDevice (path ++ '@' :: decimal baud.toNat) =
      if baud = 0 then .error (.badBaud ['0']) else .ok (path, some baud) := by
  have hcut := splitLast_append path (not_mem_decimal (c := '@') (by decide) baud.toNat)
  have hread : readUnsigned 4294967295 (decimal baud.toNat) = some baud.toNat :=
    readUnsigned_decimal (Nat.le_of_lt_succ baud.toNat_lt)
  rw [Spelled.readDevice, hcut]
  by_cases hzero : baud = 0
  · subst hzero
    rfl
  · have hpos : baud.toNat ≠ 0 := fun h => hzero (UInt32.toNat_inj.1 h)
    simp only [hread, if_neg hzero, UInt32.ofNat_toNat]

/-- A path without a question mark, a baud rate after an at sign and a mode after a question
mark are read as such, unless the path is empty or the rate is zero. -/
theorem readSerial_append {path : List Char} (hmark : '?' ∉ path) (baud : UInt32)
    (flow : FlowControl) :
    Spelled.readSerial (path ++ '@' :: decimal baud.toNat ++
        '?' :: ("flow=".toList ++ flow.name.toList)) =
      if baud = 0 then .error (.badBaud ['0'])
      else if path = [] then .error .missingPath
      else .ok (.serial path (some baud) (some flow)) := by
  have hdevice : '?' ∉ path ++ '@' :: decimal baud.toNat := by
    simp [hmark, not_mem_decimal]
  have hcut : splitFirst '?' (path ++ '@' :: decimal baud.toNat ++
      '?' :: ("flow=".toList ++ flow.name.toList)) =
      some (path ++ '@' :: decimal baud.toNat, "flow=".toList ++ flow.name.toList) :=
    splitFirst_eq_some_iff.2 ⟨rfl, hdevice⟩
  have hoptions : Spelled.readOptions none
      (Spelled.optionsOf ("flow=".toList ++ flow.name.toList)) = .ok (some flow) := by
    cases flow <;> decide
  rw [Spelled.readSerial, hcut]
  simp only [readDevice_append, hoptions]
  by_cases hzero : baud = 0
  · simp [hzero]
  · cases path with
    | nil => simp [hzero]
    | cons c rest => simp [hzero]

/-! ## Texts and targets -/

theorem spelled_text_network (host : String) (port : UInt16) :
    Spelled.read (network host port).text.toList =
      .ok (.network (Spelled.unbracketed host.toList) (some port)) := by
  have hne : (network host port).text.toList.isEmpty = false := by
    rw [toList_text_network]
    rfl
  have hroute : Route.of (network host port).text.toList =
      .network (host.toList ++ ':' :: decimal port.toNat) := by
    rw [toList_text_network, Route.of, after?_eq_some_iff.2 rfl]
  rw [Spelled.read, hne, hroute]
  exact readNetwork_append host.toList port

theorem spelled_text_serial (path : String) (baud : UInt32) (flow : FlowControl) :
    Spelled.read (serial path baud flow).text.toList =
      Spelled.readSerial (path.toList ++ '@' :: decimal baud.toNat ++
        '?' :: ("flow=".toList ++ flow.name.toList)) := by
  have hne : (serial path baud flow).text.toList.isEmpty = false := by
    rw [toList_text_serial]
    rfl
  have hroute : Route.of (serial path baud flow).text.toList =
      .serial (path.toList ++ '@' :: decimal baud.toNat ++
        '?' :: ("flow=".toList ++ flow.name.toList)) := by
    rw [toList_text_serial, Route.of, after?_eq_some_iff.2 rfl]
    rfl
  rw [Spelled.read, hne, hroute]
  rfl

theorem parse_eq_ok_iff {d : Defaults} {input : String} {t : Target} :
    parse d input = .ok t ↔
      ∃ parts, Spelled.read (trim input.toList) = .ok parts ∧ parts.fill d = .ok t := by
  simp only [parse, read]
  cases hparts : Spelled.read (trim input.toList) with
  | error e => simp
  | ok parts => cases hfill : parts.fill d <;> simp [hfill]

/-- **What is read is well formed**, unless a missing baud rate is supplied as zero. -/
theorem wellFormed_of_parse {d : Defaults} (hbaud : d.baud ≠ 0) {input : String} {t : Target}
    (h : parse d input = .ok t) : t.WellFormed := by
  obtain ⟨parts, hread, hfill⟩ := parse_eq_ok_iff.1 h
  rw [Spelled.read] at hread
  split at hread
  · cases hread
  split at hread
  next rest =>
    obtain ⟨host, port, rfl⟩ := readNetwork_eq_ok hread
    obtain ⟨n, -, hhost, hn, rfl⟩ := fill_network_eq_ok_iff.1 hfill
    obtain ⟨hfirst, hlast⟩ := unbracketed_ends host
    exact (wellFormed_network_iff _ n).2 ⟨hhost, hfirst, hlast, hn⟩
  next rest =>
    obtain ⟨path, baud, flow, rfl, hpath, hmark, hzero⟩ := readSerial_eq_ok hread
    cases hfill
    refine ⟨by simpa using hpath, by simpa using hmark, ?_⟩
    cases baud with
    | none => exact hbaud
    | some n => exact fun hn => hzero (congrArg some hn)

/-- **A target is what its text gives back** exactly if it is well formed. -/
theorem parse_text_iff (d : Defaults) (t : Target) : parse d t.text = .ok t ↔ t.WellFormed := by
  rw [parse_eq_ok_iff, trim_text]
  cases t with
  | network host port =>
      rw [spelled_text_network]
      constructor
      · rintro ⟨parts, hparts, hfill⟩
        cases hparts
        obtain ⟨n, hn, hne, hzero, htarget⟩ := fill_network_eq_ok_iff.1 hfill
        cases hn
        obtain ⟨hhost, -⟩ := network.inj htarget
        obtain ⟨hfirst, hlast⟩ := unbracketed_ends host.toList
        rw [hhost]
        exact (wellFormed_network_iff _ port).2 ⟨hne, hfirst, hlast, hzero⟩
      · rintro ⟨hne, hfirst, hlast, hzero⟩
        have hself := (unbracketed_eq_self_iff host.toList).2 ⟨hfirst, hlast⟩
        rw [hself]
        refine ⟨_, rfl, fill_network_eq_ok_iff.2 ⟨port, rfl, by simpa using hne, hzero, ?_⟩⟩
        rw [String.ofList_toList]
  | serial path baud flow =>
      rw [spelled_text_serial]
      constructor
      · rintro ⟨parts, hread, hfill⟩
        obtain ⟨path', baud', flow', rfl, hpath, hmark, -⟩ := readSerial_eq_ok hread
        cases hfill
        rw [String.toList_ofList, readSerial_append hmark] at hread
        split at hread
        · cases hread
        next hbaud => exact ⟨by simpa using hpath, by simpa using hmark, hbaud⟩
      · rintro ⟨hpath, hmark, hbaud⟩
        have hne : path.toList ≠ [] := by simpa using hpath
        rw [readSerial_append hmark, if_neg hbaud, if_neg hne]
        exact ⟨_, rfl, by simp [Spelled.fill]⟩

/-- **Reading undoes writing.**  A target is read back from its own text, whatever is supplied
for missing parts, exactly if it is well formed; and reading any text gives well-formed targets
only, so that what was read once survives being written and read again. -/
theorem text_round_trip :
    (∀ (t : Target) (d : Defaults), parse d t.text = .ok t ↔ t.WellFormed) ∧
      ∀ (input : String) (d : Defaults) (t : Target), d.baud ≠ 0 → parse d input = .ok t →
        t.WellFormed ∧ ∀ e : Defaults, parse e t.text = .ok t := by
  refine ⟨fun t d => parse_text_iff d t, fun input d t hbaud hparse => ?_⟩
  have hwell := wellFormed_of_parse hbaud hparse
  exact ⟨hwell, fun e => (parse_text_iff e t).2 hwell⟩

/-- A path that holds an at sign, colons and another scheme, with its baud rate supplied. -/
theorem text_round_trip_nested_scheme :
    let d : Defaults := { baud := 9600, flow := .hardware }
    let t : Target := serial "tcp://[a]:1@b" 9600 .software
    d.baud ≠ 0 ∧ parse d " serial://tcp://[a]:1@b@9600?&flow=XonXoff\n" = .ok t ∧
      t.WellFormed ∧ ∀ e : Defaults, parse e t.text = .ok t := by
  intro d t
  have hparse : parse d " serial://tcp://[a]:1@b@9600?&flow=XonXoff\n" = .ok t := by decide
  exact ⟨by decide, hparse, text_round_trip.2 _ d t (by decide) hparse⟩

end Target

end DongleLink
