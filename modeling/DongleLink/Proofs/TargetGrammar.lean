import DongleLink.Proofs.TargetText
import Mathlib.Data.List.Forall2
import Mathlib.Data.List.TakeWhile

/-!
# DongleLink.Proofs.TargetGrammar

Which texts name a target, and which target each of them names.  `Names` is the grammar: it
says how a text is put together from a scheme, a host and a numeral, or a path, a numeral and
options, without a word on how to find the places where to cut.  Reading accepts exactly what
the grammar derives (`parse_eq_ok_iff_names`).  There is one equivalence for each part of the
grammar; that the parts are found again is due to what each of them must not contain, which is
why the last colon, the last at sign and the first question mark are the places to cut.

Brackets around a host are taken off after the cut at the last colon.  A host with colons in it
is therefore read as it should be as long as a port follows, and refused if the port is left out
(`parse_bracketed`).
-/

namespace DongleLink

namespace Text

/-! ## Texts with something around them -/

/-- What is left of `s` without all characters of one kind before it and all of another kind
behind it. -/
structure Stripped (first last : Char → Bool) (s t : List Char) : Prop where
  exists_eq : ∃ front back, s = front ++ t ++ back ∧ (∀ c ∈ front, first c = true) ∧
    ∀ c ∈ back, last c = true
  first_head : ∀ c, t.head? = some c → first c = false
  last_getLast : ∀ c, t.getLast? = some c → last c = false

/-- Only blanks are around the text. -/
def Trimmed : List Char → List Char → Prop := Stripped isBlank isBlank

/-- A tail that is dropped does not matter. -/
theorem dropTailWhile_append {p : Char → Bool} {tail : List Char} (h : ∀ c ∈ tail, p c = true)
    (s : List Char) : dropTailWhile p (s ++ tail) = dropTailWhile p s := by
  induction s with
  | nil => exact dropTailWhile_eq_nil_iff.2 h
  | cons c s ih => simp only [List.cons_append, dropTailWhile, ih]

theorem stripped_iff {first last : Char → Bool} {s t : List Char} :
    Stripped first last s t ↔ dropTailWhile last (s.dropWhile first) = t := by
  constructor
  · rintro ⟨⟨front, back, rfl, hfront, hback⟩, hhead, hlast⟩
    rw [List.append_assoc, List.dropWhile_append_of_pos hfront]
    cases t with
    | nil =>
        -- whatever is left of the back is dropped from its other end
        refine dropTailWhile_eq_nil_iff.2 fun c hc => hback c ?_
        exact (List.dropWhile_sublist first).subset hc
    | cons c t =>
        have hc : first c = false := hhead c rfl
        rw [List.cons_append, List.dropWhile_cons_of_neg (by simp [hc]), ← List.cons_append,
          dropTailWhile_append hback, dropTailWhile_eq_self hlast]
  · rintro rfl
    obtain ⟨back, hback, hall⟩ := dropTailWhile_append_tail last (s.dropWhile first)
    refine ⟨⟨s.takeWhile first, back, ?_, fun c hc => List.mem_takeWhile_imp hc, hall⟩,
      fun c hc => ?_, fun c => getLast?_dropTailWhile⟩
    · rw [List.append_assoc, ← hback, List.takeWhile_append_dropWhile]
    · have hfirst : (s.dropWhile first).head? = some c := by
        rw [hback, List.head?_append, hc]
        rfl
      have hkept := List.head?_dropWhile_not first s
      rw [hfirst] at hkept
      simpa using hkept

theorem trimmed_iff {s t : List Char} : Trimmed s t ↔ trim s = t := stripped_iff

/-! ## Letters, numerals and pieces -/

/-- Two letters become this capital: itself and its small letter. -/
theorem toUpper_eq_iff {c upper lower : Char} (hrange : 'a'.val ≤ lower.val ∧ lower.val ≤ 'z'.val)
    (hlower : lower.toUpper = upper) (hupper : upper.toUpper = upper) :
    c.toUpper = upper ↔ c = upper ∨ c = lower := by
  constructor
  · intro h
    by_cases hc : 'a'.val ≤ c.val ∧ c.val ≤ 'z'.val
    · right
      rw [← hlower] at h
      unfold Char.toUpper at h
      rw [dif_pos hc, dif_pos hrange] at h
      exact Char.ext ((UInt32.add_left_inj _).1 (congrArg Char.val h))
    · left
      unfold Char.toUpper at h
      rwa [dif_neg hc] at h
  · rintro (rfl | rfl)
    · exact hupper
    · exact hlower

/-- Two letters become this small letter: its capital and itself. -/
theorem toLower_eq_iff {c upper lower : Char} (hrange : 'A'.val ≤ upper.val ∧ upper.val ≤ 'Z'.val)
    (hupper : upper.toLower = lower) (hlower : lower.toLower = lower) :
    c.toLower = lower ↔ c = lower ∨ c = upper := by
  constructor
  · intro h
    by_cases hc : 'A'.val ≤ c.val ∧ c.val ≤ 'Z'.val
    · right
      rw [← hupper] at h
      unfold Char.toLower at h
      rw [dif_pos hc, dif_pos hrange] at h
      exact Char.ext ((UInt32.add_left_inj _).1 (congrArg Char.val h))
    · left
      unfold Char.toLower at h
      rwa [dif_neg hc] at h
  · rintro (rfl | rfl)
    · exact hlower
    · exact hupper

/-- The small letters, each with its capital. -/
def alphabet : List (Char × Char) :=
  "abcdefghijklmnopqrstuvwxyz".toList.zip "ABCDEFGHIJKLMNOPQRSTUVWXYZ".toList

/-- A word in small letters is written with these letters, each of them small or a capital. -/
def InAnyCase (letters word : List Char) : Prop :=
  List.Forall₂ (fun c small => c = small ∨ alphabet.lookup small = some c) letters word

theorem toLower_eq_iff_alphabet {small upper : Char} (h : alphabet.lookup small = some upper)
    (c : Char) : c.toLower = small ↔ c = small ∨ alphabet.lookup small = some c := by
  obtain ⟨before, after, heq, -⟩ := List.lookup_eq_some_iff.1 h
  have hmem : (small, upper) ∈ alphabet := by simp [heq]
  have hpairs : ∀ pair ∈ alphabet, ('A'.val ≤ pair.2.val ∧ pair.2.val ≤ 'Z'.val) ∧
      pair.2.toLower = pair.1 ∧ pair.1.toLower = pair.1 := by decide
  obtain ⟨hrange, hupper, hlower⟩ := hpairs _ hmem
  rw [toLower_eq_iff hrange hupper hlower, h, Option.some.injEq, eq_comm (a := upper)]

/-- **A text has a word for its small letters** exactly if it is that word in any case. -/
theorem inAnyCase_iff {letters word : List Char}
    (hword : ∀ small ∈ word, (alphabet.lookup small).isSome = true) :
    InAnyCase letters word ↔ letters.map Char.toLower = word := by
  induction word generalizing letters with
  | nil => simp [InAnyCase]
  | cons small word ih =>
      rw [List.forall_mem_cons] at hword
      obtain ⟨upper, hupper⟩ := Option.isSome_iff_exists.1 hword.1
      have hrest : ∀ letters, InAnyCase letters word ↔ letters.map Char.toLower = word :=
        fun _ => ih hword.2
      simp only [InAnyCase] at hrest ⊢
      cases letters with
      | nil => simp
      | cons c letters =>
          rw [List.forall₂_cons, hrest, List.map_cons, List.cons.injEq,
            toLower_eq_iff_alphabet hupper]

/-- An optional plus sign and one or more digits, of this value. -/
def Numeral (s : List Char) (n : Nat) : Prop :=
  ∃ digits, (s = digits ∨ s = '+' :: digits) ∧ digits ≠ [] ∧ (∀ c ∈ digits, c.isDigit = true) ∧
    Nat.ofDigitChars 10 digits 0 = n

theorem readUnsigned_iff {limit n : Nat} {s : List Char} :
    readUnsigned limit s = some n ↔ Numeral s n ∧ n ≤ limit := by
  rw [readUnsigned_eq_some_iff, Numeral]
  constructor
  · rintro ⟨digits, hs, hnumeral, hvalue, hle⟩
    rw [isNumeral, Bool.and_eq_true, Bool.not_eq_true', List.isEmpty_eq_false_iff,
      List.all_eq_true] at hnumeral
    exact ⟨⟨digits, hs, hnumeral.1, hnumeral.2, hvalue⟩, hle⟩
  · rintro ⟨⟨digits, hs, hne, hall, hvalue⟩, hle⟩
    refine ⟨digits, hs, ?_, hvalue, hle⟩
    rw [isNumeral, Bool.and_eq_true, Bool.not_eq_true', List.isEmpty_eq_false_iff,
      List.all_eq_true]
    exact ⟨hne, hall⟩

/-- Digits and a plus sign are all that there is in a numeral. -/
theorem Numeral.not_mem {s : List Char} {n : Nat} (h : Numeral s n) {c : Char}
    (hdigit : c.isDigit = false) (hplus : c ≠ '+') : c ∉ s := by
  obtain ⟨digits, hs, -, hall, -⟩ := h
  have hdigits : c ∉ digits := fun hc => by simp [hall c hc] at hdigit
  obtain rfl | rfl := hs
  · exact hdigits
  · simp [hplus, hdigits]

end Text

namespace Target

open Text

/-! ## The grammar -/

/- The grammar has no order of cuts: it says of what pieces a text is put together, and which
characters a piece does not have.  That makes the pieces unique where the parser looks for the
first or the last separator. -/

/-- A slash, or `COM` in any case and a digit, at the beginning. -/
inductive DeviceLike : List Char → Prop where
  | slash (rest : List Char) : DeviceLike ('/' :: rest)
  | com {c o m digit : Char} (rest : List Char) (hc : c = 'C' ∨ c = 'c') (ho : o = 'O' ∨ o = 'o')
      (hm : m = 'M' ∨ m = 'm') (hdigit : digit.isDigit = true) :
      DeviceLike (c :: o :: m :: digit :: rest)

/-- A host in any brackets, alone or with a port behind a colon. -/
inductive HostAndPort (d : Defaults) : List Char → Target → Prop where
  | host {s host : List Char} {port : UInt16} (hcolon : ':' ∉ s) (hport : d.tcpPort = some port)
      (hzero : port ≠ 0) (hhost : Stripped (· == '[') (· == ']') s host) (hne : host ≠ []) :
      HostAndPort d s (.network (String.ofList host) port)
  | hostPort {s host numeral : List Char} {port : UInt16} (hcolon : ':' ∉ numeral)
      (hport : Numeral numeral port.toNat) (hzero : port ≠ 0)
      (hhost : Stripped (· == '[') (· == ']') s host) (hne : host ≠ []) :
      HostAndPort d (s ++ ':' :: numeral) (.network (String.ofList host) port)

/-- A path, alone or with a baud rate behind an at sign. -/
inductive PathAndBaud (d : Defaults) : List Char → List Char → UInt32 → Prop where
  | path {path : List Char} (hat : '@' ∉ path) : PathAndBaud d path path d.baud
  | pathBaud {path numeral : List Char} {baud : UInt32} (hat : '@' ∉ numeral)
      (hbaud : Numeral numeral baud.toNat) (hzero : baud ≠ 0) :
      PathAndBaud d (path ++ '@' :: numeral) path baud

/-- The words for a mode. -/
def words : FlowControl → List String
  | .none => ["none", "off"]
  | .software => ["software", "xonxoff"]
  | .hardware => ["hardware", "rtscts"]

/-- `flow=` and a word for the mode, in any case. -/
def SetsFlow (option : List Char) (flow : FlowControl) : Prop :=
  ∃ letters, option = "flow=".toList ++ letters ∧
    ∃ word ∈ words flow, InAnyCase letters word.toList

/-- The pieces between ampersands that are not empty set these modes. -/
def Options (query : List Char) (flows : List FlowControl) : Prop :=
  List.Forall₂ SetsFlow ((query.splitOn '&').filter (!·.isEmpty)) flows

/-- A path with or without a baud rate, alone or with options behind a question mark, of which
the last one counts. -/
inductive SerialLine (d : Defaults) : List Char → Target → Prop where
  | device {s path : List Char} {baud : UInt32} (hmark : '?' ∉ s) (hs : PathAndBaud d s path baud)
      (hne : path ≠ []) : SerialLine d s (.serial (String.ofList path) baud d.flow)
  | options {s path query : List Char} {baud : UInt32} {flows : List FlowControl} (hmark : '?' ∉ s)
      (hs : PathAndBaud d s path baud) (hne : path ≠ []) (hflows : Options query flows) :
      SerialLine d (s ++ '?' :: query)
        (.serial (String.ofList path) baud (flows.getLast?.getD d.flow))

/-- The text names the target, where the defaults supply what it leaves out. -/
inductive Names (d : Defaults) : List Char → Target → Prop where
  | tcp {s : List Char} {t : Target} (hs : HostAndPort d s t) : Names d ("tcp://".toList ++ s) t
  | bareNetwork {s : List Char} {t : Target} (htcp : ¬ "tcp://".toList <+: s)
      (hserial : ¬ "serial://".toList <+: s) (hdevice : ¬ DeviceLike s) (hs : HostAndPort d s t) :
      Names d s t
  | serial {s : List Char} {t : Target} (hs : SerialLine d s t) :
      Names d ("serial://".toList ++ s) t
  | bareSerial {s : List Char} {t : Target} (hdevice : DeviceLike s) (hs : SerialLine d s t) :
      Names d s t

/-! ## Network targets -/

theorem stripped_brackets_iff {s host : List Char} :
    Stripped (· == '[') (· == ']') s host ↔ Spelled.unbracketed s = host := stripped_iff

/-- **A host and a port are read as the grammar has them.** -/
theorem hostAndPort_iff {d : Defaults} {s : List Char} {t : Target} :
    HostAndPort d s t ↔ ∃ parts, Spelled.readNetwork s = .ok parts ∧ parts.fill d = .ok t := by
  constructor
  · intro h
    cases h with
    | @host _ host port hcolon hport hzero hhost hne =>
        obtain rfl := stripped_brackets_iff.1 hhost
        refine ⟨.network (Spelled.unbracketed s) none, ?_,
          fill_network_eq_ok_iff.2 ⟨port, hport, hne, hzero, rfl⟩⟩
        rw [Spelled.readNetwork, splitLast_eq_none_iff.2 hcolon]
    | @hostPort s host numeral port hcolon hport hzero hhost hne =>
        obtain rfl := stripped_brackets_iff.1 hhost
        have hread : readUnsigned 65535 numeral = some port.toNat :=
          readUnsigned_iff.2 ⟨hport, Nat.le_of_lt_succ port.toNat_lt⟩
        refine ⟨.network (Spelled.unbracketed s) (some port), ?_,
          fill_network_eq_ok_iff.2 ⟨port, rfl, hne, hzero, rfl⟩⟩
        simp only [Spelled.readNetwork, splitLast_append s hcolon, hread, UInt16.ofNat_toNat]
  · rintro ⟨parts, hread, hfill⟩
    rw [Spelled.readNetwork] at hread
    split at hread
    next hcut =>
      cases hread
      obtain ⟨port, hport, hne, hzero, rfl⟩ := fill_network_eq_ok_iff.1 hfill
      exact .host (splitLast_eq_none_iff.1 hcut) hport hzero (stripped_brackets_iff.2 rfl) hne
    next host numeral hcut =>
      obtain ⟨rfl, hcolon⟩ := splitLast_eq_some_iff.1 hcut
      split at hread
      · cases hread
      next n hn =>
        cases hread
        obtain ⟨hnumeral, hle⟩ := readUnsigned_iff.1 hn
        obtain ⟨port, hport, hne, hzero, rfl⟩ := fill_network_eq_ok_iff.1 hfill
        cases hport
        have hnat : (UInt16.ofNat n).toNat = n := UInt16.toNat_ofNat_of_lt' (Nat.lt_succ_of_le hle)
        exact .hostPort hcolon (hnat.symm ▸ hnumeral) hzero (stripped_brackets_iff.2 rfl) hne

/-! ## Serial targets -/

/-- A device is read as the grammar has it, once a missing baud rate is supplied. -/
theorem pathAndBaud_iff {d : Defaults} {s path : List Char} {baud : UInt32} :
    PathAndBaud d s path baud ↔
      ∃ named, Spelled.readDevice s = .ok (path, named) ∧ named.getD d.baud = baud := by
  constructor
  · intro h
    cases h with
    | path hat =>
        refine ⟨none, ?_, rfl⟩
        rw [Spelled.readDevice, splitLast_eq_none_iff.2 hat]
    | @pathBaud _ numeral _ hat hbaud hzero =>
        have hread : readUnsigned 4294967295 numeral = some baud.toNat :=
          readUnsigned_iff.2 ⟨hbaud, Nat.le_of_lt_succ baud.toNat_lt⟩
        have hpos : baud.toNat ≠ 0 := fun h => hzero (UInt32.toNat_inj.1 h)
        refine ⟨some baud, ?_, rfl⟩
        simp only [Spelled.readDevice, splitLast_append path hat, hread, UInt32.ofNat_toNat]
  · rintro ⟨named, hread, rfl⟩
    rw [Spelled.readDevice] at hread
    split at hread
    next hcut =>
      cases hread
      exact .path (splitLast_eq_none_iff.1 hcut)
    next before numeral hcut =>
      obtain ⟨rfl, hat⟩ := splitLast_eq_some_iff.1 hcut
      split at hread
      · cases hread
      · cases hread
      next n hzero hn =>
        cases hread
        obtain ⟨hnumeral, hle⟩ := readUnsigned_iff.1 hn
        have hnat : (UInt32.ofNat n).toNat = n := UInt32.toNat_ofNat_of_lt' (Nat.lt_succ_of_le hle)
        refine .pathBaud hat (hnat.symm ▸ hnumeral) fun h => ?_
        change UInt32.ofNat n = 0 at h
        rw [h] at hnat
        exact hzero hnat.symm

/-- The words for a mode are those that reading looks up. -/
theorem mem_words_iff {word : String} {flow : FlowControl} :
    word ∈ words flow ↔ FlowControl.spellings.lookup word = some flow := by
  constructor
  · intro h
    cases flow with
    | none | software | hardware =>
        simp only [words, List.mem_cons, List.not_mem_nil, or_false] at h
        obtain rfl | rfl := h <;> rfl
  · intro h
    obtain ⟨before, after, heq, -⟩ := List.lookup_eq_some_iff.1 h
    have hmem : (word, flow) ∈ FlowControl.spellings := by simp [heq]
    cases flow <;> simpa [FlowControl.spellings, words] using hmem

/-- They are made of small letters. -/
theorem isSome_lookup_of_mem_words {word : String} {flow : FlowControl} (h : word ∈ words flow) :
    ∀ small ∈ word.toList, (alphabet.lookup small).isSome = true := by
  have hall : (words flow).all (fun word =>
      word.toList.all fun small => (alphabet.lookup small).isSome) = true := by
    cases flow <;> decide
  exact List.all_eq_true.1 (List.all_eq_true.1 hall word h)

theorem ofText?_eq_some_iff {letters : List Char} {flow : FlowControl} :
    FlowControl.ofText? (String.ofList letters) = some flow ↔
      ∃ word ∈ words flow, InAnyCase letters word.toList := by
  have hlowered : lowered (String.ofList letters) = String.ofList (letters.map Char.toLower) := by
    rw [lowered, String.toList_ofList]
  rw [FlowControl.ofText?, ← mem_words_iff, hlowered]
  constructor
  · intro h
    refine ⟨_, h, (inAnyCase_iff (isSome_lookup_of_mem_words h)).2 ?_⟩
    rw [String.toList_ofList]
  · rintro ⟨word, hword, hcase⟩
    rwa [(inAnyCase_iff (isSome_lookup_of_mem_words hword)).1 hcase, String.ofList_toList]

theorem readOption_eq_ok_iff {s : List Char} {flow : FlowControl} :
    Spelled.readOption s = .ok flow ↔ SetsFlow s flow := by
  rw [Spelled.readOption]
  constructor
  · intro h
    split at h
    next value hcut =>
      obtain ⟨rfl, -⟩ := splitFirst_eq_some_iff.1 hcut
      split at h
      next mode hmode =>
        cases h
        exact ⟨value, by simp, ofText?_eq_some_iff.1 hmode⟩
      next => cases h
    next => cases h
  · rintro ⟨letters, rfl, hword⟩
    have hcut : splitFirst '=' ("flow=".toList ++ letters) = some (['f', 'l', 'o', 'w'], letters) :=
      splitFirst_eq_some_iff.2 ⟨by simp, by decide⟩
    rw [hcut]
    simp only [ofText?_eq_some_iff.2 hword]

/-- Options are read one after the other, and the last one counts. -/
theorem readOptions_eq_ok_iff {pieces : List (List Char)} {first mode : Option FlowControl} :
    Spelled.readOptions first pieces = .ok mode ↔
      ∃ flows, List.Forall₂ SetsFlow pieces flows ∧ flows.getLast?.or first = mode := by
  induction pieces generalizing first with
  | nil => simp [Spelled.readOptions]
  | cons piece pieces ih =>
      have hlast : ∀ (flow : FlowControl) flows,
          (flow :: flows).getLast?.or first = flows.getLast?.or (some flow) := by
        intro flow flows
        cases flows <;> simp [List.getLast?_cons]
      simp only [List.forall₂_cons_left_iff]
      rw [Spelled.readOptions]
      cases hread : Spelled.readOption piece with
      | error e =>
          have hnone : ∀ flow, ¬ SetsFlow piece flow := fun flow hflow => by
            rw [readOption_eq_ok_iff.2 hflow] at hread
            cases hread
          simp [hnone]
      | ok flow =>
          have hflow : ∀ other, SetsFlow piece other ↔ other = flow := fun other => by
            rw [← readOption_eq_ok_iff, hread, Except.ok.injEq, eq_comm]
          simp [hflow, ih, hlast]

/-- The query is cut into the pieces that the grammar has. -/
theorem readOptions_optionsOf_iff {query : List Char} {mode : Option FlowControl} :
    Spelled.readOptions none (Spelled.optionsOf query) = .ok mode ↔
      ∃ flows, Options query flows ∧ flows.getLast? = mode := by
  simp only [readOptions_eq_ok_iff, Spelled.optionsOf, segments_eq_splitOn, Options, Option.or_none]

/-- What is read of a device and of options, however the two were told apart. -/
theorem readSerial_eq_ok_iff {s device : List Char} {options : List (List Char)} {parts : Spelled}
    (hcut : splitFirst '?' s = none ∧ device = s ∧ options = [] ∨
      ∃ query, splitFirst '?' s = some (device, query) ∧ options = Spelled.optionsOf query) :
    Spelled.readSerial s = .ok parts ↔
      ∃ path baud flow, Spelled.readDevice device = .ok (path, baud) ∧ path ≠ [] ∧
        Spelled.readOptions none options = .ok flow ∧ parts = .serial path baud flow := by
  obtain ⟨hcut, rfl, rfl⟩ | ⟨query, hcut, rfl⟩ := hcut
  all_goals
    rw [Spelled.readSerial, hcut]
    dsimp only
    generalize Spelled.readDevice device = read, Spelled.readOptions none _ = modes
    cases read with
    | error e => simp
    | ok read =>
        obtain ⟨path, baud⟩ := read
        cases path with
        | nil => simp
        | cons c path => cases modes <;> simp [eq_comm]

/-- **A device and options are read as the grammar has them.** -/
theorem serialLine_iff {d : Defaults} {s : List Char} {t : Target} :
    SerialLine d s t ↔ ∃ parts, Spelled.readSerial s = .ok parts ∧ parts.fill d = .ok t := by
  constructor
  · intro h
    cases h with
    | @device _ path baud hmark hs hne =>
        obtain ⟨named, hread, rfl⟩ := pathAndBaud_iff.1 hs
        refine ⟨.serial path named none, ?_, rfl⟩
        rw [readSerial_eq_ok_iff (.inl ⟨splitFirst_eq_none_iff.2 hmark, rfl, rfl⟩)]
        exact ⟨path, named, none, hread, hne, rfl, rfl⟩
    | @options s path query baud flows hmark hs hne hflows =>
        obtain ⟨named, hread, rfl⟩ := pathAndBaud_iff.1 hs
        refine ⟨.serial path named flows.getLast?, ?_, rfl⟩
        rw [readSerial_eq_ok_iff (.inr ⟨query, splitFirst_eq_some_iff.2 ⟨rfl, hmark⟩, rfl⟩)]
        exact ⟨path, named, flows.getLast?, hread, hne,
          readOptions_optionsOf_iff.2 ⟨flows, hflows, rfl⟩, rfl⟩
  · rintro ⟨parts, hread, hfill⟩
    cases hcut : splitFirst '?' s with
    | none =>
        rw [readSerial_eq_ok_iff (.inl ⟨hcut, rfl, rfl⟩)] at hread
        obtain ⟨path, named, flow, hdevice, hne, hoptions, rfl⟩ := hread
        cases hoptions
        cases hfill
        exact .device (splitFirst_eq_none_iff.1 hcut) (pathAndBaud_iff.2 ⟨named, hdevice, rfl⟩) hne
    | some cut =>
        rw [readSerial_eq_ok_iff (.inr ⟨cut.2, hcut, rfl⟩)] at hread
        obtain ⟨path, named, flow, hdevice, hne, hoptions, rfl⟩ := hread
        obtain ⟨flows, hflows, rfl⟩ := readOptions_optionsOf_iff.1 hoptions
        obtain ⟨rfl, hmark⟩ := splitFirst_eq_some_iff.1 hcut
        cases hfill
        exact .options hmark (pathAndBaud_iff.2 ⟨named, hdevice, rfl⟩) hne hflows

/-! ## Routes -/

theorem deviceLike_iff {s : List Char} : DeviceLike s ↔ looksLikeDevice s = true := by
  have hupper : ∀ c : Char, (c.toUpper = 'C' ↔ c = 'C' ∨ c = 'c') ∧
      (c.toUpper = 'O' ↔ c = 'O' ∨ c = 'o') ∧ (c.toUpper = 'M' ↔ c = 'M' ∨ c = 'm') := fun c =>
    ⟨toUpper_eq_iff (by decide) rfl rfl, toUpper_eq_iff (by decide) rfl rfl,
      toUpper_eq_iff (by decide) rfl rfl⟩
  constructor
  · intro h
    cases h with
    | slash rest => rfl
    | @com c o m digit rest hc ho hm hdigit =>
        have hcom : [c, o, m].map Char.toUpper = ['C', 'O', 'M'] := by
          simp [(hupper c).1.2 hc, (hupper o).2.1.2 ho, (hupper m).2.2.2 hm]
        unfold looksLikeDevice
        split
        · rfl
        next heq =>
          cases heq
          simp only [hcom, beq_self_eq_true, hdigit, Bool.and_self]
        next hnone => exact absurd rfl (hnone c o m digit rest)
  · intro h
    unfold looksLikeDevice at h
    split at h
    next rest => exact .slash rest
    next c o m digit rest _ =>
      simp only [List.map_cons, List.map_nil, Bool.and_eq_true, beq_iff_eq, List.cons.injEq,
        and_true] at h
      obtain ⟨⟨hc, ho, hm⟩, hdigit⟩ := h
      exact .com rest ((hupper c).1.1 hc) ((hupper o).2.1.1 ho) ((hupper m).2.2.1 hm) hdigit
    next => cases h

theorem after?_eq_none_iff {head s : List Char} : after? head s = none ↔ ¬ head <+: s := by
  rw [← not_iff_not, not_not, ← ne_eq, Option.ne_none_iff_exists']
  simp only [after?_eq_some_iff]
  exact exists_congr fun rest => eq_comm

theorem route_of_bare {s : List Char} (htcp : ¬ "tcp://".toList <+: s)
    (hserial : ¬ "serial://".toList <+: s) :
    Route.of s = if looksLikeDevice s then .serial s else .network s := by
  rw [Route.of, after?_eq_none_iff.2 htcp, after?_eq_none_iff.2 hserial]

/-- A device does not begin with a scheme. -/
theorem DeviceLike.not_prefix {s : List Char} (h : DeviceLike s) :
    ¬ "tcp://".toList <+: s ∧ ¬ "serial://".toList <+: s := by
  cases h with
  | slash rest => simp
  | com rest hc =>
      constructor
      · obtain rfl | rfl := hc <;> simp
      · obtain rfl | rfl := hc <;> simp

theorem HostAndPort.ne_nil {d : Defaults} {s : List Char} {t : Target} (h : HostAndPort d s t) :
    s ≠ [] := by
  rintro rfl
  obtain ⟨parts, hread, hfill⟩ := hostAndPort_iff.1 h
  cases hread
  obtain ⟨port, -, hne, -, -⟩ := fill_network_eq_ok_iff.1 hfill
  exact hne rfl

/-- Nothing names no target. -/
theorem Names.ne_nil {d : Defaults} {s : List Char} {t : Target} (h : Names d s t) : s ≠ [] := by
  cases h with
  | tcp hs | serial hs => simp
  | bareNetwork htcp hserial hdevice hs => exact hs.ne_nil
  | bareSerial hdevice hs => cases hdevice <;> simp

/-- **What is read, part by part, is what the grammar derives.** -/
theorem names_iff {d : Defaults} {s : List Char} {t : Target} :
    Names d s t ↔ ∃ parts, Spelled.read s = .ok parts ∧ parts.fill d = .ok t := by
  constructor
  · intro h
    have hne : s ≠ [] := h.ne_nil
    rw [Spelled.read, if_neg (by simpa using hne)]
    cases h with
    | tcp hs =>
        rw [Route.of, after?_eq_some_iff.2 rfl]
        exact hostAndPort_iff.1 hs
    | serial hs =>
        rw [Route.of, after?_eq_none_iff.2 (by simp), after?_eq_some_iff.2 rfl]
        exact serialLine_iff.1 hs
    | bareNetwork htcp hserial hdevice hs =>
        rw [deviceLike_iff] at hdevice
        rw [route_of_bare htcp hserial, if_neg hdevice]
        exact hostAndPort_iff.1 hs
    | bareSerial hdevice hs =>
        rw [route_of_bare hdevice.not_prefix.1 hdevice.not_prefix.2,
          if_pos (deviceLike_iff.1 hdevice)]
        exact serialLine_iff.1 hs
  · rintro ⟨parts, hread, hfill⟩
    rw [Spelled.read] at hread
    split at hread
    · cases hread
    cases htcp : after? "tcp://".toList s with
    | some rest =>
        obtain rfl := after?_eq_some_iff.1 htcp
        rw [Route.of, htcp] at hread
        exact .tcp (hostAndPort_iff.2 ⟨parts, hread, hfill⟩)
    | none =>
        cases hserial : after? "serial://".toList s with
        | some rest =>
            obtain rfl := after?_eq_some_iff.1 hserial
            rw [Route.of, htcp, hserial] at hread
            exact .serial (serialLine_iff.2 ⟨parts, hread, hfill⟩)
        | none =>
            rw [after?_eq_none_iff] at htcp hserial
            rw [route_of_bare htcp hserial] at hread
            cases hdevice : looksLikeDevice s with
            | true =>
                rw [hdevice] at hread
                exact .bareSerial (deviceLike_iff.2 hdevice)
                  (serialLine_iff.2 ⟨parts, hread, hfill⟩)
            | false =>
                rw [hdevice] at hread
                exact .bareNetwork htcp hserial (by simp [deviceLike_iff, hdevice])
                  (hostAndPort_iff.2 ⟨parts, hread, hfill⟩)

/-- **Reading accepts what the grammar derives**, and nothing else: what is left of a text without
the blanks around it names the target that is read. -/
theorem parse_eq_ok_iff_names (d : Defaults) (input : String) (t : Target) :
    parse d input = .ok t ↔ ∃ s, Trimmed input.toList s ∧ Names d s t := by
  simp only [parse_eq_ok_iff, trimmed_iff, names_iff, exists_eq_left']

/-- A mode in capitals is as good as one in small letters. -/
theorem parse_capitalFlow :
    parse {} "serial:///dev/ttyACM0?flow=RTSCTS" =
      .ok (.serial "/dev/ttyACM0" standardBaud .hardware) := by
  have hword : "rtscts" ∈ words .hardware := by decide
  have hflow : SetsFlow "flow=RTSCTS".toList .hardware :=
    ⟨"RTSCTS".toList, rfl, "rtscts", hword,
      (inAnyCase_iff (isSome_lookup_of_mem_words hword)).2 (by decide)⟩
  have hoptions : Options "flow=RTSCTS".toList [.hardware] := .cons hflow .nil
  have hpath : PathAndBaud {} "/dev/ttyACM0".toList "/dev/ttyACM0".toList standardBaud :=
    .path (by decide)
  have hline : SerialLine {} ("/dev/ttyACM0".toList ++ '?' :: "flow=RTSCTS".toList)
      (.serial "/dev/ttyACM0" standardBaud .hardware) :=
    .options (by decide) hpath (by decide) hoptions
  exact (parse_eq_ok_iff_names {} _ _).2 ⟨_, trimmed_iff.2 rfl, .serial hline⟩

/-! ## Bracketed hosts -/

/-- Brackets that are put around a host come off again. -/
theorem stripped_bracketed {host : List Char} (hopen : '[' ∉ host) (hclose : ']' ∉ host) :
    Stripped (· == '[') (· == ']') ('[' :: host ++ [']']) host where
  exists_eq := ⟨['['], [']'], by simp, by simp, by simp⟩
  first_head c hc := by
    have hmem : c ∈ host := List.mem_of_head? hc
    simpa using ne_of_mem_of_not_mem hmem hopen
  last_getLast c hc := by
    have hmem : c ∈ host := List.mem_of_getLast? hc
    simpa using ne_of_mem_of_not_mem hmem hclose

theorem toList_bracketed (host : String) :
    (s!"tcp://[{host}]").toList = "tcp://".toList ++ ('[' :: host.toList ++ [']']) := by
  change ("tcp://[" ++ host ++ "]").toList = _
  simp

/-- There is no blank outside the scheme and the closing bracket. -/
theorem trim_bracketed (host : String) :
    trim (s!"tcp://[{host}]").toList = (s!"tcp://[{host}]").toList := by
  rw [toList_bracketed]
  refine trim_eq_self (fun c hc => ?_) (fun c hc => ?_)
  · cases hc
    decide
  · rw [← List.append_assoc, List.getLast?_append_of_ne_nil _ (List.cons_ne_nil _ _)] at hc
    cases hc
    decide

theorem spelled_bracketed (host : String) :
    Spelled.read (s!"tcp://[{host}]").toList =
      Spelled.readNetwork ('[' :: host.toList ++ [']']) := by
  rw [toList_bracketed, Spelled.read, if_neg (by simp), Route.of, after?_eq_some_iff.2 rfl]

/-- With a colon in the host, what stands behind the last one is taken for the port. -/
theorem readNetwork_bracketed_colon (before : List Char) {after : List Char} (h : ':' ∉ after) :
    Spelled.readNetwork ('[' :: (before ++ ':' :: after) ++ [']']) =
      .error (.badPort (after ++ [']'])) := by
  have hcut : splitLast ':' ('[' :: (before ++ ':' :: after) ++ [']']) =
      some ('[' :: before, after ++ [']']) :=
    splitLast_eq_some_iff.2 ⟨by simp, by simpa using h⟩
  -- the closing bracket spoils the numeral, whatever the digits are
  have hport : readUnsigned 65535 (after ++ [']']) = none := by
    cases hread : readUnsigned 65535 (after ++ [']']) with
    | none => rfl
    | some n =>
        have hnumeral := (readUnsigned_iff.1 hread).1
        exact absurd (by simp) (hnumeral.not_mem (c := ']') (by decide) (by decide))
  rw [Spelled.readNetwork, hcut]
  simp only [hport]

theorem parse_bracketed_colon (d : Defaults) {host : String} {before after : List Char}
    (hhost : host.toList = before ++ ':' :: after) (h : ':' ∉ after) :
    parse d s!"tcp://[{host}]" = .error (.invalidTarget s!"tcp://[{host}]"
      (Fault.badPort (after ++ [']'])).reason) := by
  simp only [parse, trim_bracketed, read, spelled_bracketed, hhost,
    readNetwork_bracketed_colon before h, String.ofList_toList]

theorem parse_bracketed_default {d : Defaults} {port : UInt16} (hport : d.tcpPort = some port)
    (hzero : port ≠ 0) {host : String} (hne : host ≠ "") (hopen : '[' ∉ host.toList)
    (hclose : ']' ∉ host.toList) (hcolon : ':' ∉ host.toList) :
    parse d s!"tcp://[{host}]" = .ok (.network host port) := by
  rw [parse_eq_ok_iff, ← names_iff, trim_bracketed, toList_bracketed]
  have hnames := HostAndPort.host (s := '[' :: host.toList ++ [']']) (by simpa using hcolon) hport
    hzero (stripped_bracketed hopen hclose) (by simpa using hne)
  rw [String.ofList_toList] at hnames
  exact .tcp hnames

theorem parse_bracketed_port (d : Defaults) {port : UInt16} (hzero : port ≠ 0) {host : String}
    (hne : host ≠ "") (hopen : '[' ∉ host.toList) (hclose : ']' ∉ host.toList) :
    parse d s!"tcp://[{host}]:{port}" = .ok (.network host port) := by
  have htext : s!"tcp://[{host}]:{port}" = (network s!"[{host}]" port).text := by
    rw [← String.toList_inj, toList_text_network]
    change ("tcp://[" ++ host ++ "]:" ++ String.ofList (decimal port.toNat)).toList =
      "tcp://".toList ++ (("[" ++ host ++ "]").toList ++ ':' :: decimal port.toNat)
    simp
  have hhost : (s!"[{host}]").toList = '[' :: host.toList ++ [']'] := by
    change ("[" ++ host ++ "]").toList = _
    simp
  have hstripped := stripped_brackets_iff.1 (stripped_bracketed hopen hclose)
  rw [htext, parse_eq_ok_iff, trim_text, spelled_text_network, hhost, hstripped]
  refine ⟨_, rfl, fill_network_eq_ok_iff.2 ⟨port, rfl, by simpa using hne, hzero, ?_⟩⟩
  rw [String.ofList_toList]

/-- **A bracketed host, with its port and without it.**  A port that follows is read, however many
colons the host has.  A port that is left out is supplied exactly if the host has no colon;
otherwise the end of the host, with its bracket, is refused as a port. -/
theorem parse_bracketed {host : String} (hne : host ≠ "") (hopen : '[' ∉ host.toList)
    (hclose : ']' ∉ host.toList) (d : Defaults) :
    (∀ port : UInt16, port ≠ 0 → parse d s!"tcp://[{host}]:{port}" = .ok (.network host port)) ∧
      (∀ port, d.tcpPort = some port → port ≠ 0 →
        (parse d s!"tcp://[{host}]" = .ok (.network host port) ↔ ':' ∉ host.toList)) ∧
      ∀ before after, host.toList = before ++ ':' :: after → ':' ∉ after →
        parse d s!"tcp://[{host}]" = .error (.invalidTarget s!"tcp://[{host}]"
          (Fault.badPort (after ++ [']'])).reason) := by
  refine ⟨fun port hzero => parse_bracketed_port d hzero hne hopen hclose,
    fun port hport hzero => ⟨fun hparse hcolon => ?_, fun hcolon =>
      parse_bracketed_default hport hzero hne hopen hclose hcolon⟩,
    fun before after hhost h => parse_bracketed_colon d hhost h⟩
  cases hcut : splitLast ':' host.toList with
  | none => exact splitLast_eq_none_iff.1 hcut hcolon
  | some cut =>
      obtain ⟨hhost, h⟩ := splitLast_eq_some_iff.1 hcut
      rw [parse_bracketed_colon d hhost h] at hparse
      cases hparse

/-- The local host, with a port and with one to be supplied. -/
theorem parse_bracketed_localHost :
    let d : Defaults := { tcpPort := some 9999 }
    parse d "tcp://[::1]:8080" = .ok (.network "::1" 8080) ∧
      ¬ parse d "tcp://[::1]" = .ok (.network "::1" 9999) ∧
      parse d "tcp://[::1]" = .error (.invalidTarget "tcp://[::1]" "invalid port '1]'") := by
  intro d
  have h := @parse_bracketed "::1" (by decide) (by decide) (by decide) d
  refine ⟨h.1 8080 (by decide), fun hparse => ?_, h.2.2 [':'] ['1'] rfl (by decide)⟩
  exact (h.2.1 9999 rfl (by decide)).1 hparse (by decide)

/-- A port is supplied, and yet a host in brackets without one is refused. -/
theorem not_parse_bracketed_default :
    ¬ ∀ (host : String) (d : Defaults) (port : UInt16), host ≠ "" → '[' ∉ host.toList →
      ']' ∉ host.toList → trim host.toList = host.toList → d.tcpPort = some port → port ≠ 0 →
      parse d s!"tcp://[{host}]" = .ok (.network host port) := by
  intro h
  have hparse := h "::1" { tcpPort := some 9999 } 9999 (by decide) (by decide) (by decide)
    (by decide) rfl (by decide)
  revert hparse
  decide

end Target

end DongleLink
