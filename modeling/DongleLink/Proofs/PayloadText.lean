import DongleLink.Payload
import Mathlib.Data.List.Basic

/-!
# DongleLink.Proofs.PayloadText

What a payload text spells.  `Digits` says what counts in a text and `Spells` which bytes that
is, digit by digit, without a word on how the text is cut up.  Reading cuts it at every second
byte of its encoding; that every cut falls between two digits is due to the check before, which
leaves only characters of one byte, so that neither a bad cut nor a bad pair ever comes of it.

Bytes are shown in one of the ways in which they can be typed, and that one depends on nothing
but the digits that were typed (`shown_canonically`).
-/

namespace DongleLink

namespace Text

/-! ## Cuts between the parts of a text -/

theorem byteLength_append (s t : List Char) :
    byteLength (s ++ t) = byteLength s + byteLength t := by
  induction s with
  | nil => simp [byteLength]
  | cons c s ih => simp only [List.cons_append, byteLength, ih, Nat.add_assoc]

theorem takeBytes_append (s t : List Char) (start : Nat) :
    takeBytes (start + byteLength s) start (s ++ t) = .ok s := by
  induction s generalizing start with
  | nil =>
      cases t with
      | nil => rfl
      | cons c t => simp [byteLength, takeBytes]
  | cons c s ih =>
      have hpos := Char.utf8Size_pos c
      have hrest := ih (start + c.utf8Size)
      rw [List.cons_append, byteLength, takeBytes, if_neg (by omega), if_neg (by omega),
        ← Nat.add_assoc, hrest]

/-- A part of a text is cut out between the places where it begins and ends. -/
theorem slice_append (front part back : List Char) :
    slice (byteLength front) (byteLength front + byteLength part) (front ++ (part ++ back)) =
      .ok part := by
  have hsize : byteLength (front ++ (part ++ back)) =
      byteLength front + (byteLength part + byteLength back) := by
    rw [byteLength_append, byteLength_append]
  have hdrop := dropBytes_append front (part ++ back) 0
  rw [Nat.zero_add] at hdrop
  rw [slice, if_neg (by omega), if_neg (by omega), cutBytes, hdrop]
  simp only [takeBytes_append]

/-! ## Digits -/

/-- A hexadecimal digit of this value, in either case. -/
def HexDigit (c : Char) (n : Nat) : Prop :=
  n < 16 ∧ (c = n.digitChar ∨ c = n.digitChar.toUpper)

/-- What holds of each of the sixteen in both cases holds of every digit. -/
theorem HexDigit.of_sixteen {P : Char → Nat → Prop}
    (h : ∀ k : Fin 16, P (Nat.digitChar k) k ∧ P (Nat.digitChar k).toUpper k) {c : Char} {n : Nat}
    (hc : HexDigit c n) : P c n := by
  obtain ⟨hn, rfl | rfl⟩ := hc
  · exact (h ⟨n, hn⟩).1
  · exact (h ⟨n, hn⟩).2

theorem toNat_lt_of_hexValue? {c : Char} {n : Nat} (h : hexValue? c = some n) :
    c.toNat < 128 := by
  simp only [hexValue?] at h
  split at h
  · omega
  split at h
  · omega
  split at h
  · omega
  · cases h

theorem hexValue?_eq_some_iff {c : Char} {n : Nat} : hexValue? c = some n ↔ HexDigit c n := by
  have read : ∀ k : Fin 128, ∀ n ∈ hexValue? (Char.ofNat k), HexDigit (Char.ofNat k) n := by
    unfold HexDigit
    decide
  constructor
  · intro h
    have hdigit := read ⟨c.toNat, toNat_lt_of_hexValue? h⟩ n
    rw [Char.ofNat_toNat] at hdigit
    exact hdigit h
  · exact HexDigit.of_sixteen (P := fun c n => hexValue? c = some n) (by decide)

theorem isSome_hexValue?_iff {c : Char} : (hexValue? c).isSome = true ↔ ∃ n, HexDigit c n := by
  simp only [Option.isSome_iff_exists, hexValue?_eq_some_iff]

theorem HexDigit.utf8Size_eq {c : Char} {n : Nat} (h : HexDigit c n) : c.utf8Size = 1 := by
  have hlt := toNat_lt_of_hexValue? (hexValue?_eq_some_iff.2 h)
  refine Char.utf8Size_eq_one_iff.2 (UInt32.le_iff_toNat_le.2 ?_)
  change c.toNat ≤ 127
  omega

/-- Digits have one byte each. -/
theorem byteLength_of_digits {s : List Char} (h : ∀ c ∈ s, ∃ n, HexDigit c n) :
    byteLength s = s.length := by
  induction s with
  | nil => rfl
  | cons c s ih =>
      rw [List.forall_mem_cons] at h
      obtain ⟨⟨n, hn⟩, hs⟩ := h
      rw [byteLength, hn.utf8Size_eq, ih hs, List.length_cons, Nat.add_comm]

/-- Two digits are the numeral of a byte. -/
theorem readHexadecimal_pair {high low : Char} {h l : Nat} (hhigh : HexDigit high h)
    (hlow : HexDigit low l) : readHexadecimal 255 [high, low] = some (16 * h + l) := by
  have hvalue := hexValue?_eq_some_iff.2 hhigh
  have hunsigned : unsigned [high, low] = [high, low] := by
    unfold unsigned
    split
    next heq =>
      -- a plus sign is no digit
      cases heq
      cases hvalue
    next => rfl
  have hle : 16 * h + l ≤ 255 := by
    have := hhigh.1
    have := hlow.1
    omega
  simp [readHexadecimal, hunsigned, hvalue, hexValue?_eq_some_iff.2 hlow, hle]

theorem byteOfDigits?_eq_some_iff {high low : Char} {b : UInt8} :
    byteOfDigits? high low = some b ↔
      ∃ h l, HexDigit high h ∧ HexDigit low l ∧ b.toNat = 16 * h + l := by
  simp only [byteOfDigits?]
  constructor
  · intro hb
    split at hb
    next h l hh hl =>
      cases hb
      have hhigh := hexValue?_eq_some_iff.1 hh
      have hlow := hexValue?_eq_some_iff.1 hl
      refine ⟨h, l, hhigh, hlow, ?_⟩
      have := hhigh.1
      have := hlow.1
      exact UInt8.toNat_ofNat_of_lt' (show 16 * h + l < 256 by omega)
    next => cases hb
  · rintro ⟨h, l, hhigh, hlow, hb⟩
    rw [hexValue?_eq_some_iff.2 hhigh, hexValue?_eq_some_iff.2 hlow]
    simp only [← hb, UInt8.ofNat_toNat]

/-! ## Digits of a byte -/

/-- An upper-case hexadecimal digit. -/
def UpperHexDigit (c : Char) : Prop := ∃ n < 16, c = n.digitChar.toUpper

theorem hexDigit_eq {n : Nat} (h : n < 16) : hexDigit n = n.digitChar.toUpper := by
  have table : ∀ k : Fin 16, hexDigit k = (Nat.digitChar k).toUpper := by decide
  exact table ⟨n, h⟩

theorem HexDigit.toUpper_eq {c : Char} {n : Nat} (h : HexDigit c n) : c.toUpper = hexDigit n :=
  h.of_sixteen (P := fun c n => c.toUpper = hexDigit n) (by decide)

/-- A byte is shown as the digits of its two halves. -/
theorem mem_byteDigits {b : UInt8} {c : Char} (h : c ∈ byteDigits b) :
    ∃ n < 16, c = hexDigit n := by
  have hb : b.toNat < 256 := b.toNat_lt
  simp only [byteDigits, List.mem_cons, List.not_mem_nil, or_false] at h
  obtain rfl | rfl := h
  · exact ⟨b.toNat / 16, by omega, rfl⟩
  · exact ⟨b.toNat % 16, by omega, rfl⟩

theorem hexDigit_of_mem_byteDigits {b : UInt8} {c : Char} (h : c ∈ byteDigits b) :
    ∃ n, HexDigit c n := by
  obtain ⟨n, hn, rfl⟩ := mem_byteDigits h
  exact ⟨n, hexValue?_eq_some_iff.1 (hexValue?_hexDigit hn)⟩

end Text

namespace Payload

open Text

/-! ## What a text spells -/

/-- White space, colons and commas only set digits apart. -/
def SetsApart (c : Char) : Prop := isBlank c = true ∨ c = ':' ∨ c = ','

instance (c : Char) : Decidable (SetsApart c) := by
  unfold SetsApart
  infer_instance

/-- What counts in a text `s`: what is left of it without all that sets digits apart, and
without one `0x` in front of that. -/
def Digits (s t : List Char) : Prop :=
  s.filter (¬ SetsApart ·) = ['0', 'x'] ++ t ∨
    s.filter (¬ SetsApart ·) = t ∧ ¬ ['0', 'x'] <+: t

/-- Two digits for each byte, the high one first. -/
structure Spells (t : List Char) (bytes : List UInt8) : Prop where
  length_eq : t.length = 2 * bytes.length
  digits : ∀ i (hi : i < bytes.length), ∃ high low h l, t[2 * i]? = some high ∧
    t[2 * i + 1]? = some low ∧ HexDigit high h ∧ HexDigit low l ∧ bytes[i].toNat = 16 * h + l

/-- The second text is the first one with something put in anywhere that only sets digits
apart. -/
inductive SpacedOut : List Char → List Char → Prop where
  | nil : SpacedOut [] []
  | keep {s t : List Char} (c : Char) (rest : SpacedOut s t) : SpacedOut (c :: s) (c :: t)
  | put {s t : List Char} {c : Char} (hc : SetsApart c) (rest : SpacedOut s t) :
      SpacedOut s (c :: t)

theorem filter_isSeparator (s : List Char) :
    s.filter (!isSeparator ·) = s.filter (¬ SetsApart ·) := by
  refine List.filter_congr fun c _ => ?_
  simp [isSeparator, SetsApart, beq_eq_decide, Bool.and_assoc]

theorem digits_iff {s t : List Char} : Digits s t ↔ digitsOf s = t := by
  rw [Digits, digitsOf, filter_isSeparator]
  generalize s.filter (¬ SetsApart ·) = kept
  cases hafter : after? ['0', 'x'] kept with
  | none =>
      have hprefix : ¬ ['0', 'x'] <+: kept := by
        rintro ⟨rest, hrest⟩
        rw [after?_eq_some_iff.2 hrest.symm] at hafter
        cases hafter
      have hne : kept ≠ ['0', 'x'] ++ t := fun heq => hprefix ⟨t, heq.symm⟩
      simp only [hne, false_or, Option.getD_none, and_iff_left_iff_imp]
      rintro rfl
      exact hprefix
  | some rest =>
      have hkept := after?_eq_some_iff.1 hafter
      simp only [Option.getD_some]
      constructor
      · rintro (heq | ⟨heq, hprefix⟩)
        · exact List.append_cancel_left (hkept.symm.trans heq)
        · exact absurd ⟨rest, hkept.symm.trans heq⟩ hprefix
      · rintro rfl
        exact .inl hkept

/-- Putting in what only sets digits apart leaves the digits alone. -/
theorem SpacedOut.digitsOf_eq {s t : List Char} (h : SpacedOut s t) : digitsOf t = digitsOf s := by
  have hkept : t.filter (¬ SetsApart ·) = s.filter (¬ SetsApart ·) := by
    induction h with
    | nil => rfl
    | keep c rest ih => simp only [List.filter_cons, ih]
    | put hc rest ih => rwa [List.filter_cons_of_neg (by simpa using hc)]
  simp only [digitsOf, filter_isSeparator, hkept]

/-! ## Digits in pairs -/

theorem spells_nil_iff {bytes : List UInt8} : Spells [] bytes ↔ bytes = [] := by
  constructor
  · intro h
    have hlength : 0 = 2 * bytes.length := h.length_eq
    exact List.length_eq_zero_iff.1 (by omega)
  · rintro rfl
    exact ⟨rfl, fun i hi => absurd hi (Nat.not_lt_zero i)⟩

theorem not_spells_singleton (c : Char) (bytes : List UInt8) : ¬ Spells [c] bytes := by
  intro h
  have hlength : 1 = 2 * bytes.length := h.length_eq
  omega

theorem spells_cons_iff {high low : Char} {t : List Char} {bytes : List UInt8} :
    Spells (high :: low :: t) bytes ↔
      ∃ b rest, byteOfDigits? high low = some b ∧ Spells t rest ∧ bytes = b :: rest := by
  constructor
  · intro h
    have hlength := h.length_eq
    cases bytes with
    | nil => simp at hlength
    | cons b rest =>
        refine ⟨b, rest, ?_, ⟨?_, fun i hi => ?_⟩, rfl⟩
        · obtain ⟨_, _, h, l, ⟨⟩, ⟨⟩, hhigh, hlow, hb⟩ := h.digits 0 (by simp)
          exact byteOfDigits?_eq_some_iff.2 ⟨h, l, hhigh, hlow, hb⟩
        · simp only [List.length_cons] at hlength
          omega
        · have hdigits := h.digits (i + 1) (by simpa using hi)
          simpa only [Nat.mul_add, List.getElem?_cons_succ, List.getElem_cons_succ] using hdigits
  · rintro ⟨b, rest, hb, hrest, rfl⟩
    refine ⟨?_, fun i hi => ?_⟩
    · have hlength := hrest.length_eq
      simp only [List.length_cons]
      omega
    · cases i with
      | zero =>
          obtain ⟨h, l, hhigh, hlow, hb⟩ := byteOfDigits?_eq_some_iff.1 hb
          exact ⟨high, low, h, l, rfl, rfl, hhigh, hlow, hb⟩
      | succ i =>
          have hdigits := hrest.digits i (by simpa using hi)
          simpa only [Nat.mul_add, List.getElem?_cons_succ, List.getElem_cons_succ] using hdigits

theorem spells_iff {t : List Char} {bytes : List UInt8} :
    Spells t bytes ↔ bytesOfDigits? t = some bytes := by
  fun_induction bytesOfDigits? t generalizing bytes with
  | case1 => simp [spells_nil_iff, eq_comm]
  | case2 c => simp [not_spells_singleton]
  | case3 high low t b rest hrest hb ih => simp [spells_cons_iff, hb, ih, hrest, eq_comm]
  | case4 high low t hnone ih =>
      simp only [spells_cons_iff, ih, reduceCtorEq, iff_false]
      rintro ⟨b, rest, hb, hrest, -⟩
      exact hnone b rest hb hrest

/-- An even number of digits spells bytes. -/
theorem exists_spells {t : List Char} (hdigits : ∀ c ∈ t, ∃ n, HexDigit c n)
    (heven : t.length % 2 = 0) : ∃ bytes, Spells t bytes := by
  fun_induction bytesOfDigits? t with
  | case1 => exact ⟨[], spells_nil_iff.2 rfl⟩
  | case2 c => simp at heven
  | case3 high low t b rest hrest hb ih =>
      exact ⟨b :: rest, spells_cons_iff.2 ⟨b, rest, hb, spells_iff.2 hrest, rfl⟩⟩
  | case4 high low t hnone ih =>
      simp only [List.forall_mem_cons] at hdigits
      obtain ⟨⟨h, hhigh⟩, ⟨l, hlow⟩, ht⟩ := hdigits
      obtain ⟨rest, hrest⟩ := ih ht (by simp only [List.length_cons] at heven; omega)
      have hb : byteOfDigits? high low = some (.ofNat (16 * h + l)) := by
        rw [byteOfDigits?, hexValue?_eq_some_iff.2 hhigh, hexValue?_eq_some_iff.2 hlow]
      exact absurd (spells_iff.1 hrest) (hnone _ rest hb)

/-- Bytes are spelled by digits only. -/
theorem Spells.hexDigit {t : List Char} {bytes : List UInt8} (h : Spells t bytes) :
    ∀ c ∈ t, ∃ n, HexDigit c n := by
  fun_induction bytesOfDigits? t generalizing bytes with
  | case1 => simp
  | case2 c => exact absurd h (not_spells_singleton c bytes)
  | case3 high low t b rest hrest hb ih =>
      obtain ⟨_, _, hb, hrest, -⟩ := spells_cons_iff.1 h
      obtain ⟨m, n, hhigh, hlow, -⟩ := byteOfDigits?_eq_some_iff.1 hb
      simp only [List.forall_mem_cons]
      exact ⟨⟨m, hhigh⟩, ⟨n, hlow⟩, ih hrest⟩
  | case4 high low t hnone ih =>
      obtain ⟨b, rest, hb, hrest, -⟩ := spells_cons_iff.1 h
      exact absurd (spells_iff.1 hrest) (hnone b rest hb)

/-! ## Reading -/

/-- The two digits at a place are a byte. -/
theorem byteAt_append {high low : Char} {b : UInt8} (hb : byteOfDigits? high low = some b)
    (front t : List Char) :
    byteAt (front ++ high :: low :: t) (byteLength front) = .ok b := by
  obtain ⟨h, l, hhigh, hlow, hvalue⟩ := byteOfDigits?_eq_some_iff.1 hb
  have hsize : byteLength [high, low] = 2 := by
    simp [byteLength, hhigh.utf8Size_eq, hlow.utf8Size_eq]
  have hpair := slice_append front [high, low] t
  rw [hsize, List.cons_append, List.cons_append, List.nil_append] at hpair
  simp only [byteAt, hpair, readHexadecimal_pair hhigh hlow, ← hvalue, UInt8.ofNat_toNat]

/-- Every second place of digits begins a byte; the text in front has been read already. -/
theorem bytesAt_append {t : List Char} {bytes : List UInt8} (h : Spells t bytes)
    (front : List Char) :
    bytesAt (front ++ t) (List.range' (byteLength front) bytes.length 2) = .ok bytes := by
  induction bytes generalizing t front with
  | nil => rfl
  | cons b bytes ih =>
      match t with
      | [] => cases spells_nil_iff.1 h
      | [c] => exact absurd h (not_spells_singleton c _)
      | high :: low :: t =>
          obtain ⟨_, _, hb, ht, heq⟩ := spells_cons_iff.1 h
          cases heq
          obtain ⟨m, n, hhigh, hlow, -⟩ := byteOfDigits?_eq_some_iff.1 hb
          -- digits have one byte each, so that the next place is where the rest begins
          have hplace : byteLength (front ++ [high, low]) = byteLength front + 2 := by
            simp [byteLength_append, byteLength, hhigh.utf8Size_eq, hlow.utf8Size_eq]
          have hrest := ih ht (front ++ [high, low])
          rw [hplace, List.append_assoc, List.cons_append, List.cons_append,
            List.nil_append] at hrest
          rw [List.length_cons, List.range'_succ, bytesAt, byteAt_append hb]
          simp only [hrest, Except.map]

theorem all_isSome_iff {t : List Char} :
    (t.all fun c => (hexValue? c).isSome) = true ↔ ∀ c ∈ t, ∃ n, HexDigit c n := by
  simp only [List.all_eq_true, isSome_hexValue?_iff]

/-- Among digits, bytes are places, and only their number can be wrong. -/
theorem read_of_digits {s t : List Char} (hs : Digits s t)
    (hdigits : ∀ c ∈ t, ∃ n, HexDigit c n) :
    read s = if t = [] ∨ t.length % 2 = 1 then .error .uneven
      else bytesAt t (List.range' 0 ((t.length + 1) / 2) 2) := by
  obtain rfl := digits_iff.1 hs
  have hcond : ((digitsOf s).isEmpty || (digitsOf s).length % 2 != 0) = true ↔
      digitsOf s = [] ∨ (digitsOf s).length % 2 = 1 := by
    simp
  simp only [read, all_isSome_iff.2 hdigits, byteLength_of_digits hdigits, hcond, Bool.not_true,
    Bool.false_eq_true, if_false]

theorem read_of_spells {s t : List Char} {bytes : List UInt8} (hs : Digits s t) (hne : t ≠ [])
    (h : Spells t bytes) : read s = .ok bytes := by
  have hlength := h.length_eq
  have hcount : (t.length + 1) / 2 = bytes.length := by omega
  rw [read_of_digits hs h.hexDigit, if_neg (by simp only [hne, false_or]; omega), hcount]
  exact bytesAt_append h []

theorem read_of_uneven {s t : List Char} (hs : Digits s t)
    (hdigits : ∀ c ∈ t, ∃ n, HexDigit c n) (h : t = [] ∨ t.length % 2 = 1) :
    read s = .error .uneven := by
  rw [read_of_digits hs hdigits, if_pos h]

theorem read_of_not_digit {s t : List Char} (hs : Digits s t)
    (h : ∃ c ∈ t, ∀ n, ¬ HexDigit c n) : read s = .error .notHexadecimal := by
  obtain rfl := digits_iff.1 hs
  have hall : ((digitsOf s).all fun c => (hexValue? c).isSome) = false := by
    rw [Bool.eq_false_iff, ne_eq, all_isSome_iff]
    obtain ⟨c, hc, hno⟩ := h
    intro hdigits
    obtain ⟨n, hn⟩ := hdigits c hc
    exact hno n hn
  simp only [read, hall, Bool.not_false, if_true]

/-- Every text is read in one of three ways: there is something else than digits, or not an even
number of them, or they spell bytes. -/
theorem read_cases {s t : List Char} (hs : Digits s t) :
    (∃ c ∈ t, ∀ n, ¬ HexDigit c n) ∧ read s = .error .notHexadecimal ∨
      (∀ c ∈ t, ∃ n, HexDigit c n) ∧ (t = [] ∨ t.length % 2 = 1) ∧ read s = .error .uneven ∨
      t ≠ [] ∧ ∃ bytes, Spells t bytes ∧ read s = .ok bytes := by
  by_cases hdigits : ∀ c ∈ t, ∃ n, HexDigit c n
  · by_cases huneven : t = [] ∨ t.length % 2 = 1
    · exact .inr (.inl ⟨hdigits, huneven, read_of_uneven hs hdigits huneven⟩)
    · rw [not_or] at huneven
      obtain ⟨bytes, hbytes⟩ := exists_spells hdigits (by omega)
      exact .inr (.inr ⟨huneven.1, bytes, hbytes, read_of_spells hs huneven.1 hbytes⟩)
  · push Not at hdigits
    exact .inl ⟨hdigits, read_of_not_digit hs hdigits⟩

theorem read_eq_ok_iff {s t : List Char} (hs : Digits s t) {bytes : List UInt8} :
    read s = .ok bytes ↔ t ≠ [] ∧ Spells t bytes := by
  refine ⟨fun h => ?_, fun ⟨hne, hbytes⟩ => read_of_spells hs hne hbytes⟩
  obtain ⟨-, hread⟩ | ⟨-, -, hread⟩ | ⟨hne, others, hothers, hread⟩ := read_cases hs
  · rw [hread] at h
    cases h
  · rw [hread] at h
    cases h
  · rw [hread] at h
    cases h
    exact ⟨hne, hothers⟩

/-- No other fault than these two ever comes of a text. -/
theorem fault_cases {s : List Char} {fault : Fault} (h : read s = .error fault) :
    fault = .notHexadecimal ∨ fault = .uneven := by
  obtain ⟨-, hread⟩ | ⟨-, -, hread⟩ | ⟨-, bytes, -, hread⟩ := read_cases (digits_iff.2 rfl)
  · rw [hread] at h
    cases h
    exact .inl rfl
  · rw [hread] at h
    cases h
    exact .inr rfl
  · rw [hread] at h
    cases h

theorem parse_eq_ok_iff {input : String} {bytes : List UInt8} :
    parse input = .ok bytes ↔ read input.toList = .ok bytes := by
  rw [parse]
  cases read input.toList <;> simp

/-- **A text is read exactly if it spells bytes**, and then as those.  Otherwise it is said whether
something else than digits is in the way, or else their number; nothing else can go wrong.  What
only sets digits apart can be put in anywhere. -/
theorem parse_iff_spells :
    (∀ input : String, ∃ t, Digits input.toList t ∧
      (∀ bytes, parse input = .ok bytes ↔ t ≠ [] ∧ Spells t bytes) ∧
      ((∃ bytes, parse input = .ok bytes) ↔
        t ≠ [] ∧ t.length % 2 = 0 ∧ ∀ c ∈ t, ∃ n, HexDigit c n) ∧
      ((∃ c ∈ t, ∀ n, ¬ HexDigit c n) →
        parse input = .error s!"'{input}' contains non-hex characters") ∧
      ((∀ c ∈ t, ∃ n, HexDigit c n) → t = [] ∨ t.length % 2 = 1 →
        parse input = .error s!"'{input}' is not an even number of hex digits") ∧
      (∀ pair, read input.toList ≠ .error (.notByte pair)) ∧
      ∀ bad, read input.toList ≠ .error (.cut bad)) ∧
    ∀ (s spaced : String) (bytes : List UInt8), SpacedOut s.toList spaced.toList →
      parse s = .ok bytes → parse spaced = .ok bytes := by
  constructor
  · intro input
    have hs : Digits input.toList (digitsOf input.toList) := digits_iff.2 rfl
    generalize digitsOf input.toList = t at hs
    have hok : ∀ bytes, parse input = .ok bytes ↔ t ≠ [] ∧ Spells t bytes := fun bytes => by
      rw [parse_eq_ok_iff, read_eq_ok_iff hs]
    refine ⟨t, hs, hok, ⟨?_, ?_⟩, fun h => ?_, fun hdigits h => ?_, fun pair h => ?_,
      fun bad h => ?_⟩
    · rintro ⟨bytes, hbytes⟩
      obtain ⟨hne, hspells⟩ := (hok bytes).1 hbytes
      exact ⟨hne, by rw [hspells.length_eq]; omega, hspells.hexDigit⟩
    · rintro ⟨hne, heven, hdigits⟩
      obtain ⟨bytes, hspells⟩ := exists_spells hdigits heven
      exact ⟨bytes, (hok bytes).2 ⟨hne, hspells⟩⟩
    · rw [parse, read_of_not_digit hs h]
      rfl
    · rw [parse, read_of_uneven hs hdigits h]
      rfl
    · obtain h | h := fault_cases h <;> cases h
    · obtain h | h := fault_cases h <;> cases h
  · intro s spaced bytes hspaced h
    rw [parse_eq_ok_iff, read_eq_ok_iff (digits_iff.2 rfl)] at h ⊢
    rwa [hspaced.digitsOf_eq]

/-- Separators inside a byte and inside the `0x`, and a second `0x`, which is none. -/
theorem parse_spaced_and_doubled :
    SpacedOut "0x1Ac0".toList "0\u3000:x1 ,Ac0\n".toList ∧
      parse "0\u3000:x1 ,Ac0\n" = .ok [0x1A, 0xC0] ∧
      parse "0x0x12" = .error "'0x0x12' contains non-hex characters" := by
  have hspaced : SpacedOut "0x1Ac0".toList "0\u3000:x1 ,Ac0\n".toList :=
    .keep _ (.put (by decide) (.put (by decide) (.keep _ (.keep _ (.put (by decide)
      (.put (by decide) (.keep _ (.keep _ (.keep _ (.put (by decide) .nil))))))))))
  refine ⟨hspaced, parse_iff_spells.2 "0x1Ac0" _ _ hspaced (by decide), ?_⟩
  obtain ⟨t, hs, -, -, hother, -⟩ := parse_iff_spells.1 "0x0x12"
  have ht : ['0', 'x', '1', '2'] = t := digits_iff.1 hs
  refine hother ⟨'x', by simp [← ht], fun n hn => ?_⟩
  cases hexValue?_eq_some_iff.2 hn

/-! ## Showing -/

theorem not_setsApart_of_hexDigit {c : Char} {n : Nat} (h : HexDigit c n) : ¬ SetsApart c :=
  h.of_sixteen (P := fun c _ => ¬ SetsApart c) (by decide)

theorem write_eq (bytes : List UInt8) :
    write bytes = [' '].intercalate (bytes.map byteDigits) := by
  fun_induction write bytes with
  | case1 => rfl
  | case2 b => simp
  | case3 b rest hne ih =>
      cases rest with
      | nil => exact absurd rfl hne
      | cons next rest =>
          rw [ih]
          simp only [List.map_cons, List.intercalate_cons_cons, List.append_assoc,
            List.cons_append, List.nil_append]

/-- Of what is shown only the digits count. -/
theorem filter_write (bytes : List UInt8) :
    (write bytes).filter (¬ SetsApart ·) = bytes.flatMap byteDigits := by
  have hbyte : ∀ b, (byteDigits b).filter (¬ SetsApart ·) = byteDigits b := fun b =>
    List.filter_eq_self.2 fun c hc => by
      obtain ⟨n, hn⟩ := hexDigit_of_mem_byteDigits hc
      simpa using not_setsApart_of_hexDigit hn
  have hblank : decide (¬ SetsApart ' ') = false := by decide
  fun_induction write bytes with
  | case1 => rfl
  | case2 b => rw [hbyte, List.flatMap_singleton]
  | case3 b rest _ ih =>
      rw [List.filter_append, List.filter_cons, hblank, hbyte, List.flatMap_cons]
      exact congrArg _ ih

/-- Where only the digits of bytes count, they do not begin with `0x`. -/
theorem digits_of_filter_eq {s : List Char} {bytes : List UInt8}
    (h : s.filter (¬ SetsApart ·) = bytes.flatMap byteDigits) :
    Digits s (bytes.flatMap byteDigits) := by
  refine .inr ⟨h, fun hprefix => ?_⟩
  have hx : 'x' ∈ bytes.flatMap byteDigits := hprefix.subset (by simp)
  obtain ⟨b, -, hb⟩ := List.mem_flatMap.1 hx
  obtain ⟨n, hn⟩ := hexDigit_of_mem_byteDigits hb
  cases hexValue?_eq_some_iff.2 hn

theorem digits_text (bytes : List UInt8) :
    Digits (text bytes).toList (bytes.flatMap byteDigits) := by
  refine digits_of_filter_eq ?_
  rw [text, String.toList_ofList, filter_write]

/-- The digits of bytes are those that spell them, in upper case. -/
theorem Spells.map_toUpper {t : List Char} {bytes : List UInt8} (h : Spells t bytes) :
    t.map Char.toUpper = bytes.flatMap byteDigits := by
  fun_induction bytesOfDigits? t generalizing bytes with
  | case1 =>
      cases spells_nil_iff.1 h
      rfl
  | case2 c => exact absurd h (not_spells_singleton c bytes)
  | case3 high low t b rest hrest hb ih =>
      obtain ⟨_, _, hb, ht, rfl⟩ := spells_cons_iff.1 h
      obtain ⟨m, n, hhigh, hlow, hvalue⟩ := byteOfDigits?_eq_some_iff.1 hb
      have hm := hhigh.1
      have hn := hlow.1
      rw [List.map_cons, List.map_cons, ih ht, hhigh.toUpper_eq, hlow.toUpper_eq,
        List.flatMap_cons, byteDigits, hvalue, show (16 * m + n) / 16 = m by omega,
        show (16 * m + n) % 16 = n by omega]
      rfl
  | case4 high low t hnone ih =>
      obtain ⟨b, rest, hb, hrest, -⟩ := spells_cons_iff.1 h
      exact absurd (spells_iff.1 hrest) (hnone b rest hb)

/-- **What is shown is read as what it shows**, and what was read is shown in one way only: its
digits in upper case, two for each byte, with single spaces between the pairs. -/
theorem shown_canonically :
    (∀ bytes, bytes ≠ [] → parse (text bytes) = .ok bytes) ∧
      ∀ (s : String) (bytes : List UInt8), parse s = .ok bytes →
        ∃ t groups, Digits s.toList t ∧ (text bytes).toList = [' '].intercalate groups ∧
          groups.length = bytes.length ∧
          (∀ group ∈ groups, group.length = 2 ∧ ∀ c ∈ group, UpperHexDigit c) ∧
          groups.flatten = t.map Char.toUpper := by
  refine ⟨fun bytes hne => ?_, fun s bytes h => ?_⟩
  · have hspells : Spells (bytes.flatMap byteDigits) bytes :=
      spells_iff.2 (bytesOfDigits?_flatMap bytes)
    have hdigits : bytes.flatMap byteDigits ≠ [] := by
      have hlength := hspells.length_eq
      have hpos := List.length_pos_of_ne_nil hne
      exact List.ne_nil_of_length_pos (by omega)
    exact parse_eq_ok_iff.2 (read_of_spells (digits_text bytes) hdigits hspells)
  · have hs : Digits s.toList (digitsOf s.toList) := digits_iff.2 rfl
    obtain ⟨-, hspells⟩ := (read_eq_ok_iff hs).1 (parse_eq_ok_iff.1 h)
    refine ⟨digitsOf s.toList, bytes.map byteDigits, hs, ?_, List.length_map _,
      fun group hgroup => ?_, ?_⟩
    · rw [text, String.toList_ofList, write_eq]
    · obtain ⟨b, -, rfl⟩ := List.mem_map.1 hgroup
      refine ⟨rfl, fun c hc => ?_⟩
      obtain ⟨n, hn, rfl⟩ := mem_byteDigits hc
      exact ⟨n, hn, hexDigit_eq hn⟩
    · rw [hspells.map_toUpper, List.flatMap_def]

/-- Bytes whose text begins with a zero, typed with a sign for their base and in both cases. -/
theorem shown_canonically_mixedCase :
    parse (text [0x00, 0x7E, 0xFF]) = .ok [0x00, 0x7E, 0xFF] ∧
      parse "0x0 0:7e,fF" = .ok [0x00, 0x7E, 0xFF] ∧
      ∃ groups, (text [0x00, 0x7E, 0xFF]).toList = [' '].intercalate groups ∧
        groups.length = 3 ∧ groups.flatten = "007EFF".toList := by
  have hparse : parse "0x0 0:7e,fF" = .ok [0x00, 0x7E, 0xFF] := by decide
  refine ⟨shown_canonically.1 _ (by decide), hparse, ?_⟩
  obtain ⟨t, groups, ht, htext, hlength, -, hflatten⟩ := shown_canonically.2 _ _ hparse
  have hdigits : "007efF".toList = t := digits_iff.1 ht
  exact ⟨groups, htext, hlength, by rw [hflatten, ← hdigits]; decide⟩

end Payload

end DongleLink
