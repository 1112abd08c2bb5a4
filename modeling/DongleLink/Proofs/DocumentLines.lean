import DongleLink.Proofs.QuotedText
import Mathlib.Data.List.Basic

/-!
# DongleLink.Proofs.DocumentLines

A document of sections is read back line by line.

A section is a table under a header of its own, with numbers and texts in it.  A line of one is
read whatever follows it, because the reader of each part stops where the writer did; so the lines
of a document are read one after the other, and the sections with them.  What is read knows its
place in the document, and apart from that it is what was written.
-/

namespace DongleLink.Toml

open Text

variable {n : Nat} {c : Char} {s rest : List Char}

/-! ## Numbers -/

theorem isDigit_of_mem_decimal (h : c ∈ decimal n) : c.isDigit = true :=
  Nat.isDigit_of_mem_toDigits (b := 10) (by decide) (by decide) h

/-- A number has a first digit. -/
theorem exists_head_decimal (n : Nat) : ∃ c t, decimal n = c :: t ∧ c.isDigit = true := by
  obtain ⟨c, t, heq⟩ := List.exists_cons_of_ne_nil (Nat.toDigits_ne_nil (n := n) (b := 10))
  have hmem : c ∈ decimal n := by
    rw [decimal, heq]
    exact List.mem_cons_self
  exact ⟨c, t, heq, isDigit_of_mem_decimal hmem⟩

theorem toDigits_ne_zero_cons (hn : 0 < n) (s : List Char) : Nat.toDigits 10 n ≠ '0' :: s := by
  induction n using Nat.strongRecOn generalizing s with
  | _ n ih =>
      intro h
      by_cases hlt : n < 10
      · rw [Nat.toDigits_of_lt_base hlt] at h
        have hzero := Nat.digitChar_eq_zero.1 (List.cons.inj h).1
        omega
      · obtain ⟨d, t, hdt⟩ :=
          List.exists_cons_of_ne_nil (Nat.toDigits_ne_nil (n := n / 10) (b := 10))
        rw [Nat.toDigits_of_base_le (by decide) (by omega), hdt, List.cons_append,
          List.cons.injEq] at h
        exact ih (n / 10) (by omega) (by omega) t (by rw [hdt, h.1])

/-- A number of more than one digit does not begin with a zero. -/
theorem decimal_ne_zero_cons (n : Nat) (c : Char) (s : List Char) : decimal n ≠ '0' :: c :: s := by
  intro h
  obtain rfl | hn := Nat.eq_zero_or_pos n
  · cases h
  · exact toDigits_ne_zero_cons hn _ h

namespace Scalar

theorem readDigits_decimal (n : Nat) : readDigits Char.isDigit (decimal n) = some (decimal n) := by
  have hdigits : (decimal n).all Char.isDigit = true :=
    List.all_eq_true.2 fun c hc => isDigit_of_mem_decimal hc
  have hne : (decimal n).isEmpty = false := List.isEmpty_eq_false_iff.2 Nat.toDigits_ne_nil
  have hgroups : segments '_' (decimal n) = [decimal n] :=
    segments_eq_singleton Nat.underscore_not_in_toDigits
  simp [readDigits, hgroups, hdigits, hne]

theorem readWhole_decimal (n : Nat) : readWhole (decimal n) = some (decimal n) := by
  unfold readWhole
  split
  next c s heq => exact absurd heq (decimal_ne_zero_cons n c s)
  next => exact readDigits_decimal n

/-- A decimal digit has the same value among the hexadecimal ones. -/
theorem hexValue?_of_isDigit (h : c.isDigit = true) : hexValue? c = some (c.toNat - 48) := by
  simp only [Char.isDigit, Bool.and_eq_true, decide_eq_true_eq] at h
  have hrange : 48 ≤ c.toNat ∧ c.toNat ≤ 57 := h
  rw [hexValue?]
  exact if_pos hrange

theorem valueOf_decimal (n : Nat) : valueOf 10 (decimal n) = n := by
  have hvalue : valueOf 10 (decimal n) = Nat.ofDigitChars 10 (decimal n) 0 := by
    rw [valueOf, Nat.ofDigitChars_eq_foldl]
    refine List.foldl_ext _ _ _ fun k c hc => ?_
    rw [hexValue?_of_isDigit (isDigit_of_mem_decimal hc)]
    rfl
  rw [hvalue]
  exact Nat.ofDigitChars_ten_toDigits

/-- A number in decimal has no letter after its first zero. -/
theorem readBased_decimal (n : Nat) : readBased (decimal n) = none := by
  unfold readBased
  split
  next s heq => exact absurd heq (decimal_ne_zero_cons n 'x' s)
  next s heq => exact absurd heq (decimal_ne_zero_cons n 'o' s)
  next s heq => exact absurd heq (decimal_ne_zero_cons n 'b' s)
  next => rfl

theorem splitSign_decimal (n : Nat) : splitSign (decimal n) = (false, decimal n) := by
  have hnot : ∀ c s, c.isDigit = false → decimal n ≠ c :: s := by
    intro c s hc h
    rw [isDigit_of_mem_decimal (h ▸ List.mem_cons_self)] at hc
    cases hc
  unfold splitSign
  split
  next s heq => exact absurd heq (hnot '-' s rfl)
  next s heq => exact absurd heq (hnot '+' s rfl)
  next => rfl

theorem readInteger_decimal (hn : n ≤ 9223372036854775807) :
    readInteger (decimal n) = some (n : Int) := by
  simp only [readInteger, readBased_decimal, splitSign_decimal, readWhole_decimal, Option.map_some,
    valueOf_decimal, Bool.false_eq_true, if_false, Option.filter_eq_some_iff, Bool.and_eq_true,
    decide_eq_true_eq, true_and]
  omega

theorem ofRun?_decimal (hn : n ≤ 9223372036854775807) :
    ofRun? (decimal n) = some (.integer n) := by
  have hword : ∀ w : String, w.toList.all Char.isDigit = false → decimal n ≠ w.toList := by
    intro w hw h
    rw [← h, List.all_eq_true.2 fun c hc => isDigit_of_mem_decimal hc] at hw
    cases hw
  rw [ofRun?, if_neg (hword "true" rfl), if_neg (hword "false" rfl), readInteger_decimal hn]

/-- A number is read up to the end of its line. -/
theorem read_decimal (hn : n ≤ 9223372036854775807) (rest : List Char) :
    read (decimal n ++ '\n' :: rest) = some (.integer n, '\n' :: rest) := by
  have hrun : ∀ c ∈ decimal n, isScalarChar c = true := by
    intro c hc
    simp [isScalarChar, Char.isAlphanum, isDigit_of_mem_decimal hc]
  have hspan : spanRun (decimal n ++ '\n' :: rest) = (decimal n, '\n' :: rest) := by
    rw [spanRun, span_append hrun (by decide)]
    dsimp only
    split
    next heq => cases heq
    next => rfl
  simp only [read, hspan, ofRun?_decimal hn, Option.map_some]

end Scalar

/-! ## What is written -/

/- Of all that TOML has, a configuration is written with integers and texts, one to a line, under
headers of their own.  Only these are followed from the writer to the reader. -/

/-- A value that stands on a line. -/
inductive Item where
  | integer (n : Nat)
  | text (s : String)
  deriving DecidableEq, Repr

namespace Item

def chars : Item → List Char
  | integer n => decimal n
  | text s => Writer.text s.toList

def value : Item → Value
  | integer n => .integer n
  | text s => .string s

/-- Integers of a document have 64 bits with a sign. -/
def Fits : Item → Prop
  | integer n => n ≤ 9223372036854775807
  | text _ => True

end Item

/-- A table under a header of its own: the names on the way to it, its own, and what is in it. -/
structure Section where
  path : List String
  key : String
  items : List (String × Item)

/-- What items are read as, apart from their places. -/
def said (items : List (String × Item)) : List (String × Value) :=
  items.map fun item => (item.1, item.2.value)

/-- The line of a key and its value. -/
def itemLine (item : String × Item) : List Char := Writer.entry item.1.toList item.2.chars

def Section.chars (t : Section) : List Char :=
  Writer.header ((t.path ++ [t.key]).map String.toList) ++ t.items.flatMap itemLine

/-! ## Values -/

/-- A text begins with a quote. -/
theorem exists_head_text (s : List Char) :
    ∃ c t, Writer.text s = c :: t ∧ (c = '"' ∨ c = '\'') := by
  rw [Writer.text]
  split_ifs
  · exact ⟨'"', _, rfl, .inl rfl⟩
  · exact ⟨'\'', _, rfl, .inr rfl⟩
  · exact ⟨'"', _, rfl, .inl rfl⟩
  · exact ⟨'\'', _, rfl, .inr rfl⟩
  · exact ⟨'"', _, rfl, .inl rfl⟩
  · exact ⟨'"', _, rfl, .inl rfl⟩

theorem readValue_quoted (size depth : Nat) {c : Char} (hc : c = '"' ∨ c = '\'') (s : List Char) :
    readValue size depth (c :: s) =
      (Quote.read (c :: s)).map fun (text, rest) => (.string (String.ofList text), rest) := by
  obtain rfl | rfl := hc <;> cases depth <;> rfl

theorem readValue_of_isDigit (size depth : Nat) {c : Char} (hc : c.isDigit = true)
    (s : List Char) : readValue size depth (c :: s) = Scalar.read (c :: s) := by
  cases depth <;> unfold readValue <;> split <;> first | rfl | (next heq => cases heq; cases hc)

/-- A value is read up to the end of its line. -/
theorem readValue_chars (size depth : Nat) {item : Item} (hfits : item.Fits) (rest : List Char) :
    readValue size depth (item.chars ++ '\n' :: rest) = some (item.value, '\n' :: rest) := by
  cases item with
  | integer n =>
      obtain ⟨c, t, hct, hdigit⟩ := exists_head_decimal n
      have hread := Scalar.read_decimal hfits rest
      rw [hct, List.cons_append] at hread
      rw [Item.chars, hct, List.cons_append, readValue_of_isDigit size depth hdigit, hread]
      rfl
  | text s =>
      obtain ⟨c, t, hct, hc⟩ := exists_head_text s.toList
      have hread : Quote.read (Writer.text s.toList ++ '\n' :: rest) =
          some (s.toList, '\n' :: rest) := read_text s.toList (by simp) (by simp)
      rw [hct, List.cons_append] at hread
      rw [Item.chars, hct, List.cons_append, readValue_quoted size depth hc, hread]
      simp only [Option.map_some, String.ofList_toList, Item.value]

/-! ## Keys -/

theorem dropSpaces_cons (hspace : c ≠ ' ') (htab : c ≠ '\t') : dropSpaces (c :: s) = c :: s := by
  simp [dropSpaces, hspace, htab]

theorem dropSpaces_space (s : List Char) : dropSpaces (' ' :: s) = dropSpaces s := rfl

theorem dropSpaces_key (name rest : List Char) :
    dropSpaces (Writer.key name ++ rest) = Writer.key name ++ rest := by
  obtain ⟨c, t, heq, hc⟩ := exists_head_key name
  rw [heq, List.cons_append, dropSpaces_cons (hc.ne (by decide)) (hc.ne (by decide))]

theorem dropSpaces_chars (item : Item) (rest : List Char) :
    dropSpaces (item.chars ++ rest) = item.chars ++ rest := by
  obtain ⟨c, t, heq, hspace, htab⟩ : ∃ c t, item.chars = c :: t ∧ c ≠ ' ' ∧ c ≠ '\t' := by
    cases item with
    | integer n =>
        obtain ⟨c, t, heq, hdigit⟩ := exists_head_decimal n
        refine ⟨c, t, heq, ?_, ?_⟩ <;> rintro rfl <;> cases hdigit
    | text s =>
        obtain ⟨c, t, heq, rfl | rfl⟩ := exists_head_text s.toList
        · exact ⟨'"', t, heq, by decide, by decide⟩
        · exact ⟨'\'', t, heq, by decide, by decide⟩
  rw [heq, List.cons_append, dropSpaces_cons hspace htab]

/-- A part of a key is read up to the character after it. -/
theorem readKeyPart_key (name : String) (hc : isBareKeyChar c = false) (rest : List Char) :
    ∃ stretch, readKeyPart (Writer.key name.toList ++ c :: rest) =
      some (⟨name, stretch⟩, c :: rest) := by
  refine ⟨some ⟨Writer.key name.toList ++ c :: rest, c :: rest⟩, ?_⟩
  simp only [readKeyPart, readKeyText_key name.toList hc rest, Option.map_some,
    String.ofList_toList]

/-- The parts of a key with dots between them. -/
def dotted (path : List String) (key : String) : List Char :=
  List.intercalate ['.'] ((path ++ [key]).map fun name => Writer.key name.toList)

theorem dotted_cons (name : String) (path : List String) (key : String) :
    dotted (name :: path) key = Writer.key name.toList ++ '.' :: dotted path key := by
  obtain ⟨first, others, h⟩ :=
    List.exists_cons_of_ne_nil (List.append_ne_nil_of_right_ne_nil path (List.cons_ne_nil key []))
  rw [dotted, dotted, List.cons_append, h]
  simp [List.intercalate]

theorem dotted_nil (key : String) : dotted [] key = Writer.key key.toList := by
  simp [dotted, List.intercalate]

theorem exists_head_dotted (path : List String) (key : String) :
    ∃ c t, dotted path key = c :: t ∧ BeginsKey c := by
  cases path with
  | nil =>
      rw [dotted_nil]
      exact exists_head_key key.toList
  | cons name path =>
      obtain ⟨c, t, heq, hc⟩ := exists_head_key name.toList
      exact ⟨c, t ++ '.' :: dotted path key, by rw [dotted_cons, heq, List.cons_append], hc⟩

/-- A key of not too many parts is read up to what follows it, which is no dot. -/
theorem readKeyWithin_dotted (path : List String) (key : String) {fuel : Nat}
    (hfuel : path.length < fuel) (hc : isBareKeyChar c = false) {d : Char}
    (hrest : dropSpaces (c :: rest) = d :: s) (hd : d ≠ '.') :
    ∃ parts last, parts.map (·.value) = path ∧ last.value = key ∧
      readKeyWithin fuel (dotted path key ++ c :: rest) = some (parts, last, d :: s) := by
  induction path generalizing fuel with
  | nil =>
      obtain ⟨fuel, rfl⟩ := Nat.exists_eq_succ_of_ne_zero (Nat.ne_of_gt hfuel)
      obtain ⟨stretch, hpart⟩ := readKeyPart_key key hc rest
      refine ⟨[], ⟨key, stretch⟩, rfl, rfl, ?_⟩
      rw [dotted_nil, readKeyWithin, dropSpaces_key, hpart]
      simp only [hrest]
      split
      next heq => exact absurd (List.cons.inj heq).1 hd
      next => rfl
  | cons name path ih =>
      obtain ⟨fuel, rfl⟩ := Nat.exists_eq_succ_of_ne_zero (Nat.ne_zero_of_lt hfuel)
      obtain ⟨parts, last, hparts, hlast, hread⟩ := ih (Nat.succ_lt_succ_iff.1 hfuel)
      obtain ⟨stretch, hpart⟩ :=
        readKeyPart_key name (c := '.') rfl (dotted path key ++ c :: rest)
      refine ⟨⟨name, stretch⟩ :: parts, last, by rw [List.map_cons, hparts], hlast, ?_⟩
      rw [dotted_cons, List.append_assoc, List.cons_append, readKeyWithin, dropSpaces_key, hpart]
      simp only [dropSpaces_cons (c := '.') (by decide) (by decide), hread, Option.map_some]

/-! ## Lines -/

theorem lineEnd?_newline (rest : List Char) : lineEnd? ('\n' :: rest) = some rest := rfl

/-- The line of a key and its value is read as just that. -/
theorem readPair_itemLine (size : Nat) {item : String × Item} (hfits : item.2.Fits)
    (rest : List Char) :
    ∃ a b, readPair (readValue size deepestNesting) (itemLine item ++ rest) =
      some (⟨[], ⟨item.1, a⟩, ⟨item.2.value, b⟩⟩, '\n' :: rest) := by
  have hone : ([] : List String).length < mostKeyParts := by decide
  have hequals : dropSpaces (' ' :: '=' :: ' ' :: (item.2.chars ++ '\n' :: rest)) =
      '=' :: ' ' :: (item.2.chars ++ '\n' :: rest) := rfl
  obtain ⟨parts, last, hparts, hlast, hkey⟩ :=
    readKeyWithin_dotted [] item.1 hone rfl hequals (by decide)
  obtain rfl := List.map_eq_nil_iff.1 hparts
  obtain ⟨key, a⟩ := last
  obtain rfl := hlast
  have hline : itemLine item ++ rest =
      dotted [] item.1 ++ ' ' :: '=' :: ' ' :: (item.2.chars ++ '\n' :: rest) := by
    simp [itemLine, Writer.entry, dotted_nil]
  have hvalue : dropSpaces (' ' :: (item.2.chars ++ '\n' :: rest)) =
      item.2.chars ++ '\n' :: rest := by
    rw [dropSpaces_space, dropSpaces_chars]
  refine ⟨a, some ⟨item.2.chars ++ '\n' :: rest, '\n' :: rest⟩, ?_⟩
  rw [hline, readPair, readKey, hkey]
  simp only [readPlaced, hvalue, readValue_chars size deepestNesting hfits, Option.map_some]

theorem exists_head_itemLine (item : String × Item) :
    ∃ c t, itemLine item = c :: t ∧ BeginsKey c := by
  obtain ⟨c, t, heq, hc⟩ := exists_head_key item.1.toList
  exact ⟨c, t ++ [' ', '=', ' '] ++ item.2.chars ++ ['\n'],
    by rw [itemLine, Writer.entry, heq]; rfl, hc⟩

theorem header_eq (t : Section) :
    Writer.header ((t.path ++ [t.key]).map String.toList) =
      '[' :: dotted t.path t.key ++ [']', '\n'] := by
  simp [Writer.header, dotted, Function.comp_def]

theorem exists_head_chars (t : Section) : ∃ s, t.chars = '[' :: s := by
  rw [Section.chars, header_eq]
  exact ⟨_, rfl⟩

/-- A header is read as just that. -/
theorem readStatement_header (size : Nat) (t : Section) (hpath : t.path.length < mostKeyParts)
    (rest : List Char) :
    ∃ path key stretch, path.map (·.value) = t.path ∧ key.value = t.key ∧
      readStatement size (Writer.header ((t.path ++ [t.key]).map String.toList) ++ rest) =
        some (.header path key stretch, rest) := by
  have hend : dropSpaces (']' :: '\n' :: rest) = ']' :: '\n' :: rest := rfl
  obtain ⟨path, key, hvalues, hkey, hread⟩ :=
    readKeyWithin_dotted t.path t.key hpath rfl hend (by decide)
  obtain ⟨c, s, hhead, hc⟩ := exists_head_dotted t.path t.key
  have hbracket : c ≠ '[' := hc.ne (by decide)
  refine ⟨path, key, ⟨'[' :: (dotted t.path t.key ++ ']' :: '\n' :: rest), '\n' :: rest⟩, hvalues,
    hkey, ?_⟩
  have hline : '[' :: dotted t.path t.key ++ [']', '\n'] ++ rest =
      '[' :: (dotted t.path t.key ++ ']' :: '\n' :: rest) := by
    simp
  rw [header_eq, hline, readStatement, List.head?_cons, if_pos rfl]
  rw [hhead, List.cons_append] at hread ⊢
  unfold readHeader
  split
  next heq => exact absurd (List.cons.inj (List.cons.inj heq).2).1 hbracket
  next r _ heq =>
    obtain rfl := (List.cons.inj heq).2
    simp only [readKey, hread, lineEnd?_newline, Option.map_some]
  next hnot => exact absurd rfl (hnot _)

/-- A line of a key is read as an entry. -/
theorem readStatement_itemLine (size : Nat) {item : String × Item} (hfits : item.2.Fits)
    (rest : List Char) :
    ∃ a b, readStatement size (itemLine item ++ rest) =
      some (.entry ⟨[], ⟨item.1, a⟩, ⟨item.2.value, b⟩⟩, rest) := by
  obtain ⟨a, b, hpair⟩ := readPair_itemLine size hfits rest
  obtain ⟨c, s, hhead, hc⟩ := exists_head_itemLine item
  have hbracket : c ≠ '[' := hc.ne (by decide)
  refine ⟨a, b, ?_⟩
  rw [readStatement, if_neg (by simpa [hhead] using hbracket), hpair]
  simp only [lineEnd?_newline, Option.map_some]

/-! ## What is read -/

/-- A section as it is read. -/
structure Block where
  path : List (Placed String)
  key : Placed String
  stretch : Stretch
  entries : Entries

/-- Keys and values, wherever they stand. -/
def plain (t : Entries) : List (String × Value) := t.map fun (key, v) => (key.value, v.value)

/-- The statement of a key and its value. -/
def entryOf (entry : Placed String × Placed Value) : Statement := .entry ⟨[], entry.1, entry.2⟩

def Block.statements (b : Block) : List Statement :=
  .header b.path b.key b.stretch :: b.entries.map entryOf

/-- What is read of a section is what was written. -/
structure Says (t : Section) (b : Block) : Prop where
  path : b.path.map (·.value) = t.path
  key : b.key.value = t.key
  entries : plain b.entries = said t.items

/-- The numbers of a section fit into a document, and its path is not too long. -/
structure Section.Fits (t : Section) : Prop where
  path : t.path.length < mostKeyParts
  items : ∀ item ∈ t.items, item.2.Fits

/-! ## Documents -/

/-- A text is read as certain statements by a reader that takes as many lines as there are
characters, or more. -/
def Reads (size : Nat) (s : List Char) (statements : List Statement) : Prop :=
  ∀ fuel, s.length ≤ fuel → readStatements size fuel s = some statements

namespace Reads

variable {size : Nat} {statements : List Statement}

theorem nil (size : Nat) : Reads size [] [] := by
  intro fuel _
  cases fuel <;> rfl

/-- An empty line says nothing. -/
theorem newline (h : Reads size s statements) : Reads size ('\n' :: s) statements := by
  intro fuel hfuel
  obtain ⟨fuel, rfl⟩ := Nat.exists_eq_succ_of_ne_zero (Nat.ne_zero_of_lt hfuel)
  exact h fuel (Nat.succ_le_succ_iff.1 hfuel)

/-- A line with a statement, before what follows it. -/
theorem line {line : List Char} {statement : Statement} (hc : c = '[' ∨ BeginsKey c)
    (hline : ∃ t, line = c :: t) (hread : readStatement size (line ++ s) = some (statement, s))
    (h : Reads size s statements) :
    Reads size (line ++ s) (statement :: statements) := by
  intro fuel hfuel
  obtain ⟨t, rfl⟩ := hline
  rw [List.cons_append] at hfuel hread ⊢
  obtain ⟨fuel, rfl⟩ := Nat.exists_eq_succ_of_ne_zero (Nat.ne_zero_of_lt hfuel)
  obtain ⟨hspace, htab, hcomment, hline, hreturn⟩ :
      c ≠ ' ' ∧ c ≠ '\t' ∧ c ≠ '#' ∧ c ≠ '\n' ∧ c ≠ '\r' := by
    obtain rfl | hc := hc
    · decide
    · exact ⟨hc.ne (by decide), hc.ne (by decide), hc.ne (by decide), hc.ne (by decide),
        hc.ne (by decide)⟩
  have hnewline : Quote.newline? (c :: (t ++ s)) = none :=
    Quote.newline?_eq_none (by simpa using hline) (by simpa using hreturn)
  have hfuel' : s.length ≤ fuel := by
    simp only [List.length_cons, List.length_append] at hfuel
    omega
  rw [readStatements, dropSpaces_cons hspace htab]
  split
  next heq => cases heq
  next heq => exact absurd (List.cons.inj heq).1 hcomment
  next => simp only [hnewline, hread, h fuel hfuel', Option.map_some]

theorem items (h : Reads size s statements) {items : List (String × Item)}
    (hfits : ∀ item ∈ items, item.2.Fits) :
    ∃ entries : Entries, plain entries = said items ∧
      Reads size (items.flatMap itemLine ++ s) (entries.map entryOf ++ statements) := by
  induction items with
  | nil => exact ⟨[], rfl, h⟩
  | cons item items ih =>
      rw [List.forall_mem_cons] at hfits
      obtain ⟨entries, hentries, hreads⟩ := ih hfits.2
      obtain ⟨a, b, hread⟩ := readStatement_itemLine size hfits.1 (items.flatMap itemLine ++ s)
      obtain ⟨c, t, hhead, hc⟩ := exists_head_itemLine item
      refine ⟨(⟨item.1, a⟩, ⟨item.2.value, b⟩) :: entries, ?_, ?_⟩
      · exact congrArg ((item.1, item.2.value) :: ·) hentries
      · rw [List.flatMap_cons, List.append_assoc]
        exact line (.inr hc) ⟨t, hhead⟩ hread hreads

/-- A section is read before what follows it. -/
theorem block (h : Reads size s statements) {t : Section} (hfits : t.Fits) :
    ∃ b, Says t b ∧ Reads size (t.chars ++ s) (b.statements ++ statements) := by
  obtain ⟨entries, hentries, hreads⟩ := h.items hfits.items
  obtain ⟨path, key, stretch, hpath, hkey, hread⟩ :=
    readStatement_header size t hfits.path (t.items.flatMap itemLine ++ s)
  refine ⟨⟨path, key, stretch, entries⟩, ⟨hpath, hkey, hentries⟩, ?_⟩
  rw [Section.chars, List.append_assoc]
  exact line (.inl rfl) ⟨_, header_eq t⟩ hread hreads

end Reads

/-- The sections of a document, with empty lines between them. -/
def documentOf (sections : List Section) : List Char :=
  List.intercalate ['\n'] (sections.map Section.chars)

/-- A document is read section by section. -/
theorem reads_documentOf (size : Nat) {sections : List Section} (hfits : ∀ t ∈ sections, t.Fits) :
    ∃ blocks, List.Forall₂ Says sections blocks ∧
      Reads size (documentOf sections) (blocks.flatMap Block.statements) := by
  induction sections with
  | nil => exact ⟨[], .nil, .nil size⟩
  | cons t sections ih =>
      rw [List.forall_mem_cons] at hfits
      obtain ⟨blocks, hblocks, hreads⟩ := ih hfits.2
      cases sections with
      | nil =>
          cases hblocks
          obtain ⟨b, hb, hreads⟩ := (Reads.nil size).block hfits.1
          refine ⟨[b], .cons hb .nil, ?_⟩
          simpa [documentOf, List.intercalate] using hreads
      | cons u sections =>
          obtain ⟨b, hb, hreads⟩ := hreads.newline.block hfits.1
          refine ⟨b :: blocks, .cons hb hblocks, ?_⟩
          simpa [documentOf, List.intercalate] using hreads

/-- **A document of sections is read as their statements**, apart from the places where they
stand. -/
theorem read?_documentOf {sections : List Section} (hfits : ∀ t ∈ sections, t.Fits) :
    ∃ blocks, List.Forall₂ Says sections blocks ∧
      read? (String.ofList (documentOf sections)) =
        tableOf? (blocks.flatMap Block.statements) := by
  obtain ⟨blocks, hblocks, hreads⟩ := reads_documentOf (documentOf sections).length hfits
  have hmark : dropMark (documentOf sections) = documentOf sections := by
    cases sections with
    | nil => rfl
    | cons t sections =>
        obtain ⟨s, hs⟩ := exists_head_chars t
        cases sections <;> simp [documentOf, List.intercalate, hs, dropMark]
  refine ⟨blocks, hblocks, ?_⟩
  simp only [read?, String.toList_ofList, hmark, hreads _ (Nat.le_refl _), Option.bind_some]

end DongleLink.Toml
