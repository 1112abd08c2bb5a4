import DongleLink.Proofs.DocumentTables
import Mathlib.Data.List.Nodup

/-!
# DongleLink.Proofs.DistinctKeys

No table of a document has a key twice.

Lines may fill a table in pieces that stand far apart, but each piece adds a key only where it is
not there yet, or puts a value in the place of another.  So whatever text the reader accepts, the
keys of each table in it differ, however deep the table is.
-/

namespace DongleLink.Toml

/- Tables are lists, so that keys stand in the order of the document.  That no key stands twice is
kept by every step of the reader, all the way down. -/

/-- No table in a value has a key twice. -/
inductive Value.Distinct : Value → Prop
  | string (s : String) : Distinct (.string s)
  | integer (i : Int) : Distinct (.integer i)
  | float (x : Binary64) : Distinct (.float x)
  | boolean (b : Bool) : Distinct (.boolean b)
  | moment (m : Moment) : Distinct (.moment m)
  | array {items : List (Placed Value)} (hitems : ∀ item ∈ items, Distinct item.value) :
      Distinct (.array items)
  | table (origin : Origin) {t : Entries} (hkeys : (keys t).Nodup)
      (hvalues : ∀ entry ∈ t, Distinct entry.2.value) : Distinct (.table origin t)
  | tables {items : List (Placed Entries)} (hkeys : ∀ item ∈ items, (keys item.value).Nodup)
      (hvalues : ∀ item ∈ items, ∀ entry ∈ item.value, Distinct entry.2.value) :
      Distinct (.tables items)

namespace Entries

/-- Neither a table nor any table in it has a key twice. -/
structure Distinct (t : Entries) : Prop where
  nodup : (keys t).Nodup
  values : ∀ entry ∈ t, entry.2.value.Distinct

variable {key : String} {t u : Entries} {v : Placed Value}

theorem distinct_table_iff {origin : Origin} :
    (Value.table origin t).Distinct ↔ Distinct t := by
  constructor
  · rintro (_ | _)
    exact ⟨‹_›, ‹_›⟩
  · exact fun h => .table origin h.nodup h.values

theorem distinct_tables_iff {items : List (Placed Entries)} :
    (Value.tables items).Distinct ↔ ∀ item ∈ items, Distinct item.value := by
  constructor
  · intro h
    cases h with
    | tables hkeys hvalues => exact fun item hitem => ⟨hkeys item hitem, hvalues item hitem⟩
  · exact fun h => .tables (fun item hitem => (h item hitem).nodup)
      fun item hitem => (h item hitem).values

theorem distinct_nil : Distinct [] := ⟨List.nodup_nil, by simp⟩

/-! ## Looking up and replacing -/

theorem mem_of_get? (h : get? key t = some v) : ∃ k, k.value = key ∧ (k, v) ∈ t := by
  induction t with
  | nil => cases h
  | cons entry t ih =>
      obtain ⟨k, w⟩ := entry
      rw [get?] at h
      split at h
      next hk =>
        cases h
        exact ⟨k, hk, List.mem_cons_self⟩
      next =>
        obtain ⟨k', hk', hmem⟩ := ih h
        exact ⟨k', hk', List.mem_cons_of_mem _ hmem⟩

theorem get?_of_mem (hnodup : (keys t).Nodup) {entry : Placed String × Placed Value}
    (h : entry ∈ t) : get? entry.1.value t = some entry.2 := by
  induction t with
  | nil => cases h
  | cons first t ih =>
      rw [keys, List.map_cons, List.nodup_cons] at hnodup
      rw [get?]
      obtain rfl | h := List.mem_cons.1 h
      · exact if_pos rfl
      · rw [if_neg, ih hnodup.2 h]
        intro hsame
        exact hnodup.1 (hsame ▸ List.mem_map_of_mem h)

theorem not_mem_keys_of_get? (h : get? key t = none) : key ∉ keys t := by
  induction t with
  | nil => simp [keys]
  | cons entry t ih =>
      obtain ⟨k, w⟩ := entry
      rw [get?] at h
      split at h
      · cases h
      next hk => exact not_mem_keys_cons.2 ⟨hk, ih h⟩

theorem Distinct.of_get? (ht : Distinct t) (h : get? key t = some v) : v.value.Distinct := by
  obtain ⟨k, -, hmem⟩ := mem_of_get? h
  exact ht.values _ hmem

theorem keys_replace (key : String) (v : Placed Value) (t : Entries) :
    keys (replace key v t) = keys t := by
  induction t with
  | nil => rfl
  | cons entry t ih =>
      obtain ⟨k, w⟩ := entry
      rw [replace]
      split
      · rfl
      · exact congrArg (k.value :: ·) ih

theorem mem_replace {entry : Placed String × Placed Value} (h : entry ∈ replace key v t) :
    entry.2 = v ∨ entry ∈ t := by
  induction t with
  | nil => cases h
  | cons first t ih =>
      obtain ⟨k, w⟩ := first
      rw [replace] at h
      split at h
      · obtain rfl | h := List.mem_cons.1 h
        · exact .inl rfl
        · exact .inr (List.mem_cons_of_mem _ h)
      · obtain rfl | h := List.mem_cons.1 h
        · exact .inr List.mem_cons_self
        · exact (ih h).imp_right (List.mem_cons_of_mem _)

theorem Distinct.replace (ht : Distinct t) (hv : v.value.Distinct) (key : String) :
    Distinct (replace key v t) := by
  refine ⟨by rw [keys_replace]; exact ht.nodup, fun entry hentry => ?_⟩
  obtain rfl | hentry := mem_replace hentry
  · exact hv
  · exact ht.values entry hentry

theorem sublist_erase (key : String) (t : Entries) : (erase key t).Sublist t := by
  induction t with
  | nil => exact .slnil
  | cons entry t ih =>
      obtain ⟨k, w⟩ := entry
      rw [erase]
      split
      · exact .cons _ (.refl t)
      · exact .cons_cons _ ih

theorem Distinct.erase (ht : Distinct t) (key : String) : Distinct (erase key t) :=
  ⟨ht.nodup.sublist ((sublist_erase key t).map _),
    fun entry hentry => ht.values entry ((sublist_erase key t).subset hentry)⟩

/-- A key that is not there yet, at the end. -/
theorem Distinct.concat {key : Placed String} (ht : Distinct t) (hnew : get? key.value t = none)
    (hv : v.value.Distinct) : Distinct (t ++ [(key, v)]) := by
  refine ⟨?_, ?_⟩
  · rw [keys_append]
    exact List.Nodup.append ht.nodup (List.nodup_singleton _)
      (List.disjoint_singleton.2 (not_mem_keys_of_get? hnew))
  · intro entry hentry
    obtain hentry | hentry := List.mem_append.1 hentry
    · exact ht.values entry hentry
    · obtain rfl := List.mem_singleton.1 hentry
      exact hv

theorem Distinct.addNew {key : Placed String} (ht : Distinct t) (hv : v.value.Distinct)
    (h : addNew key v t = some u) : Distinct u := by
  rw [Entries.addNew] at h
  split at h
  · cases h
  next hnew =>
    cases h
    exact ht.concat hnew hv

/-! ## Going down a path -/

/-- What holds of all members, and of what the last becomes, holds of all members after. -/
theorem forall_mem_of_onLast {α : Type} {P : α → Prop} {f : α → Option α}
    (hf : ∀ x y, P x → f x = some y → P y) {xs ys : List α} (hxs : ∀ x ∈ xs, P x)
    (h : onLast f xs = some ys) : ∀ y ∈ ys, P y := by
  induction xs using onLast.induct generalizing ys with
  | case1 => cases h
  | case2 x =>
      obtain ⟨y, hy, rfl⟩ := Option.map_eq_some_iff.1 h
      simpa using hf x y (hxs x (by simp)) hy
  | case3 x y rest ih =>
      obtain ⟨zs, hzs, rfl⟩ := Option.map_eq_some_iff.1 h
      rw [List.forall_mem_cons] at hxs ⊢
      exact ⟨hxs.1, ih hxs.2 hzs⟩

/-- The table at the end of a path is changed, and all on the way are put back in their places. -/
theorem Distinct.update {dottedKeys : Bool} {f : Origin → Entries → Option Entries}
    (hf : ∀ origin t u, Distinct t → f origin t = some u → Distinct u)
    {path : List (Placed String)} {origin : Origin} (ht : Distinct t)
    (h : update dottedKeys f path origin t = some u) : Distinct u := by
  induction path generalizing origin t u with
  | nil => exact hf origin t u ht h
  | cons key path ih =>
      rw [Entries.update] at h
      split at h
      next hnew =>
        obtain ⟨inner, hinner, rfl⟩ := Option.map_eq_some_iff.1 h
        exact ht.concat hnew (distinct_table_iff.2 (ih distinct_nil hinner))
      next stretch o inner hget =>
        split at h
        · cases h
        · obtain ⟨inner', hinner, rfl⟩ := Option.map_eq_some_iff.1 h
          have hbefore := distinct_table_iff.1 (ht.of_get? hget)
          exact ht.replace (distinct_table_iff.2 (ih hbefore hinner)) key.value
      next stretch items hget =>
        obtain ⟨items', hitems, rfl⟩ := Option.map_eq_some_iff.1 h
        refine ht.replace (distinct_tables_iff.2 (forall_mem_of_onLast ?_
          (distinct_tables_iff.1 (ht.of_get? hget)) hitems)) key.value
        intro item item' hitem hupdate
        obtain ⟨inner, hinner, rfl⟩ := Option.map_eq_some_iff.1 hupdate
        exact ih hitem hinner
      next => cases h

theorem Distinct.addDotted {path : List (Placed String)} {key : Placed String} (ht : Distinct t)
    (hv : v.value.Distinct) (h : addDotted path key v t = some u) : Distinct u := by
  refine ht.update ?_ h
  intro origin t u ht hadd
  split at hadd
  · exact ht.addNew hv hadd
  · cases hadd

/-! ## Putting lines together -/

/-- What every step keeps, started from what it holds of, holds at the end. -/
theorem foldlM_keeps {α β : Type} {P : β → Prop} {f : β → α → Option β} {xs : List α}
    (hf : ∀ b, P b → ∀ x ∈ xs, ∀ c, f b x = some c → P c) {b c : β} (hb : P b)
    (h : xs.foldlM f b = some c) : P c := by
  induction xs generalizing b with
  | nil =>
      cases h
      exact hb
  | cons x xs ih =>
      rw [List.foldlM_cons] at h
      obtain ⟨d, hd, hrest⟩ := Option.bind_eq_some_iff.1 h
      exact ih (fun b hb x hx => hf b hb x (List.mem_cons_of_mem _ hx))
        (hf b hb x List.mem_cons_self d hd) hrest

theorem distinct_inlineTable? {pairs : List Pair} {v : Value}
    (hpairs : ∀ pair ∈ pairs, pair.value.value.Distinct) (h : inlineTable? pairs = some v) :
    v.Distinct := by
  obtain ⟨t, ht, rfl⟩ := Option.map_eq_some_iff.1 h
  exact distinct_table_iff.2 (foldlM_keeps
    (fun t ht pair hpair u hu => ht.addDotted (hpairs pair hpair) hu) distinct_nil ht)

end Entries

namespace Draft

open Entries

/-- Neither the finished tables nor the one being filled have a key twice. -/
structure Distinct (d : Draft) : Prop where
  finished : Entries.Distinct d.finished
  current : Entries.Distinct d.current.value

variable {d e : Draft} {t inner : Entries}

theorem Distinct.finish (hd : d.Distinct) (h : d.finish = some t) : Entries.Distinct t := by
  rw [Draft.finish] at h
  split at h
  · cases h
    exact hd.current
  · exact hd.finished.update
      (fun _ t u ht hadd => ht.addNew (distinct_table_iff.2 hd.current) hadd) h
  next path key _ =>
    refine hd.finished.update (fun _ t u ht hadd => ?_) h
    split at hadd
    next hnew =>
      cases hadd
      exact ht.concat hnew (distinct_tables_iff.2 (by simpa using hd.current))
    next items stretch hget =>
      cases hadd
      refine ht.replace (distinct_tables_iff.2 fun item hitem => ?_) key.value
      obtain hitem | hitem := List.mem_append.1 hitem
      · exact distinct_tables_iff.1 (ht.of_get? hget) item hitem
      · obtain rfl := List.mem_singleton.1 hitem
        exact hd.current
    next => cases hadd

theorem distinct_inner? {path : List (Placed String)} (ht : Entries.Distinct t)
    (h : inner? path t = some inner) : Entries.Distinct inner := by
  induction path generalizing t with
  | nil =>
      cases h
      exact ht
  | cons key path ih =>
      rw [inner?] at h
      split at h
      · cases h
        exact distinct_nil
      · cases h
      next hget => exact ih (distinct_table_iff.1 (ht.of_get? hget)) h
      next items stretch hget =>
        obtain ⟨item, hitem, hinner⟩ := Option.bind_eq_some_iff.1 h
        exact ih (distinct_tables_iff.1 (ht.of_get? hget) item (List.mem_of_getLast? hitem)) hinner
      next => cases h

theorem distinct_reopened {key : String} (ht : Entries.Distinct t)
    (h : reopened key t = some inner) : Entries.Distinct inner := by
  rw [reopened] at h
  split at h
  · cases h
    exact distinct_nil
  next hget =>
    cases h
    exact distinct_table_iff.1 (ht.of_get? hget)
  · cases h

@[simp] theorem value_grown (current : Placed Entries) (v : Placed Value) (t : Entries) :
    (grown current v t).value = t := by
  rw [grown]
  split <;> rfl

end Draft

/-- The value of a statement, if it has one, has no table with a key twice. -/
def Statement.Distinct : Statement → Prop
  | header _ _ _ | arrayHeader _ _ _ => True
  | entry pair => pair.value.value.Distinct

namespace Draft

open Entries

variable {d e : Draft} {t : Entries}

theorem Distinct.add {statement : Statement} (hd : d.Distinct) (hstatement : statement.Distinct)
    (h : d.add statement = some e) : e.Distinct := by
  cases statement with
  | entry pair =>
      obtain ⟨t, ht, rfl⟩ := Option.map_eq_some_iff.1 h
      exact ⟨hd.finished, by simpa using hd.current.addDotted hstatement ht⟩
  | header path key stretch =>
      simp only [Draft.add] at h
      split at h
      · cases h
      next t hfinish =>
        have ht := hd.finish hfinish
        split at h
        · cases h
        next current hcurrent =>
          obtain ⟨inner, hinner, hreopened⟩ := Option.bind_eq_some_iff.1 hcurrent
          obtain ⟨u, hu, rfl⟩ := Option.map_eq_some_iff.1 h
          refine ⟨ht.update ?_ hu, distinct_reopened (distinct_inner? ht hinner) hreopened⟩
          intro _ w x hw heq
          cases heq
          exact hw.erase key.value
  | arrayHeader path key stretch =>
      simp only [Draft.add] at h
      split at h
      · cases h
      next t hfinish =>
        have ht := hd.finish hfinish
        split at h
        · obtain ⟨u, hu, rfl⟩ := Option.map_eq_some_iff.1 h
          refine ⟨ht.update ?_ hu, distinct_nil⟩
          intro _ w x hw heq
          cases heq
          exact hw
        · obtain ⟨u, hu, rfl⟩ := Option.map_eq_some_iff.1 h
          refine ⟨ht.update ?_ hu, distinct_nil⟩
          intro _ w x hw heq
          cases heq
          exact hw
        · cases h

end Draft

theorem distinct_tableOf? {statements : List Statement} {t : Entries}
    (hstatements : ∀ statement ∈ statements, statement.Distinct)
    (h : tableOf? statements = some t) : Entries.Distinct t := by
  obtain ⟨d, hd, hfinish⟩ := Option.bind_eq_some_iff.1 h
  have hall : d.Distinct := Entries.foldlM_keeps
    (fun d hd statement hmem e he => hd.add (hstatements statement hmem) he)
    ⟨Entries.distinct_nil, Entries.distinct_nil⟩ hd
  exact hall.finish hfinish

/-! ## Reading -/

section readers

variable {value : ValueReader} {s rest : List Char} {v : Value}

/-- What a reader of values reads has no table with a key twice. -/
def ReadsDistinct (value : ValueReader) : Prop :=
  ∀ s v rest, value s = some (v, rest) → v.Distinct

theorem ReadsDistinct.placed {v : Placed Value} (hvalue : ReadsDistinct value)
    (h : readPlaced value s = some (v, rest)) : v.value.Distinct := by
  obtain ⟨⟨w, next⟩, hread, heq⟩ := Option.map_eq_some_iff.1 h
  cases heq
  exact hvalue s w _ hread

theorem ReadsDistinct.items {fuel : Nat} {items : List (Placed Value)}
    (hvalue : ReadsDistinct value) (h : readItems value fuel s = some (items, rest)) :
    ∀ item ∈ items, item.value.Distinct := by
  induction fuel generalizing s items with
  | zero => cases h
  | succ fuel ih =>
      rw [readItems] at h
      split at h
      · cases h
        simp
      split at h
      · cases h
      next item r hitem =>
        split at h
        · cases h
          simpa using hvalue.placed hitem
        · obtain ⟨⟨others, r⟩, hothers, heq⟩ := Option.map_eq_some_iff.1 h
          cases heq
          exact List.forall_mem_cons.2 ⟨hvalue.placed hitem, ih hothers⟩
        · cases h

theorem ReadsDistinct.pair {pair : Pair} (hvalue : ReadsDistinct value)
    (h : readPair value s = some (pair, rest)) : pair.value.value.Distinct := by
  rw [readPair] at h
  split at h
  · obtain ⟨⟨w, r⟩, hread, heq⟩ := Option.map_eq_some_iff.1 h
    cases heq
    exact hvalue.placed hread
  · cases h

theorem ReadsDistinct.pairs {fuel : Nat} {pairs : List Pair} (hvalue : ReadsDistinct value)
    (h : readPairs value fuel s = some (pairs, rest)) :
    ∀ pair ∈ pairs, pair.value.value.Distinct := by
  induction fuel generalizing s pairs with
  | zero => cases h
  | succ fuel ih =>
      rw [readPairs] at h
      split at h
      · cases h
      next pair r hpair =>
        split at h
        · cases h
          simpa using hvalue.pair hpair
        · obtain ⟨⟨others, r⟩, hothers, heq⟩ := Option.map_eq_some_iff.1 h
          cases heq
          exact List.forall_mem_cons.2 ⟨hvalue.pair hpair, ih hothers⟩
        · cases h

theorem ReadsDistinct.inlineTable {size : Nat} (hvalue : ReadsDistinct value)
    (h : readInlineTable value size s = some (v, rest)) : v.Distinct := by
  rw [readInlineTable] at h
  split at h
  · cases h
    exact Entries.distinct_table_iff.2 Entries.distinct_nil
  · split at h
    · cases h
    next pairs r hpairs =>
      obtain ⟨w, hw, heq⟩ := Option.map_eq_some_iff.1 h
      cases heq
      exact Entries.distinct_inlineTable? (hvalue.pairs hpairs) hw

theorem distinct_of_map_string
    (h : ((Quote.read s).map fun (text, rest) => (Value.string (String.ofList text), rest)) =
      some (v, rest)) : v.Distinct := by
  obtain ⟨⟨text, next⟩, -, heq⟩ := Option.map_eq_some_iff.1 h
  cases heq
  exact .string _

/-- A value without quotes and brackets has no table in it. -/
theorem readsDistinct_scalar : ReadsDistinct Scalar.read := by
  intro s v rest h
  obtain ⟨w, hw, heq⟩ := Option.map_eq_some_iff.1 h
  cases heq
  rw [Scalar.ofRun?] at hw
  split_ifs at hw
  · cases hw
    exact .boolean true
  · cases hw
    exact .boolean false
  split at hw
  · cases hw
    exact .integer _
  split at hw
  · cases hw
    exact .float _
  · obtain ⟨m, -, rfl⟩ := Option.map_eq_some_iff.1 hw
    exact .moment m

theorem readsDistinct_readValue (size depth : Nat) : ReadsDistinct (readValue size depth) := by
  induction depth with
  | zero =>
      intro s v rest h
      unfold readValue at h
      split at h
      · exact distinct_of_map_string h
      · exact distinct_of_map_string h
      · cases h
      · cases h
      · exact readsDistinct_scalar _ _ _ h
  | succ depth ih =>
      intro s v rest h
      unfold readValue at h
      split at h
      · exact distinct_of_map_string h
      · exact distinct_of_map_string h
      · obtain ⟨⟨items, next⟩, hitems, heq⟩ := Option.map_eq_some_iff.1 h
        cases heq
        exact .array (ih.items hitems)
      · exact ih.inlineTable h
      · exact readsDistinct_scalar _ _ _ h

theorem distinct_of_readStatement {size : Nat} {statement : Statement}
    (h : readStatement size s = some (statement, rest)) : statement.Distinct := by
  rw [readStatement] at h
  split at h
  · unfold readHeader at h
    split at h
    · split at h
      · obtain ⟨next, -, heq⟩ := Option.map_eq_some_iff.1 h
        cases heq
        trivial
      · cases h
    · split at h
      · obtain ⟨next, -, heq⟩ := Option.map_eq_some_iff.1 h
        cases heq
        trivial
      · cases h
    · cases h
  · split at h
    · cases h
    next pair r hpair =>
      obtain ⟨next, -, heq⟩ := Option.map_eq_some_iff.1 h
      cases heq
      exact (readsDistinct_readValue size deepestNesting).pair hpair

theorem distinct_of_readStatements {size fuel : Nat} {statements : List Statement}
    (h : readStatements size fuel s = some statements) :
    ∀ statement ∈ statements, statement.Distinct := by
  induction fuel generalizing s statements with
  | zero =>
      rw [readStatements] at h
      split at h
      · cases h
        simp
      · cases h
  | succ fuel ih =>
      rw [readStatements] at h
      split at h
      · cases h
        simp
      · obtain ⟨next, -, hrest⟩ := Option.bind_eq_some_iff.1 h
        exact ih hrest
      · split at h
        · exact ih h
        split at h
        · cases h
        next statement next hstatement =>
          obtain ⟨others, hothers, rfl⟩ := Option.map_eq_some_iff.1 h
          exact List.forall_mem_cons.2 ⟨distinct_of_readStatement hstatement, ih hothers⟩

end readers

/-- **No table of a document has a key twice.** -/
theorem distinct_of_read? {text : String} {t : Entries} (h : read? text = some t) :
    Entries.Distinct t := by
  obtain ⟨statements, hstatements, htable⟩ := Option.bind_eq_some_iff.1 h
  exact distinct_tableOf? (distinct_of_readStatements hstatements) htable

end DongleLink.Toml
