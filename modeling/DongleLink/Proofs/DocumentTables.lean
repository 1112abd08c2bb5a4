import DongleLink.Proofs.DocumentLines

/-!
# DongleLink.Proofs.DocumentTables

The sections of a document, put together.

A draft stands for the table that it would be if it were finished now.  A section whose header is
new adds its table to that one: at its end, or at the end of the table of the section just before
it.  The keys of the section must differ; what they are does not matter.
-/

namespace DongleLink.Toml

variable {key : String} {t : Entries}

/-! ## Tables and their keys -/

/-- The keys of a table. -/
def keys (t : Entries) : List String := t.map (·.1.value)

theorem keys_append (t u : Entries) : keys (t ++ u) = keys t ++ keys u := List.map_append

theorem plain_append (t u : Entries) : plain (t ++ u) = plain t ++ plain u := List.map_append

theorem keys_eq (t : Entries) : keys t = (plain t).map Prod.fst := by
  simp [keys, plain, Function.comp_def]

/-- A table that says one thing first begins with it. -/
theorem exists_of_plain_eq_cons {value : Value} {items : List (String × Value)}
    (h : plain t = (key, value) :: items) :
    ∃ a b u, t = (⟨key, a⟩, ⟨value, b⟩) :: u ∧ plain u = items := by
  obtain ⟨⟨⟨k, a⟩, ⟨v, b⟩⟩, u, rfl, hentry, hu⟩ := List.map_eq_cons_iff.1 h
  obtain ⟨rfl, rfl⟩ := Prod.mk.inj hentry
  exact ⟨a, b, u, rfl, hu⟩

theorem not_mem_keys_cons {entry : Placed String × Placed Value} :
    key ∉ keys (entry :: t) ↔ entry.1.value ≠ key ∧ key ∉ keys t := by
  rw [keys, List.map_cons, List.mem_cons, not_or, ne_comm]
  rfl

/-- The keys of a section are read as they were written. -/
theorem Says.nodup_keys {s : Section} {b : Block} (h : Says s b)
    (hnodup : (s.items.map Prod.fst).Nodup) : (keys b.entries).Nodup := by
  rw [keys_eq, h.entries, said, List.map_map]
  exact hnodup

namespace Entries

theorem get?_append (h : key ∉ keys t) (u : Entries) : get? key (t ++ u) = get? key u := by
  induction t with
  | nil => rfl
  | cons entry t ih =>
      rw [not_mem_keys_cons] at h
      rw [List.cons_append, get?, if_neg h.1, ih h.2]

theorem get?_of_not_mem (h : key ∉ keys t) : get? key t = none := by
  have hget := get?_append h []
  rwa [List.append_nil] at hget

theorem replace_append (h : key ∉ keys t) (value : Placed Value) (u : Entries) :
    replace key value (t ++ u) = t ++ replace key value u := by
  induction t with
  | nil => rfl
  | cons entry t ih =>
      rw [not_mem_keys_cons] at h
      rw [List.cons_append, replace, if_neg h.1, ih h.2, List.cons_append]

theorem erase_of_not_mem (h : key ∉ keys t) : erase key t = t := by
  induction t with
  | nil => rfl
  | cons entry t ih =>
      rw [not_mem_keys_cons] at h
      rw [erase, if_neg h.1, ih h.2]

theorem addNew_of_not_mem {key : Placed String} (h : key.value ∉ keys t) (value : Placed Value) :
    addNew key value t = some (t ++ [(key, value)]) := by
  rw [addNew, get?_of_not_mem h]

/-- A key without dots goes into the table itself. -/
theorem addDotted_nil (key : Placed String) (value : Placed Value) (t : Entries) :
    addDotted [] key value t = addNew key value t := rfl

/-- The table at the end of a table, changed. -/
theorem update_last {above : Placed String} (hnew : above.value ∉ keys t) (a : Option Stretch)
    (inner : Entries) (stretch : Option Stretch) (f : Origin → Entries → Option Entries) :
    update false f [above] .header
        (t ++ [(⟨above.value, a⟩, ⟨.table .header inner, stretch⟩)]) =
      (f .header inner).map fun inner =>
        t ++ [(⟨above.value, a⟩, ⟨.table .header inner, stretch⟩)] := by
  rw [update, get?_append hnew]
  simp only [get?, if_true, update, replace_append hnew, replace]
  simp

end Entries

namespace Draft

open Entries

variable {d : Draft} {statements : List Statement} {b : Block}

/-! ## Filling a table -/

/-- The entries of a section are added to the table being filled. -/
theorem foldlM_entries (d : Draft) {entries : Entries}
    (hnodup : (keys (d.current.value ++ entries)).Nodup) :
    ∃ stretch, (entries.map entryOf).foldlM add d =
      some { d with current := ⟨d.current.value ++ entries, stretch⟩ } := by
  induction entries generalizing d with
  | nil =>
      refine ⟨d.current.stretch, ?_⟩
      rw [List.append_nil]
      rfl
  | cons entry entries ih =>
      obtain ⟨k, v⟩ := entry
      have hnew : k.value ∉ keys d.current.value := by
        rw [keys_append] at hnodup
        exact fun h => (List.nodup_append.1 hnodup).2.2 k.value h k.value List.mem_cons_self rfl
      have hadd : d.add (entryOf (k, v)) =
          some { d with current := grown d.current v (d.current.value ++ [(k, v)]) } := by
        simp only [entryOf, add, addDotted_nil, addNew_of_not_mem hnew, Option.map_some]
      have hvalue : (grown d.current v (d.current.value ++ [(k, v)])).value =
          d.current.value ++ [(k, v)] := by
        rw [grown]
        split <;> rfl
      obtain ⟨stretch, hrest⟩ :=
        ih { d with current := grown d.current v (d.current.value ++ [(k, v)]) }
          (by simpa [hvalue] using hnodup)
      refine ⟨stretch, ?_⟩
      rw [List.map_cons, List.foldlM_cons, hadd]
      simpa [hvalue] using hrest

/-! ## The table that a draft stands for -/

/-- The draft of statements would be finished as a table. -/
def Gives (statements : List Statement) (t : Entries) : Prop :=
  ∃ d, statements.foldlM add {} = some d ∧ d.finish = some t

theorem gives_nil : Gives [] [] := ⟨{}, rfl, rfl⟩

theorem Gives.tableOf? (h : Gives statements t) : tableOf? statements = some t := by
  obtain ⟨d, hd, hfinish⟩ := h
  rw [Toml.tableOf?, hd, Option.bind_some, hfinish]

/-- A section whose header is new, and whose own table can be put where it belongs. -/
theorem Gives.block (h : Gives statements t) (inner : Entries) (v : Option Stretch → Entries)
    (hinner : inner? b.path t = some inner) (hnew : b.key.value ∉ keys inner)
    (hnodup : (keys b.entries).Nodup)
    (herase : Entries.update false (fun _ t => some (erase b.key.value t)) b.path .header t =
      some t)
    (hput : ∀ stretch, Entries.update false
      (fun _ t => addNew b.key ⟨.table .header b.entries, stretch⟩ t) b.path .header t =
        some (v stretch)) :
    ∃ stretch, Gives (statements ++ b.statements) (v stretch) := by
  obtain ⟨d, hd, hfinish⟩ := h
  have hheader : d.add (.header b.path b.key b.stretch) =
      some ⟨t, ⟨[], some b.stretch⟩, .table b.path b.key⟩ := by
    simp only [add, hfinish, hinner, Option.bind_some, reopened, get?_of_not_mem hnew, herase,
      Option.map_some]
  obtain ⟨stretch, hentries⟩ :=
    foldlM_entries ⟨t, ⟨[], some b.stretch⟩, .table b.path b.key⟩ hnodup
  refine ⟨stretch, ⟨t, ⟨b.entries, stretch⟩, .table b.path b.key⟩, ?_, hput stretch⟩
  rw [List.foldlM_append, hd, Block.statements, Option.bind_eq_bind, Option.bind_some,
    List.foldlM_cons, hheader]
  exact hentries

/-- A section at the end of a document. -/
theorem Gives.top (h : Gives statements t) {s : Section} (hb : Says s b) (hpath : s.path = [])
    (hnew : s.key ∉ keys t) (hnodup : (s.items.map Prod.fst).Nodup) :
    ∃ a stretch, Gives (statements ++ b.statements)
      (t ++ [(⟨s.key, a⟩, ⟨.table .header b.entries, stretch⟩)]) := by
  have hb' : b.path = [] := List.map_eq_nil_iff.1 (hb.path.trans hpath)
  rw [← hb.key] at hnew ⊢
  refine ⟨b.key.stretch, h.block t
    (fun stretch => t ++ [(b.key, ⟨.table .header b.entries, stretch⟩)])
    ?_ hnew (hb.nodup_keys hnodup) ?_ fun stretch => ?_⟩ <;> rw [hb']
  · rfl
  · rw [Entries.update, erase_of_not_mem hnew]
  · exact addNew_of_not_mem hnew _

/-- A section below the one just before it. -/
theorem Gives.below {k : String} {a : Option Stretch} {inner : Entries} {stretch : Option Stretch}
    (h : Gives statements (t ++ [(⟨k, a⟩, ⟨.table .header inner, stretch⟩)])) {s : Section}
    (hb : Says s b) (hpath : s.path = [k]) (hfirst : k ∉ keys t) (hnew : s.key ∉ keys inner)
    (hnodup : (s.items.map Prod.fst).Nodup) :
    ∃ a' stretch', Gives (statements ++ b.statements)
      (t ++ [(⟨k, a⟩, ⟨.table .header (inner ++ [(⟨s.key, a'⟩,
        ⟨.table .header b.entries, stretch'⟩)]), stretch⟩)]) := by
  obtain ⟨above, hb', rfl⟩ := List.map_eq_singleton_iff.1 (hb.path.trans hpath)
  rw [← hb.key] at hnew ⊢
  refine ⟨b.key.stretch, h.block inner
    (fun stretch' => t ++ [(⟨above.value, a⟩, ⟨.table .header (inner ++
      [(b.key, ⟨.table .header b.entries, stretch'⟩)]), stretch⟩)])
    ?_ hnew (hb.nodup_keys hnodup) ?_ fun stretch' => ?_⟩ <;> rw [hb']
  · rw [inner?, get?_append hfirst]
    simp [get?, inner?]
  · rw [update_last hfirst, erase_of_not_mem hnew, Option.map_some]
  · rw [update_last hfirst, addNew_of_not_mem hnew, Option.map_some]

end Draft

end DongleLink.Toml
