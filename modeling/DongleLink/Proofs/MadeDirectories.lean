import DongleLink.Proofs.FileContents
import Mathlib.Data.String.Basic

/-!
# DongleLink.Proofs.MadeDirectories

Making the directory that a path is in.

* `Way` says forwards, name by name, which directories there are on the way and which are missing.
* A directory is made backwards: the whole path is tried first, and the path above it is made only
  where that leads nowhere.
* The two meet in `Way.makeDirectoryWithin`: what is missing on the way is made, and nothing else.
-/

namespace DongleLink.Host.Files

/-! ## The text of a path -/

/- The paths above a path are texts that are put together from its names.  They have these names
again, and no fault that the path does not have, since they are parts of it. -/

/-- A name that a path can have between its slashes. -/
structure IsName (name : String) : Prop where
  ne_empty : name ≠ ""
  ne_dot : name ≠ "."
  slash_not_mem : '/' ∉ name.toList

/-- A path by its names, from the root or not. -/
def pathOf (absolute : Bool) (names : List String) : String :=
  if absolute then "/" ++ String.intercalate "/" names else String.intercalate "/" names

section texts

variable {absolute : Bool} {names : List String} {path : String}

theorem isName_of_mem_namesOf {name : String} (h : name ∈ namesOf path) : IsName name := by
  obtain ⟨hpiece, hname⟩ := List.mem_filter.1 h
  obtain ⟨piece, hmem, rfl⟩ := List.mem_map.1 hpiece
  simp only [ne_eq, Bool.and_eq_true, decide_eq_true_eq] at hname
  refine ⟨hname.1, hname.2, ?_⟩
  rw [String.toList_ofList]
  exact Text.not_mem_of_mem_segments hmem

theorem piecesOf_intercalate (hne : names ≠ []) (h : ∀ name ∈ names, IsName name) :
    piecesOf (String.intercalate "/" names) = names := by
  have hpieces : ∀ piece ∈ names.map String.toList, '/' ∉ piece := by
    simpa using fun name hname => (h name hname).slash_not_mem
  rw [piecesOf, String.toList_intercalate,
    show "/".toList = ['/'] from rfl, Text.segments_intercalate (by simpa using hne) hpieces]
  simp

theorem filter_eq_self_of_isName (h : ∀ name ∈ names, IsName name) :
    names.filter (fun name => name ≠ "" && name ≠ ".") = names := by
  rw [List.filter_eq_self]
  intro name hname
  simp [(h name hname).ne_empty, (h name hname).ne_dot]

theorem namesOf_intercalate (h : ∀ name ∈ names, IsName name) :
    namesOf (String.intercalate "/" names) = names := by
  by_cases hne : names = []
  · subst hne
    decide
  · rw [namesOf, piecesOf_intercalate hne h, filter_eq_self_of_isName h]

/-- A path has the names that it was put together from. -/
theorem namesOf_pathOf (h : ∀ name ∈ names, IsName name) :
    namesOf (pathOf absolute names) = names := by
  cases absolute with
  | false => exact namesOf_intercalate h
  | true =>
      have hpieces : piecesOf ("/" ++ String.intercalate "/" names) =
          "" :: piecesOf (String.intercalate "/" names) := by
        rw [piecesOf, String.toList_append]
        exact congrArg (List.map String.ofList) (Text.segments_append '/' [] _)
      rw [pathOf, if_pos rfl, namesOf, hpieces]
      exact namesOf_intercalate h

theorem startsWith_slash_iff : path.startsWith "/" = true ↔ ∃ rest, path.toList = '/' :: rest := by
  rw [String.startsWith_eq_startsWith_toSlice, String.Slice.startsWith_string_iff]
  constructor
  · rintro ⟨rest, hrest⟩
    exact ⟨rest, by simpa using hrest.symm⟩
  · rintro ⟨rest, hrest⟩
    exact ⟨rest, by simp [hrest]⟩

theorem startsWith_pathOf (h : ∀ name ∈ names, IsName name) :
    (pathOf absolute names).startsWith "/" = absolute := by
  cases absolute with
  | true =>
      rw [startsWith_slash_iff, pathOf, if_pos rfl, String.toList_append]
      exact ⟨_, rfl⟩
  | false =>
      rw [Bool.eq_false_iff, ne_eq, startsWith_slash_iff, pathOf, if_neg (by simp)]
      rintro ⟨rest, hrest⟩
      -- a slash at the beginning would make an empty piece
      cases names with
      | nil => simp at hrest
      | cons name names =>
          have hpieces := piecesOf_intercalate (List.cons_ne_nil name names) h
          rw [piecesOf, hrest, show '/' :: rest = [] ++ '/' :: rest from rfl,
            Text.segments_append] at hpieces
          exact (h name List.mem_cons_self).ne_empty (List.cons.inj hpieces).1.symm

theorem origin_pathOf (h : ∀ name ∈ names, IsName name) (cwd : Place) :
    origin cwd (pathOf absolute names) = if absolute then [] else cwd := by
  rw [origin, startsWith_pathOf h]

/-- The path above a path has all its names but the last. -/
theorem parent?_of_names {name : String} (h : namesOf path = names ++ [name]) :
    parent? path = some (pathOf (path.startsWith "/") names) := by
  rw [parent?, h]
  split
  next hnil => simp at hnil
  next => rw [List.dropLast_concat, pathOf]

theorem parent?_pathOf {name : String} (h : ∀ n ∈ names ++ [name], IsName n) :
    parent? (pathOf absolute (names ++ [name])) = some (pathOf absolute names) := by
  rw [parent?_of_names (namesOf_pathOf h), startsWith_pathOf h]

/-! ### Faults -/

theorem pathFault?_eq_none_iff : pathFault? path = none ↔
    path ≠ "" ∧ '\x00' ∉ path.toList ∧ path.utf8ByteSize < 4096 := by
  rw [pathFault?]
  split_ifs with hempty hzero hlong
  · simp_all
  · simp_all
  · simp_all [Nat.not_lt.2 hlong]
  · refine iff_of_true rfl ⟨by simpa using hempty, by simpa using hzero, Nat.lt_of_not_le hlong⟩

/-- A part of a path that is not at fault is not at fault either. -/
theorem pathFault?_of_sublist {part : String} (h : pathFault? path = none)
    (hpart : part.toList.Sublist path.toList) (hne : part ≠ "") : pathFault? part = none := by
  rw [pathFault?_eq_none_iff] at h ⊢
  obtain ⟨-, hzero, hshort⟩ := h
  refine ⟨hne, fun hmem => hzero (hpart.subset hmem), ?_⟩
  have hsize := String.utf8Len_le_of_sublist hpart
  rw [String.utf8Len_toList, String.utf8Len_toList] at hsize
  exact Nat.lt_of_le_of_lt hsize hshort

/-- Without some of its pieces, a text is a part of what it was. -/
theorem intercalate_sublist (sep : List Char) {some all : List (List Char)}
    (h : some.Sublist all) : (sep.intercalate some).Sublist (sep.intercalate all) := by
  induction h with
  | slnil => exact .slnil
  | @cons some all piece hsub ih =>
      cases all with
      | nil =>
          obtain rfl := List.sublist_nil.1 hsub
          simp
      | cons next rest =>
          rw [List.intercalate_cons_cons]
          exact ih.trans (List.sublist_append_right _ _)
  | @cons_cons some all piece hsub ih =>
      cases some with
      | nil =>
          cases all with
          | nil => exact .refl _
          | cons next rest =>
              rw [List.intercalate_singleton, List.intercalate_cons_cons, List.append_assoc]
              exact List.sublist_append_left _ _
      | cons first others =>
          have hne : all ≠ [] := fun hnil => by simp [hnil] at hsub
          rw [List.intercalate_cons_of_ne_nil (List.cons_ne_nil _ _),
            List.intercalate_cons_of_ne_nil hne]
          exact (List.Sublist.refl _).append ih

theorem pathOf_sublist {some all : List String} (h : some.Sublist all) :
    (pathOf absolute some).toList.Sublist (pathOf absolute all).toList := by
  have hinner := intercalate_sublist ['/'] (h.map String.toList)
  cases absolute with
  | false => simpa [pathOf, String.toList_intercalate] using hinner
  | true => simpa [pathOf, String.toList_intercalate] using hinner

/-- The names of a path, put together again, are a part of it. -/
theorem pathOf_namesOf_sublist (path : String) :
    (pathOf (path.startsWith "/") (namesOf path)).toList.Sublist path.toList := by
  have hpieces : ∀ s, ((((Text.segments '/' s).map String.ofList).filter
      fun name => name ≠ "" && name ≠ ".").map String.toList).Sublist (Text.segments '/' s) := by
    intro s
    have hsub := (List.filter_sublist (l := (Text.segments '/' s).map String.ofList)
      (p := fun name => name ≠ "" && name ≠ ".")).map String.toList
    rw [List.map_map] at hsub
    simpa [Function.comp_def] using hsub
  cases habsolute : path.startsWith "/" with
  | false =>
      have hsub := intercalate_sublist ['/'] (hpieces path.toList)
      rw [Text.intercalate_segments] at hsub
      simpa [pathOf, String.toList_intercalate, namesOf, piecesOf] using hsub
  | true =>
      obtain ⟨rest, hrest⟩ := startsWith_slash_iff.1 habsolute
      have hsub := intercalate_sublist ['/'] (hpieces rest)
      rw [Text.intercalate_segments] at hsub
      have hnames : namesOf path = ((Text.segments '/' rest).map String.ofList).filter
          fun name => name ≠ "" && name ≠ "." := by
        rw [namesOf, piecesOf, hrest, show '/' :: rest = [] ++ '/' :: rest from rfl,
          Text.segments_append]
        rfl
      rw [hnames, hrest]
      simpa [pathOf, String.toList_intercalate] using hsub

end texts

/-! ## Ways -/

variable {f g : Files} {p cwd : Place} {path : String}

/- A way is told forwards, from a directory that is there.  Back from a place it leads only to a
directory that is there or was passed before; on from a place, to a directory or to where nothing
is, and then a directory is still to be made. -/

/-- The names lead from one place to another through directories, and through places where nothing
is yet: `missing` are these, the last one first. -/
inductive Way (f : Files) (start : Place) : List String → Place → List Place → Prop where
  | here (hstart : f.at? start = some .directory) : Way f start [] start []
  | back {names : List String} {place : Place} {missing : List Place}
      (h : Way f start names place missing)
      (hback : f.at? place.dropLast = some .directory ∨ place.dropLast ∈ missing) :
      Way f start (names ++ [".."]) place.dropLast missing
  | into {names : List String} {place : Place} {missing : List Place} {name : String}
      (h : Way f start names place missing) (hdots : name ≠ "..")
      (hshort : name.utf8ByteSize ≤ 255) (hthere : f.at? (place ++ [name]) = some .directory) :
      Way f start (names ++ [name]) (place ++ [name]) missing
  | toMake {names : List String} {place : Place} {missing : List Place} {name : String}
      (h : Way f start names place missing) (hdots : name ≠ "..")
      (hshort : name.utf8ByteSize ≤ 255) (hnone : f.at? (place ++ [name]) = none) :
      Way f start (names ++ [name]) (place ++ [name]) ((place ++ [name]) :: missing)

/-- Directories were made at these places, and nothing else changed. -/
structure Makes (f : Files) (places : List Place) (g : Files) : Prop where
  extends_ : f.Extends g
  made : ∀ p ∈ places, g.at? p = some .directory
  only : ∀ p ∉ places, g.at? p = f.at? p

theorem Makes.refl (f : Files) : Makes f [] f := ⟨.refl f, by simp, fun _ _ => rfl⟩

/-- One more directory is made where nothing is. -/
theorem Makes.put {places : List Place} (h : Makes f places g) (hp : p ≠ [])
    (hnone : g.at? p = none) : Makes f (p :: places) (g.put p .directory) where
  extends_ := h.extends_.trans (extends_put hnone .directory)
  made q hq := by
    by_cases heq : q = p
    · rw [heq, at?_put hp]
    · rw [at?_put_of_ne heq]
      exact h.made q ((List.mem_cons.1 hq).resolve_left heq)
  only q hq := by
    rw [List.mem_cons, not_or] at hq
    rw [at?_put_of_ne hq.1, h.only q hq.2]

/-- A directory that is there already need not be made. -/
theorem Makes.cons {places : List Place} (h : Makes f places g)
    (hp : g.at? p = some .directory) : Makes f (p :: places) g where
  extends_ := h.extends_
  made q hq := by
    obtain rfl | hq := List.mem_cons.1 hq
    · exact hp
    · exact h.made q hq
  only q hq := h.only q fun hmem => hq (List.mem_cons_of_mem p hmem)

namespace Way

variable {start place : Place} {names : List String} {missing : List Place}

/-- Where the missing directories are made, the way can be gone. -/
theorem follow (h : Way f start names place missing) (hf : f.Extends g)
    (hmade : ∀ p ∈ missing, g.at? p = some .directory) :
    Files.follow g start names = .found place .directory := by
  induction h with
  | here hstart => rw [follow_nil, hf _ _ hstart]
  | @back names place missing h hback ih =>
      have hplace : g.at? place.dropLast = some .directory := by
        obtain hthere | hmem := hback
        · exact hf _ _ hthere
        · exact hmade _ hmem
      have hbefore := ih hmade
      rw [follow_append hbefore (List.cons_ne_nil _ _), follow_dots (at?_of_follow_found hbefore),
        follow_nil, hplace]
  | @into names place missing name h hdots hshort hthere ih =>
      have hplace := hf _ _ hthere
      have hbefore := ih hmade
      rw [follow_append hbefore (List.cons_ne_nil _ _),
        follow_name (at?_of_follow_found hbefore) hdots hshort (by simp [hplace]), follow_nil,
        hplace]
  | @toMake names place missing name h hdots hshort hnone ih =>
      rw [List.forall_mem_cons] at hmade
      have hbefore := ih hmade.2
      rw [follow_append hbefore (List.cons_ne_nil _ _),
        follow_name (at?_of_follow_found hbefore) hdots hshort (by simp [hmade.1]), follow_nil,
        hmade.1]

end Way

/-! ## Walks that lead nowhere -/

/-- A walk does not begin where nothing is. -/
theorem follow_of_none (h : f.at? p = none) (names : List String) :
    follow f p names = .fault noSuchFile := by
  rw [follow.eq_def]
  cases names <;> simp only [h]

/-- The walk ends where nothing is, or breaks off there. -/
def LeadsNowhere (f : Files) (p : Place) (names : List String) : Prop :=
  (∃ q, follow f p names = .missing q) ∨ follow f p names = .fault noSuchFile

/-- Behind a path that leads nowhere, no path leads anywhere. -/
theorem LeadsNowhere.follow_append {names : List String} (h : LeadsNowhere f p names)
    {rest : List String} (hrest : rest ≠ []) : follow f p (names ++ rest) = .fault noSuchFile := by
  unfold LeadsNowhere at h
  induction names generalizing p with
  | nil =>
      have hnone : f.at? p = none := by
        rw [follow_nil] at h
        split at h <;> simp_all
      exact follow_of_none hnone rest
  | cons name names ih =>
      rw [List.cons_append]
      cases hnode : f.at? p with
      | none => exact follow_of_none hnode _
      | some node =>
          by_cases hp : node = .directory
          · subst hp
            have happend : ¬ (f.at? (p ++ [name]) = none ∧ names ++ rest = []) := fun hnil =>
              hrest (List.append_eq_nil_iff.1 hnil.2).2
            rw [follow_directory hnode] at h
            rw [follow_directory hnode, if_neg happend]
            by_cases hdots : name = ".."
            · rw [if_pos hdots] at h ⊢
              exact ih h
            rw [if_neg hdots] at h ⊢
            by_cases hlong : 255 < name.utf8ByteSize
            · simp [hlong, nameTooLong, noSuchFile] at h
            rw [if_neg hlong] at h ⊢
            by_cases hthere : f.at? (p ++ [name]) = none ∧ names = []
            · exact follow_of_none hthere.1 _
            · rw [if_neg hthere] at h
              exact ih h
          · -- there is no way on from what is no directory
            rw [follow.eq_def] at h
            cases node <;> simp_all [notADirectory, noSuchFile]

namespace Way

variable {start place : Place} {names : List String} {missing : List Place}

/-- **What a way is before anything is made**: it leads to its directory, or only the last one is
missing, or it breaks off where a directory is missing. -/
theorem follow_before (h : Way f start names place missing) :
    missing = [] ∧ Files.follow f start names = .found place .directory ∨
      missing = [place] ∧ place ≠ [] ∧ Files.follow f start names = .missing place ∨
      Files.follow f start names = .fault noSuchFile := by
  have hbroken : ∀ {names place missing} (name : String),
      missing = [place] ∧ place ≠ [] ∧ Files.follow f start names = .missing place ∨
        Files.follow f start names = .fault noSuchFile →
      Files.follow f start (names ++ [name]) = .fault noSuchFile := by
    intro names place missing name h
    have hnowhere : LeadsNowhere f start names := h.imp (fun hlast => ⟨place, hlast.2.2⟩) id
    exact hnowhere.follow_append (List.cons_ne_nil _ _)
  induction h with
  | here hstart => exact .inl ⟨rfl, by rw [follow_nil, hstart]⟩
  | @back names place missing h hback ih =>
      obtain ⟨rfl, hfollow⟩ | hnowhere := ih
      · have hthere := hback.resolve_right (by simp)
        left
        rw [Files.follow_append hfollow (List.cons_ne_nil _ _),
          follow_dots (at?_of_follow_found hfollow), follow_nil, hthere]
        exact ⟨rfl, rfl⟩
      · exact .inr (.inr (hbroken _ hnowhere))
  | @into names place missing name h hdots hshort hthere ih =>
      obtain ⟨rfl, hfollow⟩ | hnowhere := ih
      · left
        rw [Files.follow_append hfollow (List.cons_ne_nil _ _),
          follow_name (at?_of_follow_found hfollow) hdots hshort (by simp [hthere]), follow_nil,
          hthere]
        exact ⟨rfl, rfl⟩
      · exact .inr (.inr (hbroken _ hnowhere))
  | @toMake names place missing name h hdots hshort hnone ih =>
      obtain ⟨rfl, hfollow⟩ | hnowhere := ih
      · right
        left
        rw [Files.follow_append hfollow (List.cons_ne_nil _ _),
          follow_directory (at?_of_follow_found hfollow), if_neg hdots,
          if_neg (Nat.not_lt.2 hshort), if_pos ⟨hnone, rfl⟩]
        exact ⟨rfl, by simp, rfl⟩
      · exact .inr (.inr (hbroken _ hnowhere))

/-- A way without names makes nothing. -/
theorem of_nil (h : Way f start [] place missing) : place = start ∧ missing = [] := by
  generalize hnames : ([] : List String) = names at h
  cases h with
  | here => exact ⟨rfl, rfl⟩
  | back | into | toMake => simp at hnames

/-- **The last step of a way.**  Where the directories before it were made, it leads to a directory,
or to where nothing is; then that is the one that is still missing. -/
theorem exists_last (h : Way f start names place missing) (hne : names ≠ []) :
    ∃ before name above missingAbove, names = before ++ [name] ∧
      Way f start before above missingAbove ∧ ∀ g, Makes f missingAbove g →
        Files.follow g start names = .found place .directory ∧ Makes f missing g ∨
          Files.follow g start names = .missing place ∧
            Makes f missing (g.put place .directory) := by
  cases h with
  | here => exact absurd rfl hne
  | @back names place missing h hback =>
      refine ⟨names, "..", place, missing, rfl, h, fun g hg => .inl ⟨?_, hg⟩⟩
      exact (h.back hback).follow hg.extends_ hg.made
  | @into names place missing name h hdots hshort hthere =>
      refine ⟨names, name, place, missing, rfl, h, fun g hg => .inl ⟨?_, hg⟩⟩
      exact (h.into hdots hshort hthere).follow hg.extends_ hg.made
  | @toMake names place missing name h hdots hshort hnone =>
      refine ⟨names, name, place, missing, rfl, h, fun g hg => ?_⟩
      by_cases hmem : place ++ [name] ∈ missing
      · -- the way has been there before, and has led back
        have hg' := hg.cons (hg.made _ hmem)
        exact .inl ⟨(h.toMake hdots hshort hnone).follow hg'.extends_ hg'.made, hg'⟩
      · have hnone' := (hg.only _ hmem).trans hnone
        have hbefore := h.follow hg.extends_ hg.made
        refine .inr ⟨?_, hg.put (by simp) hnone'⟩
        rw [Files.follow_append hbefore (List.cons_ne_nil _ _),
          follow_directory (at?_of_follow_found hbefore), if_neg hdots,
          if_neg (Nat.not_lt.2 hshort), if_pos ⟨hnone', rfl⟩]

end Way

/-! ## Making them -/

section making

variable {names : List String}

/-- The last directory of a path is there, or can be made, or is not to be reached. -/
theorem makeLast_of_found (hpath : pathFault? path = none)
    (h : follow f (origin cwd path) (namesOf path) = .found p .directory) :
    f.makeLast cwd path = .ok f := by
  simp only [makeLast, walk, hpath, h]

theorem makeLast_of_missing (hpath : pathFault? path = none)
    (h : follow f (origin cwd path) (namesOf path) = .missing p) :
    f.makeLast cwd path = .ok (f.put p .directory) := by
  simp only [makeLast, walk, hpath, h]

theorem makeLast_of_fault (hpath : pathFault? path = none) {e : IoFault}
    (h : follow f (origin cwd path) (namesOf path) = .fault e) :
    f.makeLast cwd path = .error e := by
  simp only [makeLast, walk, hpath, h]

/-- Making the last directory of a path ends where a walk that only lacks that one leads. -/
theorem exists_makeLast {absolute : Bool} {place : Place} {missing : List Place}
    (hnames : ∀ name ∈ names, IsName name) (hpath : pathFault? (pathOf absolute names) = none)
    (h : follow g (if absolute then [] else cwd) names = .found place .directory ∧
        Makes f missing g ∨
      follow g (if absolute then [] else cwd) names = .missing place ∧
        Makes f missing (g.put place .directory)) :
    ∃ made, g.makeLast cwd (pathOf absolute names) = .ok made ∧ Makes f missing made := by
  have hfollow : follow g (origin cwd (pathOf absolute names)) (namesOf (pathOf absolute names)) =
      follow g (if absolute then [] else cwd) names := by
    rw [origin_pathOf hnames, namesOf_pathOf hnames]
  rw [← hfollow] at h
  obtain ⟨hfound, hmakes⟩ | ⟨hmissing, hmakes⟩ := h
  · exact ⟨g, makeLast_of_found hpath hfound, hmakes⟩
  · exact ⟨_, makeLast_of_missing hpath hmissing, hmakes⟩

/-- **What is missing on the way is made**, and nothing else. -/
theorem Way.makeDirectoryWithin {absolute : Bool} {place : Place} {missing : List Place}
    (h : Way f (if absolute then [] else cwd) names place missing)
    (hnames : ∀ name ∈ names, IsName name)
    (hpath : pathOf absolute names ≠ "" → pathFault? (pathOf absolute names) = none) {fuel : Nat}
    (hfuel : names.length < fuel) :
    ∃ g, Files.makeDirectoryWithin cwd fuel (pathOf absolute names) f = (.ok (), g) ∧
      Makes f missing g := by
  induction fuel generalizing names place missing with
  | zero => cases hfuel
  | succ fuel ih =>
      rw [Files.makeDirectoryWithin]
      by_cases hempty : pathOf absolute names = ""
      · have hnil : names = [] := by
          have hback : namesOf (pathOf absolute names) = names := namesOf_pathOf hnames
          rw [← hback, hempty]
          decide
        subst hnil
        obtain ⟨-, rfl⟩ := h.of_nil
        exact ⟨f, by simp [hempty], .refl f⟩
      · have hsound := hpath hempty
        rw [if_neg (by simpa using hempty)]
        obtain ⟨rfl, hfound⟩ | ⟨rfl, hne, hmissing⟩ | hfault := h.follow_before
        · obtain ⟨g, hg, hmakes⟩ := exists_makeLast hnames hsound (.inl ⟨hfound, .refl f⟩)
          rw [hg]
          exact ⟨g, rfl, hmakes⟩
        · have hnone : f.at? place = none := by
            have htrue := isTrueOf_follow f (if absolute then [] else cwd) names
            rwa [hmissing] at htrue
          obtain ⟨g, hg, hmakes⟩ :=
            exists_makeLast hnames hsound (.inr ⟨hmissing, (Makes.refl f).put hne hnone⟩)
          rw [hg]
          exact ⟨g, rfl, hmakes⟩
        · have hne : names ≠ [] := by
            rintro rfl
            obtain ⟨rfl, rfl⟩ := h.of_nil
            rw [h.follow (.refl f) (by simp)] at hfault
            cases hfault
          rw [← namesOf_pathOf hnames, ← origin_pathOf hnames] at hfault
          rw [makeLast_of_fault hsound hfault]
          -- the directory above is made first
          obtain ⟨before, name, above, missingAbove, rfl, habove, hlast⟩ := h.exists_last hne
          have hnames' : ∀ n ∈ before, IsName n := fun n hn =>
            hnames n (List.mem_append_left _ hn)
          have hpart : (pathOf absolute before).toList.Sublist
              (pathOf absolute (before ++ [name])).toList :=
            pathOf_sublist (List.sublist_append_left _ _)
          obtain ⟨g, hg, hmakes⟩ := ih habove hnames' (pathFault?_of_sublist hsound hpart)
            (by simpa using hfuel)
          obtain ⟨made, hmade, hmakes'⟩ := exists_makeLast hnames hsound (hlast g hmakes)
          simp only [ne_eq, not_true_eq_false, if_false, parent?_pathOf hnames, hg, hmade]
          exact ⟨made, rfl, hmakes'⟩

/-- So the directory that a path is in is made. -/
theorem Way.makeParent {name : String} {place : Place} {missing : List Place}
    (h : Way f (origin cwd path) names place missing) (hpath : pathFault? path = none)
    (hnames : namesOf path = names ++ [name]) :
    ∃ g, f.makeParent cwd path = (.ok (), g) ∧ Makes f missing g := by
  have hall : ∀ n ∈ names, IsName n := fun n hn =>
    isName_of_mem_namesOf (show n ∈ namesOf path from hnames ▸ List.mem_append_left _ hn)
  have hpart : (pathOf (path.startsWith "/") names).toList.Sublist path.toList := by
    have hsub := pathOf_namesOf_sublist path
    rw [hnames] at hsub
    exact (pathOf_sublist (List.sublist_append_left names [name])).trans hsub
  rw [Files.makeParent, parent?_of_names hnames]
  refine h.makeDirectoryWithin hall (pathFault?_of_sublist hpath hpart) ?_
  rw [namesOf_pathOf hall]
  omega

end making

end DongleLink.Host.Files
