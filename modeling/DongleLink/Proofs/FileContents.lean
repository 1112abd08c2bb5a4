import DongleLink.Host.Files
import Mathlib.Data.List.Basic

/-!
# DongleLink.Proofs.FileContents

What is written to a file is read from it, and making directories changes no file.

A walk along a path sees directories only, up to its end.  So it ends at the same place in all
files that have these directories and that end (`follow_found`): a file put at the end of a path is
found by it, and files that only got more directories are found as before.
-/

namespace DongleLink.Host.Files

variable {f g : Files} {p q : Place} {node : Node} {cwd : Place} {path : String}

/-! ## What is at a place -/

theorem at?_put (h : p ≠ []) (f : Files) (node : Node) : (f.put p node).at? p = some node := by
  simp [at?, put, h]

theorem at?_put_of_ne (h : q ≠ p) (f : Files) (node : Node) : (f.put p node).at? q = f.at? q := by
  have hlookup : ∀ l : List (Place × Node), (l.filter (·.1 ≠ p)).lookup q = l.lookup q := by
    intro l
    induction l with
    | nil => rfl
    | cons entry l ih =>
        by_cases hentry : entry.1 = p
        · have hq : (q == entry.1) = false := by simpa [hentry] using h
          rw [List.filter_cons_of_neg (by simpa using hentry), ih, List.lookup_cons, hq]
        · rw [List.filter_cons_of_pos (by simpa using hentry), List.lookup_cons, List.lookup_cons,
            ih]
  have hq : (q == p) = false := by simpa using h
  rw [at?, at?, put, List.lookup_cons, hq, hlookup]

/-! ## Walks -/

/-- What the next name does in a directory. -/
theorem follow_directory (hp : f.at? p = some .directory) (name : String) (names : List String) :
    follow f p (name :: names) =
      if name = ".." then follow f p.dropLast names
      else if 255 < name.utf8ByteSize then .fault nameTooLong
      else if f.at? (p ++ [name]) = none ∧ names = [] then .missing (p ++ [name])
      else follow f (p ++ [name]) names := by
  rw [follow.eq_def]
  simp only [hp]
  refine ite_congr rfl (fun _ => rfl) fun _ => ite_congr rfl (fun _ => rfl) fun _ => ?_
  split
  next hnone => rw [if_pos ⟨hnone, rfl⟩]
  next hthere => rw [if_neg fun h => hthere h.1 h.2]

theorem follow_nil (f : Files) (p : Place) :
    follow f p [] = match f.at? p with
      | some node => .found p node
      | none => .fault noSuchFile := by
  cases h : f.at? p <;> simp only [follow, h]

theorem follow_dots (hp : f.at? p = some .directory) (names : List String) :
    follow f p (".." :: names) = follow f p.dropLast names := by
  rw [follow_directory hp, if_pos rfl]

/-- A name is followed to where it leads, if there is something or the path goes on. -/
theorem follow_name (hp : f.at? p = some .directory) {name : String} (hdots : name ≠ "..")
    (hshort : name.utf8ByteSize ≤ 255) {names : List String}
    (hthere : ¬ (f.at? (p ++ [name]) = none ∧ names = [])) :
    follow f p (name :: names) = follow f (p ++ [name]) names := by
  rw [follow_directory hp, if_neg hdots, if_neg (Nat.not_lt.2 hshort), if_neg hthere]

/-- What the first name of a path does: it cannot be followed, it leads back or on, or it is the
last one and leads nowhere. -/
theorem follow_cons (f : Files) (p : Place) (name : String) (names : List String) :
    (∃ e, follow f p (name :: names) = .fault e) ∨
      f.at? p = some .directory ∧
        (name = ".." ∨
          (name ≠ ".." ∧ name.utf8ByteSize ≤ 255 ∧
            ¬ (f.at? (p ++ [name]) = none ∧ names = [])) ∨
          f.at? (p ++ [name]) = none ∧ follow f p (name :: names) = .missing (p ++ [name])) := by
  by_cases hp : f.at? p = some .directory
  · rw [follow_directory hp]
    split_ifs with hdots hlong hthere
    · exact .inr ⟨hp, .inl hdots⟩
    · exact .inl ⟨_, rfl⟩
    · exact .inr ⟨hp, .inr (.inr ⟨hthere.1, rfl⟩)⟩
    · exact .inr ⟨hp, .inr (.inl ⟨hdots, Nat.not_lt.1 hlong, hthere⟩)⟩
  · left
    rw [follow.eq_def]
    cases hnode : f.at? p with
    | none => exact ⟨_, rfl⟩
    | some node =>
        cases node with
        | directory => exact absurd hnode hp
        | _ => exact ⟨_, rfl⟩

/-- A walk goes through directories and ends at what is there; so it does in all files that have
both. -/
theorem follow_found (hdirectories : ∀ p, f.at? p = some .directory → g.at? p = some .directory)
    {names : List String} (h : follow f p names = .found q node) (hend : g.at? q = some node) :
    follow g p names = .found q node := by
  induction names generalizing p with
  | nil =>
      rw [follow_nil] at h ⊢
      split at h <;> cases h
      rw [hend]
  | cons name names ih =>
      obtain ⟨e, hfault⟩ | ⟨hp, rfl | ⟨hdots, hshort, hthere⟩ | ⟨-, hmissing⟩⟩ :=
        follow_cons f p name names
      · rw [hfault] at h
        cases h
      · rw [follow_dots hp] at h
        rw [follow_dots (hdirectories p hp), ih h]
      · rw [follow_name hp hdots hshort hthere] at h
        have hnext := ih h
        rw [follow_name (hdirectories p hp) hdots hshort, hnext]
        -- a walk that found something did not end where nothing is
        rintro ⟨hnone, rfl⟩
        rw [follow_nil, hnone] at hnext
        cases hnext
      · rw [hmissing] at h
        cases h

/-- What a walk says of the place where it ends. -/
def Walk.IsTrueOf (f : Files) : Walk → Prop
  | .found p node => f.at? p = some node
  | .missing p => f.at? p = none
  | .fault _ => True

theorem isTrueOf_follow (f : Files) (p : Place) (names : List String) :
    (follow f p names).IsTrueOf f := by
  induction names generalizing p with
  | nil =>
      rw [follow_nil]
      split
      next hnode => exact hnode
      next => trivial
  | cons name names ih =>
      obtain ⟨e, hfault⟩ | ⟨hp, rfl | ⟨hdots, hshort, hthere⟩ | ⟨hnone, hmissing⟩⟩ :=
        follow_cons f p name names
      · rw [hfault]
        trivial
      · rw [follow_dots hp]
        exact ih p.dropLast
      · rw [follow_name hp hdots hshort hthere]
        exact ih (p ++ [name])
      · rw [hmissing]
        exact hnone

theorem at?_of_follow_found {names : List String} (h : follow f p names = .found q node) :
    f.at? q = some node := by
  have htrue := isTrueOf_follow f p names
  rwa [h] at htrue

/-- A path goes on from the directory that its first part leads to. -/
theorem follow_append {names : List String} (h : follow f p names = .found q .directory)
    {rest : List String} (hrest : rest ≠ []) : follow f p (names ++ rest) = follow f q rest := by
  induction names generalizing p with
  | nil =>
      rw [follow_nil] at h
      split at h <;> cases h
      rfl
  | cons name names ih =>
      rw [List.cons_append]
      obtain ⟨e, hfault⟩ | ⟨hp, rfl | ⟨hdots, hshort, hthere⟩ | ⟨-, hmissing⟩⟩ :=
        follow_cons f p name names
      · rw [hfault] at h
        cases h
      · rw [follow_dots hp] at h ⊢
        exact ih h
      · rw [follow_name hp hdots hshort hthere] at h
        rw [follow_name hp hdots hshort fun hnil => hrest (List.append_eq_nil_iff.1 hnil.2).2]
        exact ih h
      · rw [hmissing] at h
        cases h

/-- A path text leads where its names do; what has a slash after its name is a directory. -/
theorem walk_eq_found_iff : f.walk cwd path = .found q node ↔
    pathFault? path = none ∧ follow f (origin cwd path) (namesOf path) = .found q node ∧
      (node = .directory ∨ (path.endsWith "/" || path.endsWith "/.") = false) := by
  rw [walk]
  cases pathFault? path with
  | some e => simp
  | none =>
      cases hfollow : follow f (origin cwd path) (namesOf path) with
      | found place there =>
          cases hend : path.endsWith "/" || path.endsWith "/." <;> cases there <;>
            simp +contextual [eq_comm]
      | missing place => simp
      | fault e => simp

theorem at?_of_walk_missing (h : f.walk cwd path = .missing p) : f.at? p = none := by
  have htrue := isTrueOf_follow f (origin cwd path) (namesOf path)
  rw [walk] at h
  split at h
  · cases h
  · split at h
    · cases h
    · split at h <;> cases h
    · rwa [h] at htrue

/-! ## Files that only grow -/

/-- What was there is there still. -/
def Extends (f g : Files) : Prop := ∀ p node, f.at? p = some node → g.at? p = some node

theorem Extends.refl (f : Files) : f.Extends f := fun _ _ h => h

theorem Extends.trans {e : Files} (hef : e.Extends f) (hfg : f.Extends g) : e.Extends g :=
  fun p node h => hfg p node (hef p node h)

/-- Something put where nothing was. -/
theorem extends_put (hp : f.at? p = none) (node : Node) : f.Extends (f.put p node) := by
  intro q other hq
  rw [at?_put_of_ne _ f node, hq]
  rintro rfl
  rw [hp] at hq
  cases hq

theorem Extends.walk (h : f.Extends g) (hwalk : f.walk cwd path = .found q node) :
    g.walk cwd path = .found q node := by
  rw [walk_eq_found_iff] at hwalk ⊢
  obtain ⟨hpath, hfollow, hend⟩ := hwalk
  have hthere := h q node (at?_of_follow_found hfollow)
  exact ⟨hpath, follow_found (fun p => h p .directory) hfollow hthere, hend⟩

/-- What could be read can be read, and is the same. -/
theorem Extends.read (h : f.Extends g) {contents : List UInt8}
    (hread : f.read cwd path = .ok contents) : g.read cwd path = .ok contents := by
  rw [Files.read] at hread
  cases hwalk : f.walk cwd path with
  | found place there =>
      rw [hwalk] at hread
      rw [Files.read, h.walk hwalk]
      exact hread
  | missing place => rw [hwalk] at hread; cases hread
  | fault e => rw [hwalk] at hread; cases hread

theorem extends_makeLast (h : f.makeLast cwd path = .ok g) : f.Extends g := by
  rw [makeLast] at h
  split at h <;> cases h
  · exact .refl f
  next hmissing => exact extends_put (at?_of_walk_missing hmissing) .directory

/-- Making directories makes nothing else, even if not all of them can be made. -/
theorem extends_makeDirectoryWithin (cwd : Place) (fuel : Nat) (path : String) (f : Files) :
    f.Extends (makeDirectoryWithin cwd fuel path f).2 := by
  induction fuel generalizing path f with
  | zero => exact .refl f
  | succ fuel ih =>
      rw [makeDirectoryWithin]
      split
      · exact .refl f
      · split
        next hlast => exact extends_makeLast hlast
        next e he =>
          split
          · exact .refl f
          · split
            · exact .refl f
            next above habove =>
              have hup := ih above f
              split
              next hmade =>
                rw [hmade] at hup
                exact hup
              next hmade =>
                rw [hmade] at hup
                split
                next hlast => exact hup.trans (extends_makeLast hlast)
                next => exact hup

theorem extends_makeParent (f : Files) (cwd : Place) (path : String) :
    f.Extends (f.makeParent cwd path).2 := by
  rw [makeParent]
  split
  · exact .refl f
  · exact extends_makeDirectoryWithin cwd _ _ f

/-! ## Writing -/

theorem endsWith_iff {last : String} : path.endsWith last = true ↔ last.toList <:+ path.toList := by
  rw [String.endsWith_eq_endsWith_toSlice, String.Slice.endsWith_string_iff, String.copy_toSlice]

/-- The last piece of a path that ends in a slash and a dot. -/
theorem getLast?_piecesOf (h : path.endsWith "/." = true) :
    ((piecesOf path).filter (· ≠ "")).getLast? = some "." := by
  obtain ⟨s, hs⟩ : ['/', '.'] <:+ path.toList := endsWith_iff.1 h
  have hpieces : piecesOf path = (Text.segments '/' s).map String.ofList ++ ["."] := by
    rw [piecesOf, ← hs, Text.segments_append, List.map_append]
    rfl
  rw [hpieces, List.filter_append]
  exact List.getLast?_concat

/-- A path that a file can be put at: what it leads through, and its last name. -/
theorem target_eq_ok (h : f.target cwd path = .ok p) :
    ∃ names name place, namesOf path = names ++ [name] ∧ p = place ++ [name] ∧
      follow f (origin cwd path) names = .found place .directory ∧
      pathFault? path = none ∧ name ≠ ".." ∧ name.utf8ByteSize ≤ 255 ∧
      (path.endsWith "/" || path.endsWith "/.") = false := by
  rw [target] at h
  split at h
  · cases h
  next hpath =>
    simp only at h
    split at h
    · cases h
    next name hname =>
      split at h
      next place hplace =>
        split_ifs at h with hdots hlong
        cases h
        rw [not_or, not_or] at hdots
        obtain ⟨hdot, hdots, hslash⟩ := hdots
        have hnames : namesOf path =
            ((piecesOf path).filter (· ≠ "")).dropLast.filter (· ≠ ".") ++ [name] := by
          have hsplit := List.dropLast_append_getLast? name hname
          calc namesOf path = ((piecesOf path).filter (· ≠ "")).filter (· ≠ ".") := by
                rw [namesOf, List.filter_filter]
                simp [Bool.and_comm]
            _ = _ := by
                rw [← hsplit, List.filter_append]
                simp [hdot]
        have hend : (path.endsWith "/" || path.endsWith "/.") = false := by
          rw [Bool.or_eq_false_iff]
          refine ⟨by simpa using hslash, ?_⟩
          by_contra h
          rw [getLast?_piecesOf (by simpa using h)] at hname
          cases hname
          exact hdot rfl
        exact ⟨_, name, place, hnames, rfl, hplace, hpath, hdots, Nat.not_lt.1 hlong, hend⟩
      · cases h
      · cases h
      · cases h

/-- A path whose last name nothing follows has this name for its last piece. -/
theorem piecesOf_eq {names : List String} {name : String} (hnames : namesOf path = names ++ [name])
    (hend : (path.endsWith "/" || path.endsWith "/.") = false) :
    ∃ pieces, (piecesOf path).filter (· ≠ "") = pieces ++ [name] ∧
      pieces.filter (· ≠ ".") = names := by
  have hlast : ∃ pieces last, piecesOf path = pieces ++ [last] ∧ last ≠ "" ∧ last ≠ "." := by
    cases hcut : Text.splitLast '/' path.toList with
    | none =>
        have hpieces : piecesOf path = [path] := by
          rw [piecesOf, Text.segments_eq_singleton (Text.splitLast_eq_none_iff.1 hcut)]
          simp
        refine ⟨[], path, hpieces, ?_, ?_⟩
        all_goals
          rintro rfl
          rw [namesOf, hpieces] at hnames
          simp at hnames
    | some cut =>
        obtain ⟨hpath, hslash⟩ := Text.splitLast_eq_some_iff.1 hcut
        have hpieces : piecesOf path =
            (Text.segments '/' cut.1).map String.ofList ++ [String.ofList cut.2] := by
          rw [piecesOf, hpath, Text.segments_append, Text.segments_eq_singleton hslash,
            List.map_append]
          rfl
        rw [Bool.or_eq_false_iff, Bool.eq_false_iff, Bool.eq_false_iff, ne_eq, ne_eq, endsWith_iff,
          endsWith_iff] at hend
        refine ⟨_, _, hpieces, fun hnil => hend.1 ⟨cut.1, ?_⟩, fun hdot => hend.2 ⟨cut.1, ?_⟩⟩
        · rw [hpath, show cut.2 = [] by simpa using hnil]
          rfl
        · rw [← String.toList_inj, String.toList_ofList] at hdot
          rw [hpath, hdot]
          rfl
  obtain ⟨pieces, last, hpieces, hne, hdot⟩ := hlast
  have hkept : (pieces.filter fun piece => piece ≠ "" && piece ≠ ".") ++ [last] =
      names ++ [name] := by
    rw [← hnames, namesOf, hpieces, List.filter_append]
    simp [hne, hdot]
  obtain ⟨hbefore, hname⟩ := List.append_inj' hkept rfl
  cases hname
  refine ⟨pieces.filter (· ≠ ""), by simp [hpieces, hne], ?_⟩
  rw [List.filter_filter, ← hbefore]
  simp [Bool.and_comm]

/-- A file can be put where such a path leads. -/
theorem target_of_names {names : List String} {name : String} {place : Place}
    (hnames : namesOf path = names ++ [name])
    (hfollow : follow f (origin cwd path) names = .found place .directory)
    (hpath : pathFault? path = none) (hdots : name ≠ "..") (hshort : name.utf8ByteSize ≤ 255)
    (hend : (path.endsWith "/" || path.endsWith "/.") = false) :
    f.target cwd path = .ok (place ++ [name]) := by
  obtain ⟨pieces, hpieces, rfl⟩ := piecesOf_eq hnames hend
  have hdot : name ≠ "." := by
    have hmem : name ∈ namesOf path := by simp [hnames]
    rintro rfl
    simp [namesOf] at hmem
  have hslash : path.endsWith "/" = false := (Bool.or_eq_false_iff.1 hend).1
  simp only [target, hpath, hpieces, List.getLast?_concat, List.dropLast_concat, hfollow]
  rw [if_neg (by simp [hdot, hdots, hslash]), if_neg (Nat.not_lt.2 hshort)]

/-- **What is written to a file is read from it.** -/
theorem read_put (htarget : f.target cwd path = .ok p) (hplace : f.at? p ≠ some .directory)
    (contents : List UInt8) : (f.put p (.file contents)).read cwd path = .ok contents := by
  obtain ⟨names, name, place, hnames, rfl, hfollow, hpath, hdots, hshort, hend⟩ :=
    target_eq_ok htarget
  have hroot : place ++ [name] ≠ [] := List.append_ne_nil_of_right_ne_nil _ (List.cons_ne_nil _ _)
  have hkept : ∀ q, f.at? q = some .directory →
      (f.put (place ++ [name]) (.file contents)).at? q = some .directory := by
    intro q hq
    rw [at?_put_of_ne _ f, hq]
    rintro rfl
    exact hplace hq
  have hdirectory := hkept place (at?_of_follow_found hfollow)
  have hfile := at?_put hroot f (.file contents)
  have hwalk : (f.put (place ++ [name]) (.file contents)).walk cwd path =
      .found (place ++ [name]) (.file contents) := by
    refine walk_eq_found_iff.2 ⟨hpath, ?_, .inr hend⟩
    rw [hnames, follow_append (follow_found hkept hfollow hdirectory) (List.cons_ne_nil _ _),
      follow_name hdirectory hdots hshort fun h => by simp [hfile] at h, follow_nil, hfile]
  rw [read, hwalk]

end DongleLink.Host.Files
