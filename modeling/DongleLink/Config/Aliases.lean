/-!
# DongleLink.Config.Aliases

Short names for targets.  Each name has one meaning, and the names keep the
order in which they were given.
-/

namespace DongleLink

/-- Names and what they stand for. -/
structure Aliases where
  entries : List (String × String)
  nodup : (entries.map Prod.fst).Nodup
  deriving DecidableEq, Repr

namespace Aliases

/-- No names at all. -/
def empty : Aliases := ⟨[], List.nodup_nil⟩

instance : Inhabited Aliases := ⟨empty⟩

/-- What a name stands for. -/
def get? (a : Aliases) (name : String) : Option String := a.entries.lookup name

/-- What a name stands for, or else the name itself. -/
def resolve (a : Aliases) (name : String) : String := (a.get? name).getD name

/-- The names but one. -/
def erase (a : Aliases) (name : String) : Aliases where
  entries := a.entries.filter (·.1 ≠ name)
  nodup := by
    have h := a.nodup
    exact List.Nodup.sublist (List.Sublist.map Prod.fst List.filter_sublist) h

/-- Give a name a meaning; one that it had is forgotten. -/
def insert (a : Aliases) (name target : String) : Aliases where
  entries := (a.erase name).entries ++ [(name, target)]
  nodup := by
    rw [List.map_append, List.nodup_append]
    refine ⟨(a.erase name).nodup, by simp, ?_⟩
    intro x hx y hy hxy
    simp only [List.map_cons, List.map_nil, List.mem_singleton] at hy
    subst hy hxy
    simp [erase] at hx

/-- The names of a list of pairs, a later one taking precedence. -/
def ofList (pairs : List (String × String)) : Aliases :=
  pairs.foldl (fun a (name, target) => a.insert name target) empty

@[simp] theorem resolve_empty (name : String) : empty.resolve name = name := rfl

end Aliases

end DongleLink
