import PortTunnel.Config.Basic
import PortTunnel.Failure

/-!
# Lineages of environments

The lineage of an environment is itself, its parent, the parent of that and so
on, up to an environment without a parent.  The walk along the parents remembers
whom it met, so it comes to an end: at the last ancestor, at a parent that is
not declared, or where it would meet somebody again.
-/

namespace PortTunnel.Environment

open Config

/-- An environment with its name. -/
abbrev Member := String × Config.Environment

/-- Why an environment has no lineage. -/
inductive LineageDefect where
  | undeclared (name : String)
  | ownParent (child : String)
  | undeclaredParent (child parent : String)
  /-- The walk comes back; the cycle starts and ends with the same name. -/
  | cyclic (child : String) (cycle : List String)
  deriving DecidableEq, Repr

/-- The place of the parent of an environment. -/
def parentPlace (name : String) : String :=
  "environments." ++ name ++ ".extends"

/-- What a defect is called. -/
def LineageDefect.failure : LineageDefect → Failure
  | undeclared name => .unknownEnvironment name
  | ownParent child => .invalidExtends (parentPlace child) "environment cannot extend itself"
  | undeclaredParent child parent =>
      .invalidExtends (parentPlace child) ("references unknown environment '" ++ parent ++ "'")
  | cyclic child cycle =>
      .invalidExtends (parentPlace child)
        ("cyclic environment inheritance: " ++ String.intercalate " -> " cycle)

/-- The declared names that a walk has not met yet. -/
def unmet (environments : NameMap Config.Environment) (met : List String) : List String :=
  environments.names.filter fun name => !met.contains name

/-- A declared name that was not met is among the unmet ones. -/
theorem mem_unmet {environments : NameMap Config.Environment} {met : List String}
    {name : String} {environment : Config.Environment}
    (declared : environments.get? name = some environment) (fresh : met.contains name = false) :
    name ∈ unmet environments met := by
  obtain ⟨entry, found, _⟩ := Option.map_eq_some_iff.1 declared
  have member := List.mem_of_find?_eq_some found
  have same := List.find?_some found
  refine List.mem_filter.2 ⟨?_, by simp only [fresh, Bool.not_false]⟩
  exact List.mem_map.2 ⟨entry, member, by simpa using same⟩

/-- Meeting a new name leaves fewer unmet. -/
theorem length_unmet_cons_lt {environments : NameMap Config.Environment} {met : List String}
    {name : String} {environment : Config.Environment}
    (declared : environments.get? name = some environment) (fresh : met.contains name = false) :
    (unmet environments (name :: met)).length < (unmet environments met).length := by
  have shrinks : unmet environments (name :: met)
      = (unmet environments met).filter fun other => other != name := by
    simp only [unmet, List.filter_filter, List.contains_cons, Bool.not_or]
    rfl
  rw [shrinks]
  exact List.length_filter_lt_length_iff_exists.2 ⟨name, mem_unmet declared fresh, by simp⟩

/-- The lineage from a member on.  `met` are the names met so far, that of the
member first. -/
def lineageFrom (environments : NameMap Config.Environment) (member : Member)
    (met : List String) : Except LineageDefect (List Member) :=
  match member.2.parent with
  | none => .ok [member]
  | some parent =>
      if parent = member.1 then .error (.ownParent member.1)
      else
        match _ : environments.get? parent with
        | none => .error (.undeclaredParent member.1 parent)
        | some environment =>
            if _ : met.contains parent = false then
              match lineageFrom environments (parent, environment) (parent :: met) with
              | .ok ancestors => .ok (member :: ancestors)
              | .error defect => .error defect
            else
              .error (.cyclic member.1 (met.reverse.dropWhile (· != parent) ++ [parent]))
termination_by (unmet environments met).length
decreasing_by exact length_unmet_cons_lt ‹_› ‹_›

/-- The lineage of an environment, itself first. -/
def lineage (environments : NameMap Config.Environment) (name : String) :
    Except LineageDefect (List Member) :=
  match environments.get? name with
  | none => .error (.undeclared name)
  | some environment => lineageFrom environments (name, environment) [name]

end PortTunnel.Environment
