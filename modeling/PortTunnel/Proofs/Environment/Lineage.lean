import PortTunnel.Environment.Lineage
import PortTunnel.Proofs.Except

/-!
# Environments that have a lineage

A lineage is a path along the parents: every member is declared, each is the
parent of the one before it, the last has no parent, and nobody is on it twice.
The walk along the parents finds the lineage of an environment exactly if there
is one, and there is at most one.
-/

namespace PortTunnel.Environment

open Config

/-! ## Paths along the parents -/

variable {environments : NameMap Config.Environment}

/-- Declared environments, each the parent of the one before it, up to one that
has no parent. -/
inductive Ancestry (environments : NameMap Config.Environment) : List Member → Prop
  | root {member : Member} (declared : environments.get? member.1 = some member.2)
      (orphan : member.2.parent = none) : Ancestry environments [member]
  | child {member parent : Member} {ancestors : List Member}
      (declared : environments.get? member.1 = some member.2)
      (parent_eq : member.2.parent = some parent.1)
      (above : Ancestry environments (parent :: ancestors)) :
      Ancestry environments (member :: parent :: ancestors)

/-- The names of members. -/
def memberNames (members : List Member) : List String :=
  members.map (·.1)

/-- An environment and its ancestors, nobody twice. -/
structure IsLineage (environments : NameMap Config.Environment) (name : String)
    (members : List Member) : Prop where
  ancestry : Ancestry environments members
  head_eq : (memberNames members).head? = some name
  distinct : (memberNames members).Nodup

/-- The first of an ancestry is declared. -/
theorem Ancestry.declared {member : Member} {ancestors : List Member}
    (ancestry : Ancestry environments (member :: ancestors)) :
    environments.get? member.1 = some member.2 := by
  cases ancestry with
  | root declared => exact declared
  | child declared => exact declared

/-- What the walk finds from a member on: an ancestry that begins with the member
and goes on with nobody whom the walk has met. -/
structure FoundFrom (environments : NameMap Config.Environment) (member : Member)
    (met : List String) (members : List Member) : Prop where
  ancestry : Ancestry environments members
  head_eq : members.head? = some member
  distinct : (memberNames members).Nodup
  unmet : ∀ name ∈ memberNames members.tail, name ∉ met

namespace FoundFrom

variable {member : Member} {met : List String} {members : List Member}

/-- From a member with a parent, what is found goes on with what is found from the parent,
unless the walk has met that. -/
theorem iff_parent (declared : environments.get? member.1 = some member.2)
    (memberMet : member.1 ∈ met)
    {name : String} (parent_eq : member.2.parent = some name) :
    FoundFrom environments member met members ↔
      ∃ environment ancestors,
        environments.get? name = some environment ∧ name ∉ met ∧ members = member :: ancestors ∧
          FoundFrom environments (name, environment) (name :: met) ancestors := by
  constructor
  · rintro ⟨ancestry, head_eq, distinct, unmet⟩
    cases ancestry with
    | root _ orphan =>
        obtain rfl := Option.some.inj head_eq
        rw [orphan] at parent_eq
        cases parent_eq
    | @child first above rest _ above_eq later =>
        obtain rfl := Option.some.inj head_eq
        obtain rfl : above.1 = name := Option.some.inj (above_eq.symm.trans parent_eq)
        obtain ⟨-, distinctLater⟩ := List.nodup_cons.1 distinct
        obtain ⟨aboveFresh, -⟩ := List.nodup_cons.1 distinctLater
        refine ⟨above.2, above :: rest, later.declared, unmet _ List.mem_cons_self, rfl, later,
          rfl, distinctLater, ?_⟩
        intro other among isMet
        rcases List.mem_cons.1 isMet with rfl | isMet
        · exact aboveFresh among
        · exact unmet other (List.mem_cons_of_mem _ among) isMet
  · rintro ⟨environment, ancestors, -, fresh, rfl, ancestry, head_eq, distinct, unmet⟩
    cases ancestors with
    | nil => cases head_eq
    | cons first rest =>
        obtain rfl := Option.some.inj head_eq
        have unmetAll : ∀ other ∈ memberNames ((name, environment) :: rest), other ∉ met := by
          intro other among isMet
          rcases List.mem_cons.1 among with rfl | later
          · exact fresh isMet
          · exact unmet other later (List.mem_cons_of_mem _ isMet)
        constructor
        case ancestry => exact .child declared parent_eq ancestry
        case head_eq => rfl
        case distinct =>
          exact List.nodup_cons.2 ⟨fun again => unmetAll _ again memberMet, distinct⟩
        case unmet => exact unmetAll

/-- From a member without a parent only the member itself is found. -/
theorem iff_orphan (declared : environments.get? member.1 = some member.2)
    (orphan : member.2.parent = none) :
    FoundFrom environments member met members ↔ members = [member] := by
  constructor
  · rintro ⟨ancestry, head_eq, -, -⟩
    cases ancestry with
    | root =>
        obtain rfl := Option.some.inj head_eq
        rfl
    | child _ parent_eq =>
        obtain rfl := Option.some.inj head_eq
        rw [orphan] at parent_eq
        cases parent_eq
  · rintro rfl
    exact ⟨.root declared orphan, rfl, by simp [memberNames], by simp [memberNames]⟩

end FoundFrom

/-- The walk stops at a member without a parent. -/
theorem lineageFrom_of_orphan {member : Member} (met : List String)
    (orphan : member.2.parent = none) :
    lineageFrom environments member met = .ok [member] := by
  rw [lineageFrom, orphan]

/-- The walk goes on with the parent of a member if that is declared and new. -/
theorem lineageFrom_of_parent {member : Member} (met : List String) {parent : String}
    (parent_eq : member.2.parent = some parent) :
    lineageFrom environments member met =
      if parent = member.1 then .error (.ownParent member.1)
      else
        match environments.get? parent with
        | none => .error (.undeclaredParent member.1 parent)
        | some environment =>
            if parent ∈ met then
              .error (.cyclic member.1 (met.reverse.dropWhile (· != parent) ++ [parent]))
            else
              (lineageFrom environments (parent, environment) (parent :: met)).map
                (member :: ·) := by
  rw [lineageFrom, parent_eq]
  by_cases own : parent = member.1
  · simp only [own, if_true]
  · simp only [own, if_false]
    split
    · rename_i undeclared
      rw [undeclared]
    · rename_i environment declared
      rw [declared]
      by_cases isMet : parent ∈ met
      · simp [isMet]
      · simp only [List.contains_eq_mem, isMet, decide_false, dite_true, if_false]
        cases lineageFrom environments (parent, environment) (parent :: met) <;> rfl

/-- The walk returns exactly what there is to find. -/
theorem lineageFrom_eq_ok_iff {member : Member} {met : List String} {members : List Member}
    (declared : environments.get? member.1 = some member.2) (memberMet : member.1 ∈ met) :
    lineageFrom environments member met = .ok members ↔
      FoundFrom environments member met members := by
  induction member, met using lineageFrom.induct environments generalizing members with
  | case1 member met orphan =>
      rw [lineageFrom_of_orphan met orphan, FoundFrom.iff_orphan declared orphan, Except.ok.injEq]
      exact eq_comm
  | case2 member met parent_eq =>
      rw [lineageFrom_of_parent met parent_eq, if_pos rfl,
        FoundFrom.iff_parent declared memberMet parent_eq]
      simp [memberMet]
  | case3 member met parent parent_eq different undeclared =>
      rw [lineageFrom_of_parent met parent_eq, if_neg different, undeclared,
        FoundFrom.iff_parent declared memberMet parent_eq]
      simp [undeclared]
  | case4 member met parent parent_eq different environment declaredParent unmetParent _ _ ih
  | case5 member met parent parent_eq different environment declaredParent unmetParent _ _ ih =>
      have fresh : parent ∉ met := by simpa using unmetParent
      have above {ancestors : List Member} :=
        @ih ancestors declaredParent List.mem_cons_self
      rw [lineageFrom_of_parent met parent_eq, if_neg different, declaredParent]
      simp only [if_neg fresh]
      rw [map_eq_ok_iff, FoundFrom.iff_parent declared memberMet parent_eq]
      simp [above, declaredParent, fresh, and_comm, eq_comm]
  | case6 member met parent parent_eq different environment declaredParent stale =>
      have isMet : parent ∈ met := by simpa using stale
      rw [lineageFrom_of_parent met parent_eq, if_neg different, declaredParent,
        FoundFrom.iff_parent declared memberMet parent_eq]
      simp [isMet]

/-- The lineage of an environment is found exactly if there is one. -/
theorem lineage_eq_ok_iff {name : String} {members : List Member} :
    lineage environments name = .ok members ↔ IsLineage environments name members := by
  unfold lineage
  cases declared : environments.get? name with
  | none =>
      constructor
      · rintro ⟨⟩
      · rintro ⟨ancestry, head_eq, -⟩
        cases members with
        | nil => cases head_eq
        | cons member ancestors =>
            obtain rfl : member.1 = name := Option.some.inj head_eq
            rw [ancestry.declared] at declared
            cases declared
  | some environment =>
      simp only
      rw [lineageFrom_eq_ok_iff declared List.mem_cons_self]
      constructor
      · rintro ⟨ancestry, head_eq, distinct, -⟩
        refine ⟨ancestry, ?_, distinct⟩
        rw [memberNames, List.head?_map, head_eq]
        rfl
      · rintro ⟨ancestry, head_eq, distinct⟩
        cases members with
        | nil => cases head_eq
        | cons member ancestors =>
            obtain rfl : member.1 = name := Option.some.inj head_eq
            obtain rfl : member.2 = environment :=
              Option.some.inj (ancestry.declared.symm.trans declared)
            refine ⟨ancestry, rfl, distinct, ?_⟩
            intro other among isMet
            obtain rfl := List.mem_singleton.1 isMet
            exact (List.nodup_cons.1 distinct).1 among

end PortTunnel.Environment
