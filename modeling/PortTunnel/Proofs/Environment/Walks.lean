import Mathlib.Data.List.Chain
import Mathlib.Data.List.Nodup
import Mathlib.Data.List.Perm.Subperm
import PortTunnel.Proofs.Environment.Lineage
import PortTunnel.Proofs.NameMap

/-!
# Walks along the parents

A walk goes from an environment to its parent, to the parent of that and so on,
over declared environments and over none of them twice, so no walk is longer
than there are environments.  A walk that cannot go on has come to an
environment without a parent, and then it is a lineage, or to one whose parent
is at fault.  The main result is that this fault, the first on the way, is the
failure.
-/

namespace PortTunnel.Environment

open Config

variable {environments : NameMap Config.Environment} {name : String}

/-- Declared environments, each the parent of the one before it, nobody twice. -/
structure IsWalk (environments : NameMap Config.Environment) (name : String)
    (walk : List Member) : Prop where
  head_eq : (memberNames walk).head? = some name
  declared : ∀ member ∈ walk, environments.get? member.1 = some member.2
  linked : walk.IsChain fun child parent => child.2.parent = some parent.1
  distinct : (memberNames walk).Nodup

/-- What is told about a walk that comes to a fault.  Of a cycle it is said how it goes, from
the environment where the walk enters it and back to that. -/
inductive FirstFault (environments : NameMap Config.Environment) (name : String) :
    Failure → Prop
  | undeclared (absent : environments.get? name = none) :
      FirstFault environments name (.unknownEnvironment name)
  | ownParent {walk : List Member} {child : Member}
      (isWalk : IsWalk environments name (walk ++ [child]))
      (parent_eq : child.2.parent = some child.1) :
      FirstFault environments name
        (.invalidExtends ("environments." ++ child.1 ++ ".extends")
          "environment cannot extend itself")
  | undeclaredParent {walk : List Member} {child : Member} {parent : String}
      (isWalk : IsWalk environments name (walk ++ [child]))
      (parent_eq : child.2.parent = some parent) (absent : environments.get? parent = none) :
      FirstFault environments name
        (.invalidExtends ("environments." ++ child.1 ++ ".extends")
          ("references unknown environment '" ++ parent ++ "'"))
  | cyclic {walk between : List Member} {first child : Member}
      (isWalk : IsWalk environments name (walk ++ first :: between ++ [child]))
      (parent_eq : child.2.parent = some first.1) :
      FirstFault environments name
        (.invalidExtends ("environments." ++ child.1 ++ ".extends")
          ("cyclic environment inheritance: " ++
            String.intercalate " -> "
              (first.1 :: memberNames between ++ [child.1, first.1])))

/-! ## Walks -/

theorem memberNames_append (first second : List Member) :
    memberNames (first ++ second) = memberNames first ++ memberNames second :=
  List.map_append

/-- No walk is longer than there are environments. -/
theorem IsWalk.length_le {walk : List Member} (isWalk : IsWalk environments name walk) :
    walk.length ≤ environments.size := by
  have among : memberNames walk ⊆ environments.names := by
    intro other isOther
    obtain ⟨member, isMember, rfl⟩ := List.mem_map.1 isOther
    exact (NameMap.mem_names_iff _ _).2 ⟨member.2, isWalk.declared member isMember⟩
  have bound := (isWalk.distinct.subperm among).length_le
  rwa [memberNames, NameMap.names, List.length_map, List.length_map] at bound

/-- A walk may begin at any declared environment. -/
theorem isWalk_singleton {environment : Config.Environment}
    (declared : environments.get? name = some environment) :
    IsWalk environments name [(name, environment)] := by
  constructor
  case head_eq => rfl
  case declared => simpa using declared
  case linked => exact List.isChain_singleton _
  case distinct => exact List.nodup_singleton _

/-- A walk of one member begins there. -/
theorem IsWalk.eq_of_singleton {child : Member} (isWalk : IsWalk environments name [child]) :
    child.1 = name :=
  Option.some.inj isWalk.head_eq

/-- The last of a walk is declared. -/
theorem IsWalk.declared_last {walk : List Member} {child : Member}
    (isWalk : IsWalk environments name (walk ++ [child])) :
    environments.get? child.1 = some child.2 :=
  isWalk.declared child (by simp)

/-- A walk goes on exactly with the parent of its last member, if that is declared and new. -/
theorem isWalk_concat_iff {walk : List Member} {child parent : Member} :
    IsWalk environments name (walk ++ [child] ++ [parent]) ↔
      IsWalk environments name (walk ++ [child]) ∧ child.2.parent = some parent.1 ∧
        environments.get? parent.1 = some parent.2 ∧
          parent.1 ∉ memberNames (walk ++ [child]) := by
  have heads : (memberNames (walk ++ [child] ++ [parent])).head? =
      (memberNames (walk ++ [child])).head? := by
    cases walk <;> rfl
  constructor
  · rintro ⟨head_eq, declared, linked, distinct⟩
    rw [memberNames_append, List.nodup_append] at distinct
    rw [List.isChain_append] at linked
    refine ⟨⟨heads ▸ head_eq, fun member isMember => declared member ?_, linked.1, distinct.1⟩,
      linked.2.2 child (by simp) parent (by simp), declared parent (by simp), ?_⟩
    · exact List.mem_append_left _ isMember
    · exact fun isMet => distinct.2.2 _ isMet parent.1 (by simp [memberNames]) rfl
  · rintro ⟨⟨head_eq, declared, linked, distinct⟩, parent_eq, declaredParent, fresh⟩
    constructor
    case head_eq => rw [heads, head_eq]
    case declared =>
      intro member isMember
      rcases List.mem_append.1 isMember with earlier | last
      · exact declared member earlier
      · rwa [List.mem_singleton.1 last]
    case linked =>
      rw [List.isChain_append]
      refine ⟨linked, List.isChain_singleton _, fun last isLast next isNext => ?_⟩
      obtain rfl : child = last := by simpa using isLast
      obtain rfl : parent = next := by simpa using isNext
      exact parent_eq
    case distinct =>
      rw [memberNames_append, List.nodup_append]
      refine ⟨distinct, List.nodup_singleton _, fun other isMet last isLast => ?_⟩
      obtain rfl : last = parent.1 := by simpa [memberNames] using isLast
      rintro rfl
      exact fresh isMet

/-! ## The walk that the lineage is found by -/

/-- Along a walk the search for the lineage stands at the last member and has met all. -/
theorem lineage_eq_of_isWalk {walk : List Member} {child : Member}
    (isWalk : IsWalk environments name (walk ++ [child])) :
    lineage environments name =
      (lineageFrom environments child (memberNames (walk ++ [child])).reverse).map
        (walk ++ ·) := by
  induction walk using List.reverseRecOn generalizing child with
  | nil =>
      obtain rfl := isWalk.eq_of_singleton
      have unchanged (result : Except LineageDefect (List Member)) :
          result.map ([] ++ ·) = result := by
        cases result <;> rfl
      rw [lineage, isWalk.declared_last, unchanged]
      rfl
  | append_singleton before previous ih =>
      obtain ⟨earlier, parent_eq, declared, fresh⟩ := isWalk_concat_iff.1 isWalk
      have different : child.1 ≠ previous.1 := by
        rintro same
        exact fresh (by simp [memberNames, same])
      rw [ih earlier, lineageFrom_of_parent _ parent_eq, if_neg different, declared]
      simp only [List.mem_reverse, if_neg fresh]
      have met_eq : (memberNames (before ++ [previous] ++ [child])).reverse =
          child.1 :: (memberNames (before ++ [previous])).reverse := by
        simp [memberNames]
      rw [met_eq]
      cases lineageFrom environments child
          (child.1 :: (memberNames (before ++ [previous])).reverse) <;>
        simp [Except.map]

/-- A name on a list without repetition is what remains in front when all before it is
dropped. -/
theorem dropWhile_names_eq (before : List Member) (member : Member) (behind : List Member)
    (distinct : (memberNames (before ++ member :: behind)).Nodup) :
    (memberNames (before ++ member :: behind)).dropWhile (· != member.1) =
      memberNames (member :: behind) := by
  rw [memberNames_append, List.dropWhile_append_of_pos]
  · simp [memberNames]
  · intro other isEarlier
    rw [memberNames_append, List.nodup_append] at distinct
    have different := distinct.2.2 other isEarlier member.1 (by simp [memberNames])
    simpa using different

/-- From the last member of a walk on, what is told is the first fault. -/
theorem firstFault_of_lineageFrom {member : Member} {met : List String} {before : List Member}
    {defect : LineageDefect} (isWalk : IsWalk environments name (before ++ [member]))
    (met_eq : met = (memberNames (before ++ [member])).reverse)
    (failed : lineageFrom environments member met = .error defect) :
    FirstFault environments name defect.failure := by
  induction member, met using lineageFrom.induct environments generalizing before with
  | case1 member met orphan =>
      rw [lineageFrom_of_orphan met orphan] at failed
      cases failed
  | case2 member met parent_eq =>
      rw [lineageFrom_of_parent met parent_eq, if_pos rfl] at failed
      cases failed
      exact .ownParent isWalk parent_eq
  | case3 member met parent parent_eq different absent =>
      rw [lineageFrom_of_parent met parent_eq, if_neg different, absent] at failed
      cases failed
      exact .undeclaredParent isWalk parent_eq absent
  | case4 member met parent parent_eq different environment declared unmetParent _ _ ih
  | case5 member met parent parent_eq different environment declared unmetParent _ _ ih =>
      have fresh : parent ∉ met := by simpa using unmetParent
      rw [lineageFrom_of_parent met parent_eq, if_neg different, declared] at failed
      simp only [if_neg fresh] at failed
      have onward : IsWalk environments name (before ++ [member] ++ [(parent, environment)]) :=
        isWalk_concat_iff.2 ⟨isWalk, parent_eq, declared, by
          rw [met_eq, List.mem_reverse] at fresh
          exact fresh⟩
      refine ih onward ?_ (map_eq_error_iff.1 failed)
      rw [memberNames_append _ [(parent, environment)], List.reverse_append, met_eq]
      rfl
  | case6 member met parent parent_eq different environment declared stale =>
      have isMet : parent ∈ met := by simpa using stale
      rw [lineageFrom_of_parent met parent_eq, if_neg different, declared] at failed
      simp only [if_pos isMet, Except.error.injEq] at failed
      rw [met_eq, List.mem_reverse] at isMet
      obtain ⟨first, isFirst, rfl⟩ := List.mem_map.1 isMet
      -- The parent stands before the last member, so the cycle has two members at least.
      have isEarlier : first ∈ before := by
        rcases List.mem_append.1 isFirst with earlier | last
        · exact earlier
        · rw [List.mem_singleton.1 last] at different
          exact absurd rfl different
      obtain ⟨walk, between, rfl⟩ := List.append_of_mem isEarlier
      have cycle := dropWhile_names_eq walk first (between ++ [member])
        (by simpa using isWalk.distinct)
      rw [← failed, met_eq, List.reverse_reverse, List.append_assoc, List.cons_append, cycle]
      have told := FirstFault.cyclic isWalk parent_eq
      simpa [LineageDefect.failure, parentPlace, memberNames] using told

/-- Where a walk ends before its lineage is found, the search is refused the same way. -/
theorem lineage_eq_error_of_isWalk {walk : List Member} {child : Member} {defect : LineageDefect}
    (isWalk : IsWalk environments name (walk ++ [child]))
    (failed : lineageFrom environments child (memberNames (walk ++ [child])).reverse =
      .error defect) :
    lineage environments name = .error defect := by
  rw [lineage_eq_of_isWalk isWalk, failed]
  rfl

/-- The first fault on the way is what the search for the lineage is refused with. -/
theorem exists_defect_of_firstFault {failure : Failure}
    (fault : FirstFault environments name failure) :
    ∃ defect, lineage environments name = .error defect ∧ defect.failure = failure := by
  cases fault with
  | undeclared absent => exact ⟨.undeclared name, by rw [lineage, absent], rfl⟩
  | @ownParent walk child isWalk parent_eq =>
      refine ⟨.ownParent child.1, lineage_eq_error_of_isWalk isWalk ?_, rfl⟩
      rw [lineageFrom_of_parent _ parent_eq, if_pos rfl]
  | @undeclaredParent walk child parent isWalk parent_eq absent =>
      refine ⟨.undeclaredParent child.1 parent, lineage_eq_error_of_isWalk isWalk ?_, rfl⟩
      have different : parent ≠ child.1 := by
        rintro rfl
        rw [isWalk.declared_last] at absent
        cases absent
      rw [lineageFrom_of_parent _ parent_eq, if_neg different, absent]
  | @cyclic walk between first child isWalk parent_eq =>
      refine ⟨.cyclic child.1 (first.1 :: memberNames between ++ [child.1, first.1]),
        lineage_eq_error_of_isWalk isWalk ?_, rfl⟩
      have isMember : first ∈ walk ++ first :: between ++ [child] := by simp
      have isMet : first.1 ∈ memberNames (walk ++ first :: between ++ [child]) :=
        List.mem_map_of_mem isMember
      have different : first.1 ≠ child.1 := by
        have distinct := isWalk.distinct
        rw [memberNames_append, List.nodup_append] at distinct
        exact distinct.2.2 _ (by simp [memberNames]) _ (by simp [memberNames])
      have cycle := dropWhile_names_eq walk first (between ++ [child])
        (by simpa using isWalk.distinct)
      rw [lineageFrom_of_parent _ parent_eq, if_neg different, isWalk.declared _ isMember]
      simp only [List.mem_reverse, if_pos isMet, List.reverse_reverse]
      rw [List.append_assoc, List.cons_append, cycle]
      simp [memberNames]

/-- The search for a lineage comes to an end, for no walk is longer than there are
environments.  It returns the lineage exactly if there is one, and otherwise it tells of the
first fault on the way. -/
theorem lineage_found_or_first_fault_told (environments : NameMap Config.Environment)
    (name : String) :
    (∀ walk, IsWalk environments name walk → walk.length ≤ environments.size) ∧
      (∀ members, lineage environments name = .ok members ↔
        IsLineage environments name members) ∧
      ∀ failure, (lineage environments name).mapError LineageDefect.failure = .error failure ↔
        FirstFault environments name failure := by
  refine ⟨fun _ isWalk => isWalk.length_le, fun _ => lineage_eq_ok_iff, fun failure => ?_⟩
  rw [mapError_eq_error_iff]
  constructor
  · rintro ⟨defect, failed, rfl⟩
    cases declared : environments.get? name with
    | none =>
        rw [lineage, declared] at failed
        cases failed
        exact .undeclared declared
    | some environment =>
        rw [lineage, declared] at failed
        have isWalk : IsWalk environments name ([] ++ [(name, environment)]) :=
          isWalk_singleton declared
        exact firstFault_of_lineageFrom isWalk rfl failed
  · exact exists_defect_of_firstFault

end PortTunnel.Environment
