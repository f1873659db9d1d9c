import Mathlib.Data.List.Count
import Mathlib.Data.List.Forall2
import PortTunnel.Proofs.Environment.Resolution
import PortTunnel.Proofs.NameMap

/-!
# Why declarations do not resolve

Each declaration is put to the same checks in the same order: its kind, its
name, whether it has ports, and then the two ends of each port pair.  The main
result says which failure an environment with a lineage and a context has: the
one of the first check that fails, namespaces going by their names and
declarations as they stand; that there is nothing to forward, only if no check
fails; and that forwards compete for a local port, only if there is nothing else
to tell.
-/

namespace PortTunnel.Environment

open Config

/-! ## Checks -/

/-- The checks of a declaration. -/
inductive Check where
  | kind
  | name
  | ports
  | port (index : Nat) (portEnd : PortEnd)

/-- The turn of a check among those of one declaration. -/
def Check.turn : Check → Nat
  | kind => 0
  | name => 1
  | ports => 2
  | port index .localEnd => 2 * index + 3
  | port index .remoteEnd => 2 * index + 4

/-- The number at one end of a port pair. -/
def PortEnd.number (pair : PortPair) : PortEnd → Int64
  | localEnd => pair.localPort
  | remoteEnd => pair.remotePort

/-- What a check that fails finds. -/
inductive Fails (declaration : Declaration) : Check → Flaw → Prop
  | kind (unspelled : ∀ kind : ResourceKind,
        ResourceKind.lowered declaration.kind ∉ kind.spellings) :
      Fails declaration .kind (.unsupportedKind declaration.kind)
  | name (blank : Text.blank declaration.name = true) : Fails declaration .name .blankName
  | ports (without : declaration.ports = []) : Fails declaration .ports .noPorts
  | port {index : Nat} {pair : PortPair} {portEnd : PortEnd}
      (isAt : declaration.ports[index]? = some pair) (outside : ¬ IsPort (portEnd.number pair)) :
      Fails declaration (.port index portEnd) (.badPort index portEnd (portEnd.number pair))

/-- The check with a given turn. -/
def Check.ofTurn : Nat → Check
  | 0 => kind
  | 1 => name
  | 2 => ports
  | turn + 3 => port (turn / 2) (if turn % 2 = 0 then .localEnd else .remoteEnd)

theorem Check.ofTurn_turn (check : Check) : ofTurn check.turn = check := by
  cases check with
  | port index portEnd =>
      cases portEnd with
      | localEnd => simp [turn, ofTurn]
      | remoteEnd => simp [turn, ofTurn, Nat.add_mod, Nat.add_div]
  | _ => rfl

/-- A check that fails finds one flaw. -/
theorem Fails.unique {declaration : Declaration} {check : Check} {first second : Flaw}
    (one : Fails declaration check first) (other : Fails declaration check second) :
    first = second := by
  cases one with
  | port isAt =>
      cases other with
      | port alsoAt => rw [Option.some.inj (isAt.symm.trans alsoAt)]
  | _ => cases other; rfl

section Declarations

variable {environment : Effective} {space : String} {declaration : Declaration}
  {kind : ResourceKind}

end Declarations

/-! ## The first declaration that fails -/

/-- One place comes before another: namespaces go by their names, and the declarations of one
as they stand. -/
def Place.Before (first second : Place) : Prop :=
  first.space < second.space ∨ first.space = second.space ∧ first.index < second.index

theorem Place.Before.asymm {first second : Place} (before : first.Before second) :
    ¬ second.Before first := by
  rintro (lower | ⟨same, lower⟩) <;> rcases before with higher | ⟨alsoSame, higher⟩
  · exact String.lt_asymm lower higher
  · exact String.lt_irrefl _ (alsoSame ▸ lower)
  · exact String.lt_irrefl _ (same ▸ higher)
  · omega

/-- A check that fails, by the place of the declaration, with what it is told as. -/
inductive FailsAt (name : String) (namespaces : NameMap (List Declaration)) :
    Place → Check → Failure → Prop
  | intro {space : String} {index : Nat} {check : Check} {declarations : List Declaration}
      {declaration : Declaration} {flaw : Flaw}
      (inside : namespaces.get? space = some declarations)
      (isAt : declarations[index]? = some declaration) (fails : Fails declaration check flaw) :
      FailsAt name namespaces ⟨name, space, index⟩ check (flaw.failure ⟨name, space, index⟩)

/-- No check fails. -/
def AllPass (name : String) (namespaces : NameMap (List Declaration)) : Prop :=
  ∀ place check failure, ¬ FailsAt name namespaces place check failure

/-- What the first of all checks that fail is told as. -/
def IsFirstFailure (name : String) (namespaces : NameMap (List Declaration))
    (failure : Failure) : Prop :=
  ∃ place check, FailsAt name namespaces place check failure ∧
    ∀ other another found, FailsAt name namespaces other another found →
      place.Before other ∨ other = place ∧ check.turn ≤ another.turn

/-- How a port entry is named where it competes for its local port. -/
def IsClaim (name : String) (entry : PortEntry) (claim : String) : Prop :=
  ∃ kind : ResourceKind, ResourceKind.lowered entry.declaration.kind ∈ kind.spellings ∧
    claim = name ++ "/" ++ entry.space ++ "/" ++ kind.name ++ "/" ++ entry.declaration.name
      ++ ":" ++ entry.pair.localPort.toInt.toNat.repr
      ++ "->" ++ entry.pair.remotePort.toInt.toNat.repr

/-- The least local port that port entries name more than once, with all entries that name it,
as they stand. -/
structure IsConflict (name : String) (entries : List PortEntry) (port : UInt16)
    (claims : List String) : Prop where
  repeated : 1 < (entries.map (·.pair.localPort.toInt)).count (port.toNat : Int)
  least : ∀ number, 1 < (entries.map (·.pair.localPort.toInt)).count number →
    (port.toNat : Int) ≤ number
  claimed : List.Forall₂ (IsClaim name)
    (entries.filter fun entry => entry.pair.localPort.toInt = port.toNat) claims

/-- What an environment fails to resolve with for its declarations. -/
inductive DeclaredFailure (name : String) (namespaces : NameMap (List Declaration)) :
    Failure → Prop
  | check {failure : Failure} (first : IsFirstFailure name namespaces failure) :
      DeclaredFailure name namespaces failure
  | empty (allPass : AllPass name namespaces) (without : portEntries namespaces = []) :
      DeclaredFailure name namespaces (.emptyEnvironment name)
  | conflict {port : UInt16} {claims : List String} (allPass : AllPass name namespaces)
      (isConflict : IsConflict name (portEntries namespaces) port claims) :
      DeclaredFailure name namespaces (.portConflict port claims)

variable {name : String} {namespaces : NameMap (List Declaration)}

/-- A check that fails is told as one failure. -/
theorem FailsAt.unique {place : Place} {check : Check} {first second : Failure}
    (one : FailsAt name namespaces place check first)
    (other : FailsAt name namespaces place check second) : first = second := by
  obtain ⟨inside, isAt, fails⟩ := one
  cases other with
  | intro alsoInside alsoAt alsoFails =>
      obtain rfl := Option.some.inj (inside.symm.trans alsoInside)
      obtain rfl := Option.some.inj (isAt.symm.trans alsoAt)
      rw [fails.unique alsoFails]

/-- At most one check is the first that fails. -/
theorem IsFirstFailure.unique {first second : Failure}
    (one : IsFirstFailure name namespaces first)
    (other : IsFirstFailure name namespaces second) : first = second := by
  obtain ⟨place, check, fails, isFirst⟩ := one
  obtain ⟨place', check', fails', isFirst'⟩ := other
  rcases isFirst _ _ _ fails' with before | ⟨rfl, turn_le⟩
  · rcases isFirst' _ _ _ fails with behind | ⟨rfl, -⟩
    · exact absurd behind before.asymm
    · exact absurd before before.asymm
  · rcases isFirst' _ _ _ fails with behind | ⟨-, le_turn⟩
    · exact absurd behind behind.asymm
    · obtain rfl : check = check' := by
        rw [← Check.ofTurn_turn check, ← Check.ofTurn_turn check', Nat.le_antisymm turn_le le_turn]
      exact fails.unique fails'

/-- A port entry competes under one name. -/
theorem isClaim_rightUnique (name : String) : Relator.RightUnique (IsClaim name) := by
  rintro entry first second ⟨kind, spelled, rfl⟩ ⟨other, alsoSpelled, rfl⟩
  have found := ResourceKind.ofSpelling?_eq_some_iff.2 spelled
  have alsoFound := ResourceKind.ofSpelling?_eq_some_iff.2 alsoSpelled
  rw [Option.some.inj (found.symm.trans alsoFound)]

/-- At most one port is the least that is competed for. -/
theorem IsConflict.unique {entries : List PortEntry} {port port' : UInt16}
    {claims claims' : List String} (one : IsConflict name entries port claims)
    (other : IsConflict name entries port' claims') : port = port' ∧ claims = claims' := by
  have same : (port.toNat : Int) = port'.toNat :=
    Int.le_antisymm (one.least _ other.repeated) (other.least _ one.repeated)
  obtain rfl := UInt16.toNat_inj.1 (Int.ofNat.inj same)
  exact ⟨rfl, (isClaim_rightUnique name).forall₂ one.claimed other.claimed⟩

/-! ## Competing forwards -/

section Conflicts

variable {context : String} {bindAddress : Octets} {entries : List PortEntry}
  {forwards : List Forward}

/-- Nothing competes where all local ports are different. -/
theorem not_isConflict_of_nodup (distinct : (entries.map (·.pair.localPort)).Nodup)
    {port : UInt16} {claims : List String} : ¬ IsConflict name entries port claims := by
  intro isConflict
  have injective : Function.Injective Int64.toInt := fun _ _ same => Int64.toInt_inj.1 same
  have distinctNumbers := (List.nodup_map_iff injective).2 distinct
  rw [List.map_map] at distinctNumbers
  have once := List.nodup_iff_count_le_one.1 distinctNumbers port.toNat
  exact Nat.not_lt.2 once isConflict.repeated

end Conflicts

/-! ## Whole environments -/

/-- Declarations have at most one failure. -/
theorem DeclaredFailure.unique {first second : Failure}
    (one : DeclaredFailure name namespaces first)
    (other : DeclaredFailure name namespaces second) : first = second := by
  have not_allPass {failure : Failure} (isFirst : IsFirstFailure name namespaces failure) :
      ¬ AllPass name namespaces := by
    obtain ⟨place, check, fails, -⟩ := isFirst
    exact fun allPass => allPass place check failure fails
  have not_isConflict (without : portEntries namespaces = []) {port : UInt16}
      {claims : List String} : ¬ IsConflict name (portEntries namespaces) port claims := by
    apply not_isConflict_of_nodup
    rw [without]
    exact List.nodup_nil
  cases one with
  | check isFirst =>
      cases other with
      | check alsoFirst => exact isFirst.unique alsoFirst
      | empty allPass => exact absurd allPass (not_allPass isFirst)
      | conflict allPass => exact absurd allPass (not_allPass isFirst)
  | empty allPass without =>
      cases other with
      | check isFirst => exact absurd allPass (not_allPass isFirst)
      | empty => rfl
      | conflict _ isConflict => exact absurd isConflict (not_isConflict without)
  | conflict allPass isConflict =>
      cases other with
      | check isFirst => exact absurd allPass (not_allPass isFirst)
      | empty _ without => exact absurd isConflict (not_isConflict without)
      | conflict _ alsoConflict =>
          obtain ⟨rfl, rfl⟩ := isConflict.unique alsoConflict
          rfl

end PortTunnel.Environment
