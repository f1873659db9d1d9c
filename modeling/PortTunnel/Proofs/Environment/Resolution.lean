import Mathlib.Data.List.Forall2
import Mathlib.Data.List.Nodup
import PortTunnel.Environment.Resolution
import PortTunnel.Proofs.Environment.Inheritance

/-!
# Environments that resolve

What an environment forwards is described by its port entries: one for each port
pair of each declaration, namespaces in the order of their names.  The main
result says when an environment resolves, by what is declared and inherited
alone, and that its forwards are then those that the port entries describe, one
for each and in the same order.
-/

namespace PortTunnel

theorem ResourceKind.ofSpelling?_eq_some_iff {word : String} {kind : ResourceKind} :
    ofSpelling? word = some kind ↔ lowered word ∈ kind.spellings := by
  constructor
  · intro found
    simpa using List.find?_some found
  · intro spelled
    -- No word spells two kinds, so the first kind that is spelled is the only one.
    have disjoint : ∀ kind ∈ all, ∀ other ∈ all, ∀ spelling ∈ kind.spellings,
        spelling ∈ other.spellings → other = kind := by
      decide
    have isKind (kind : ResourceKind) : kind ∈ all := by
      cases kind <;> decide
    obtain ⟨other, found⟩ : ∃ other, ofSpelling? word = some other :=
      Option.isSome_iff_exists.1 (List.find?_isSome.2 ⟨kind, isKind kind, by simpa using spelled⟩)
    have alsoSpelled : lowered word ∈ other.spellings := by
      simpa using List.find?_some found
    rw [found, disjoint kind (isKind kind) other (isKind other) _ spelled alsoSpelled]

namespace Environment

open Config

/-! ## Port entries and the forwards that they describe -/

/-- A port pair with the declaration and the namespace that it belongs to. -/
structure PortEntry where
  space : String
  declaration : Declaration
  pair : PortPair

/-- The port entries of a declaration. -/
def declarationEntries (space : String) (declaration : Declaration) : List PortEntry :=
  declaration.ports.map fun pair => ⟨space, declaration, pair⟩

/-- All port entries, in order. -/
def portEntries (namespaces : NameMap (List Declaration)) : List PortEntry :=
  namespaces.toList.flatMap fun entry => entry.2.flatMap (declarationEntries entry.1)

/-- Whether a number is that of a port. -/
def IsPort (number : Int64) : Prop :=
  1 ≤ number.toInt ∧ number.toInt ≤ 65535

/-- What a declaration needs to be valid. -/
structure IsSound (declaration : Declaration) : Prop where
  spelled : ∃ kind : ResourceKind, ResourceKind.lowered declaration.kind ∈ kind.spellings
  named : Text.blank declaration.name = false
  hasPorts : declaration.ports ≠ []
  inRange : ∀ pair ∈ declaration.ports, IsPort pair.localPort ∧ IsPort pair.remotePort

/-- A forward is what a port entry asks for, with the context and the address that
are inherited. -/
structure Describes (context : String) (bindAddress : Octets) (entry : PortEntry)
    (forward : Forward) : Prop where
  context_eq : forward.context = context
  space_eq : forward.space = entry.space
  spelled : ResourceKind.lowered entry.declaration.kind ∈ forward.kind.spellings
  name_eq : forward.name = entry.declaration.name
  localPort_eq : (forward.localPort.toNat : Int) = entry.pair.localPort.toInt
  remotePort_eq : (forward.remotePort.toNat : Int) = entry.pair.remotePort.toInt
  bindAddress_eq : forward.bindAddress = .v4 (entry.pair.bindAddress.getD bindAddress)
  container_eq : forward.container = entry.declaration.container.filter (· ≠ "")

/-! ## Single declarations -/

theorem portOf?_eq_some_iff {number : Int64} {port : UInt16} :
    portOf? number = some port ↔ IsPort number ∧ (port.toNat : Int) = number.toInt := by
  unfold portOf? IsPort
  by_cases inRange : 1 ≤ number.toInt ∧ number.toInt ≤ 65535
  · have small : number.toInt.toNat < 65536 := by omega
    rw [if_pos inRange, Option.some.injEq, ← UInt16.toNat_inj, UInt16.toNat_ofNat_of_lt' small]
    omega
  · rw [if_neg inRange]
    simp [inRange]

theorem portOf?_eq_none_iff {number : Int64} : portOf? number = none ↔ ¬ IsPort number := by
  unfold portOf? IsPort
  split <;> simp [*]

section Declarations

variable {environment : Effective} {space : String} {declaration : Declaration}
  {kind : ResourceKind}

/-- A forward with the fields of a port entry is described by it, and no other is. -/
theorem describes_iff {pair : PortPair} {localPort remotePort : UInt16} {forward : Forward}
    (spelled : ResourceKind.ofSpelling? declaration.kind = some kind)
    (local_eq : portOf? pair.localPort = some localPort)
    (remote_eq : portOf? pair.remotePort = some remotePort) :
    Describes environment.context environment.bindAddress ⟨space, declaration, pair⟩ forward ↔
      forward = forwardOf environment space declaration kind pair localPort remotePort := by
  have kept_iff (container : String) : (!container.isEmpty) = decide (container ≠ "") := by
    by_cases isEmpty : container = ""
    · simp [isEmpty]
    · simp [isEmpty]
  have localPort_eq := (portOf?_eq_some_iff.1 local_eq).2
  have remotePort_eq := (portOf?_eq_some_iff.1 remote_eq).2
  constructor
  · intro described
    obtain ⟨context_eq, space_eq, alsoSpelled, name_eq, itsLocal_eq, itsRemote_eq, bindAddress_eq,
      container_eq⟩ := described
    have kind_eq : forward.kind = kind := by
      have found := ResourceKind.ofSpelling?_eq_some_iff.2 alsoSpelled
      exact Option.some.inj (found.symm.trans spelled)
    have sameLocal : forward.localPort = localPort := by
      apply UInt16.toNat_inj.1
      exact Int.ofNat.inj (itsLocal_eq.trans localPort_eq.symm)
    have sameRemote : forward.remotePort = remotePort := by
      apply UInt16.toNat_inj.1
      exact Int.ofNat.inj (itsRemote_eq.trans remotePort_eq.symm)
    simp only [forwardOf, kept_iff]
    cases forward
    simp_all
  · rintro rfl
    constructor
    case context_eq => rfl
    case space_eq => rfl
    case spelled => exact ResourceKind.ofSpelling?_eq_some_iff.1 spelled
    case name_eq => rfl
    case localPort_eq => exact localPort_eq
    case remotePort_eq => exact remotePort_eq
    case bindAddress_eq => rfl
    case container_eq => simp only [forwardOf, kept_iff]

/-- Port pairs are accepted if all their ports are, wherever the count of them starts. -/
theorem pairForwards_eq_ok_iff {index : Nat} {pairs : List PortPair} {forwards : List Forward}
    (spelled : ResourceKind.ofSpelling? declaration.kind = some kind) :
    pairForwards environment space declaration kind index pairs = .ok forwards ↔
      (∀ pair ∈ pairs, IsPort pair.localPort ∧ IsPort pair.remotePort) ∧
        List.Forall₂
          (fun pair =>
            Describes environment.context environment.bindAddress ⟨space, declaration, pair⟩)
          pairs forwards := by
  induction pairs generalizing index forwards with
  | nil =>
      simp only [pairForwards, Except.ok.injEq, List.forall₂_nil_left_iff]
      simp [eq_comm]
  | cons pair rest ih =>
      rw [pairForwards]
      cases local_eq : portOf? pair.localPort with
      | none =>
          have outside := portOf?_eq_none_iff.1 local_eq
          simp [outside]
      | some localPort =>
          cases remote_eq : portOf? pair.remotePort with
          | none =>
              have outside := portOf?_eq_none_iff.1 remote_eq
              simp [outside]
          | some remotePort =>
              have localInside := (portOf?_eq_some_iff.1 local_eq).1
              have remoteInside := (portOf?_eq_some_iff.1 remote_eq).1
              simp only [bind_eq_ok_iff, ih, List.forall₂_cons_left_iff,
                describes_iff spelled local_eq remote_eq, List.forall_mem_cons]
              constructor
              · rintro ⟨forwards, ⟨inRange, described⟩, ⟨⟩⟩
                exact ⟨⟨⟨localInside, remoteInside⟩, inRange⟩, _, _, rfl, described, rfl⟩
              · rintro ⟨⟨-, inRange⟩, _, forwards, rfl, described, rfl⟩
                exact ⟨forwards, ⟨inRange, described⟩, rfl⟩

/-- A declaration is accepted if it is sound. -/
theorem declarationForwards_eq_ok_iff {forwards : List Forward} :
    declarationForwards environment space declaration = .ok forwards ↔
      IsSound declaration ∧
        List.Forall₂ (Describes environment.context environment.bindAddress)
          (declarationEntries space declaration) forwards := by
  rw [declarationEntries, List.forall₂_map_left_iff]
  unfold declarationForwards
  cases spelled : ResourceKind.ofSpelling? declaration.kind with
  | none =>
      constructor
      · rintro ⟨⟩
      · rintro ⟨⟨⟨kind, alsoSpelled⟩, -⟩, -⟩
        rw [ResourceKind.ofSpelling?_eq_some_iff.2 alsoSpelled] at spelled
        cases spelled
  | some kind =>
      have isSpelled := ResourceKind.ofSpelling?_eq_some_iff.1 spelled
      simp only
      constructor
      · intro accepted
        split at accepted
        · cases accepted
        · rename_i named
          split at accepted
          · cases accepted
          · rename_i hasPorts
            obtain ⟨inRange, described⟩ := (pairForwards_eq_ok_iff spelled).1 accepted
            refine ⟨⟨⟨kind, isSpelled⟩, Bool.eq_false_iff.2 named, ?_, inRange⟩, described⟩
            rintro without
            rw [without] at hasPorts
            exact hasPorts rfl
      · rintro ⟨⟨-, named, hasPorts, inRange⟩, described⟩
        rw [named, if_neg Bool.false_ne_true, if_neg (by simpa using hasPorts)]
        exact (pairForwards_eq_ok_iff spelled).2 ⟨inRange, described⟩

end Declarations

/-! ## All declarations -/

theorem forall₂_append_iff {α β : Type} {related : α → β → Prop} {first second : List α}
    {values : List β} :
    List.Forall₂ related (first ++ second) values ↔
      ∃ before after, values = before ++ after ∧ List.Forall₂ related first before ∧
        List.Forall₂ related second after := by
  induction first generalizing values with
  | nil => simp
  | cons head rest ih =>
      simp only [List.cons_append, List.forall₂_cons_left_iff, ih]
      constructor
      · rintro ⟨value, _, holds, ⟨before, after, rfl, heads, tails⟩, rfl⟩
        exact ⟨value :: before, after, rfl, ⟨value, before, holds, heads, rfl⟩, tails⟩
      · rintro ⟨_, after, rfl, ⟨value, before, holds, heads, rfl⟩, tails⟩
        exact ⟨value, before ++ after, holds, ⟨before, after, rfl, heads, tails⟩, rfl⟩

/-- The declarations of an environment are accepted if all of them are sound. -/
theorem allForwards_eq_ok_iff {environment : Effective} {placed : List (Place × Declaration)}
    {forwards : List Forward} :
    allForwards environment placed = .ok forwards ↔
      (∀ entry ∈ placed, IsSound entry.2) ∧
        List.Forall₂ (Describes environment.context environment.bindAddress)
          (placed.flatMap fun entry => declarationEntries entry.1.space entry.2) forwards := by
  induction placed generalizing forwards with
  | nil =>
      simp only [allForwards, Except.ok.injEq, List.flatMap_nil, List.forall₂_nil_left_iff]
      simp [eq_comm]
  | cons entry rest ih =>
      obtain ⟨place, declaration⟩ := entry
      rw [allForwards, List.flatMap_cons, forall₂_append_iff, List.forall_mem_cons]
      cases declared : declarationForwards environment place.space declaration with
      | error flaw =>
          constructor
          · rintro ⟨⟩
          · rintro ⟨⟨sound, -⟩, first, second, -, described, -⟩
            rw [declarationForwards_eq_ok_iff.2 ⟨sound, described⟩] at declared
            cases declared
      | ok first =>
          obtain ⟨sound, described⟩ := declarationForwards_eq_ok_iff.1 declared
          simp only [bind_eq_ok_iff, ih]
          constructor
          · rintro ⟨second, ⟨sounds, describedRest⟩, ⟨⟩⟩
            exact ⟨⟨sound, sounds⟩, first, second, rfl, described, describedRest⟩
          · rintro ⟨⟨-, sounds⟩, first', second, rfl, described', describedRest⟩
            have both := declarationForwards_eq_ok_iff.2 ⟨sound, described'⟩
            obtain rfl : first = first' := Except.ok.inj (declared.symm.trans both)
            exact ⟨second, ⟨sounds, describedRest⟩, rfl⟩

/-- The places of declarations do not change what they ask for. -/
theorem flatMap_placedDeclarations (environment : Effective) :
    ((placedDeclarations environment).flatMap fun entry =>
      declarationEntries entry.1.space entry.2) = portEntries environment.namespaces := by
  unfold placedDeclarations portEntries
  rw [List.flatMap_assoc]
  congr 1
  funext entry
  rw [List.flatMap_map]
  conv_rhs => rw [← List.zipIdx_map_fst 0 entry.2, List.flatMap_map]

theorem forall_placedDeclarations_iff (environment : Effective) (property : Declaration → Prop) :
    (∀ entry ∈ placedDeclarations environment, property entry.2) ↔
      ∀ entry ∈ environment.namespaces.toList, ∀ declaration ∈ entry.2, property declaration := by
  constructor
  · intro all entry inside declaration declared
    obtain ⟨index, isAt⟩ := List.mem_iff_getElem?.1 declared
    refine all (⟨environment.name, entry.1, index⟩, declaration) ?_
    refine List.mem_flatMap.2 ⟨entry, inside, List.mem_map.2 ⟨(declaration, index), ?_, rfl⟩⟩
    exact List.mk_mem_zipIdx_iff_getElem?.2 isAt
  · intro all placed declared
    obtain ⟨entry, inside, isPlaced⟩ := List.mem_flatMap.1 declared
    obtain ⟨indexed, isIndexed, rfl⟩ := List.mem_map.1 isPlaced
    have isAt := List.mk_mem_zipIdx_iff_getElem?.1 isIndexed
    exact all entry inside indexed.1 (List.mem_of_getElem? isAt)

/-! ## Local ports -/

/-- No port is contested if all of them are different. -/
theorem contestedPort?_eq_none_iff {forwards : List Forward} :
    contestedPort? forwards = none ↔ (forwards.map (·.localPort)).Nodup := by
  simp only [contestedPort?, List.min?_eq_none_iff, List.filter_eq_nil_iff, decide_eq_true_eq,
    Nat.not_lt, List.nodup_iff_count_le_one]
  constructor
  · intro once port
    by_cases used : port ∈ forwards.map (·.localPort)
    · exact once port used
    · rw [List.count_eq_zero_of_not_mem used]
      exact Nat.zero_le 1
  · intro once port _
    exact once port

/-- Forwards listen on the local ports that the port entries name. -/
theorem localPort_numbers_eq {context : String} {bindAddress : Octets} {entries : List PortEntry}
    {forwards : List Forward}
    (described : List.Forall₂ (Describes context bindAddress) entries forwards) :
    forwards.map (fun forward => (forward.localPort.toNat : Int)) =
      entries.map fun entry => entry.pair.localPort.toInt := by
  induction described with
  | nil => rfl
  | cons describes _ ih =>
      rw [List.map_cons, List.map_cons, ih, describes.localPort_eq]

/-- Forwards have different local ports if the port entries that describe them do. -/
theorem nodup_localPort_iff {context : String} {bindAddress : Octets} {entries : List PortEntry}
    {forwards : List Forward}
    (described : List.Forall₂ (Describes context bindAddress) entries forwards) :
    (forwards.map (·.localPort)).Nodup ↔ (entries.map (·.pair.localPort)).Nodup := by
  have numbers_eq := localPort_numbers_eq described
  have portInjective : Function.Injective fun port : UInt16 => (port.toNat : Int) :=
    fun _ _ same => UInt16.toNat_inj.1 (Int.ofNat.inj same)
  have numberInjective : Function.Injective Int64.toInt := fun _ _ same => Int64.toInt_inj.1 same
  calc (forwards.map (·.localPort)).Nodup
      ↔ ((forwards.map (·.localPort)).map fun port => (port.toNat : Int)).Nodup :=
        (List.nodup_map_iff portInjective).symm
    _ ↔ ((entries.map (·.pair.localPort)).map Int64.toInt).Nodup := by
        rw [List.map_map, List.map_map]
        exact Eq.to_iff (congrArg List.Nodup numbers_eq)
    _ ↔ (entries.map (·.pair.localPort)).Nodup := List.nodup_map_iff numberInjective

/-! ## Whole environments -/

/-- The declarations of namespaces can be forwarded together: each is sound, there is a port
entry, and no local port is wanted twice. -/
structure IsForwardable (namespaces : NameMap (List Declaration)) : Prop where
  sound : ∀ entry ∈ namespaces.toList, ∀ declaration ∈ entry.2, IsSound declaration
  inhabited : portEntries namespaces ≠ []
  distinct : ((portEntries namespaces).map (·.pair.localPort)).Nodup

theorem exists_forall₂ {α β : Type} {related : α → β → Prop} {first : List α}
    (total : ∀ value ∈ first, ∃ image, related value image) :
    ∃ images, List.Forall₂ related first images := by
  induction first with
  | nil => exact ⟨[], .nil⟩
  | cons value rest ih =>
      obtain ⟨image, holds⟩ := total value List.mem_cons_self
      obtain ⟨images, holdAll⟩ := ih fun other later => total other (List.mem_cons_of_mem _ later)
      exact ⟨image :: images, .cons holds holdAll⟩

/-- Sound declarations describe forwards. -/
theorem exists_described (context : String) (bindAddress : Octets)
    {namespaces : NameMap (List Declaration)}
    (sound : ∀ entry ∈ namespaces.toList, ∀ declaration ∈ entry.2, IsSound declaration) :
    ∃ forwards,
      List.Forall₂ (Describes context bindAddress) (portEntries namespaces) forwards := by
  -- Only the context and the address of the environment matter.
  let environment : Effective := ⟨"", context, none, bindAddress, namespaces⟩
  apply exists_forall₂
  intro portEntry isEntry
  obtain ⟨entry, inside, isInside⟩ := List.mem_flatMap.1 isEntry
  obtain ⟨declaration, declared, isDeclared⟩ := List.mem_flatMap.1 isInside
  obtain ⟨pair, isPair, rfl⟩ := List.mem_map.1 isDeclared
  obtain ⟨⟨kind, spelled⟩, -, -, inRange⟩ := sound entry inside declaration declared
  obtain ⟨localInside, remoteInside⟩ := inRange pair isPair
  have exists_port {number : Int64} (inside : IsPort number) : ∃ port, portOf? number = some port :=
    Option.ne_none_iff_exists'.1 fun outside => portOf?_eq_none_iff.1 outside inside
  obtain ⟨localPort, local_eq⟩ := exists_port localInside
  obtain ⟨remotePort, remote_eq⟩ := exists_port remoteInside
  have isKind := ResourceKind.ofSpelling?_eq_some_iff.2 spelled
  let forward := forwardOf environment entry.1 declaration kind pair localPort remotePort
  have described : Describes environment.context environment.bindAddress
      ⟨entry.1, declaration, pair⟩ forward :=
    (describes_iff isKind local_eq remote_eq).2 rfl
  exact ⟨forward, described⟩

/-- An effective environment resolves if its declarations can be forwarded together, and then
to the forwards that they describe. -/
theorem resolve_eq_ok_iff_effective {config : Config} {name : String} {forwards : List Forward} :
    resolve config name = .ok forwards ↔
      ∃ environment, effective config name = .ok environment ∧
        IsForwardable environment.namespaces ∧
          List.Forall₂ (Describes environment.context environment.bindAddress)
            (portEntries environment.namespaces) forwards := by
  unfold resolve
  cases effective config name with
  | error defect =>
      constructor
      · rintro ⟨⟩
      · rintro ⟨environment, ⟨⟩, -⟩
  | ok environment =>
      simp only [bind_eq_ok_iff, allForwards_eq_ok_iff, flatMap_placedDeclarations,
        forall_placedDeclarations_iff environment IsSound]
      constructor
      · rintro ⟨all, ⟨sound, described⟩, accepted⟩
        split at accepted
        · cases accepted
        · rename_i inhabited
          split at accepted
          · cases accepted
          · rename_i uncontested
            cases accepted
            refine ⟨environment, rfl, ⟨sound, ?_, ?_⟩, described⟩
            · intro without
              rw [without, List.forall₂_nil_left_iff] at described
              exact inhabited (List.isEmpty_iff.2 described)
            · exact (nodup_localPort_iff described).1 (contestedPort?_eq_none_iff.1 uncontested)
      · rintro ⟨_, ⟨⟩, ⟨sound, inhabited, distinct⟩, described⟩
        have uncontested : contestedPort? forwards = none :=
          contestedPort?_eq_none_iff.2 ((nodup_localPort_iff described).2 distinct)
        have some : forwards ≠ [] := by
          rintro rfl
          exact inhabited (List.forall₂_nil_right_iff.1 described)
        refine ⟨forwards, ⟨sound, described⟩, ?_⟩
        rw [if_neg (by simpa using some), uncontested]

/-- What an environment needs to resolve: a lineage, on it a visible context, and declarations
that can be forwarded together in the nearest namespaces on it. -/
structure IsResolvable (config : Config) (name : String) (members : List Member)
    (context : String) (namespaces : NameMap (List Declaration)) : Prop where
  isLineage : IsLineage config.environments name members
  context_eq : nearest Target.context config.defaults members = some context
  visible : Text.blank context = false
  provided : ProvidesNamespaces members namespaces
  forwardable : IsForwardable namespaces

/-- The address that port entries inherit. -/
def inheritedAddress (config : Config) (members : List Member) : Octets :=
  (nearest Target.bindAddress config.defaults members).getD .loopback

/-- What resolves is what has an effective environment whose declarations can be forwarded. -/
theorem exists_isResolvable_iff {config : Config} {name : String} {forwards : List Forward} :
    (∃ environment, effective config name = .ok environment ∧
      IsForwardable environment.namespaces ∧
        List.Forall₂ (Describes environment.context environment.bindAddress)
          (portEntries environment.namespaces) forwards) ↔
      ∃ members context namespaces, IsResolvable config name members context namespaces ∧
        List.Forall₂ (Describes context (inheritedAddress config members))
          (portEntries namespaces) forwards := by
  constructor
  · rintro ⟨environment, isEffective, forwardable, described⟩
    obtain ⟨-, members, isLineage, inherits⟩ := effective_eq_ok_iff.1 isEffective
    obtain ⟨context_eq, visible, -, bindAddress_eq, namespaces_eq⟩ := inherits
    have some : environment.namespaces ≠ .empty := by
      intro isEmpty
      have inhabited := forwardable.inhabited
      rw [isEmpty] at inhabited
      exact inhabited rfl
    have provided : ProvidesNamespaces members environment.namespaces :=
      providesNamespaces_iff.2 ⟨namespaces_eq, some⟩
    refine ⟨members, environment.context, environment.namespaces,
      ⟨isLineage, context_eq, visible, provided, forwardable⟩, ?_⟩
    rw [inheritedAddress, bindAddress_eq]
    exact described
  · rintro ⟨members, context, namespaces, resolvable, described⟩
    obtain ⟨isLineage, context_eq, visible, provided, forwardable⟩ := resolvable
    obtain ⟨namespaces_eq, -⟩ := providesNamespaces_iff.1 provided
    let environment : Effective :=
      { name := name
        context := context
        kubeconfig := nearest Target.kubeconfig config.defaults members
        bindAddress := inheritedAddress config members
        namespaces := namespaces }
    have inherits : Inherits config.defaults members environment :=
      ⟨context_eq, visible, rfl, rfl, namespaces_eq⟩
    have isEffective : effective config name = .ok environment :=
      effective_eq_ok_iff.2 ⟨rfl, members, isLineage, inherits⟩
    exact ⟨environment, isEffective, forwardable, described⟩

/-- An environment resolves exactly if it is resolvable, and then to the forwards that its port
entries describe: one for each, in order. -/
theorem resolves_iff_resolvable (config : Config) (name : String) :
    ((∃ forwards, resolve config name = .ok forwards) ↔
      ∃ members context namespaces, IsResolvable config name members context namespaces) ∧
    ∀ forwards, resolve config name = .ok forwards ↔
      ∃ members context namespaces, IsResolvable config name members context namespaces ∧
        List.Forall₂ (Describes context (inheritedAddress config members))
          (portEntries namespaces) forwards := by
  have content (forwards : List Forward) :
      resolve config name = .ok forwards ↔
        ∃ members context namespaces, IsResolvable config name members context namespaces ∧
          List.Forall₂ (Describes context (inheritedAddress config members))
            (portEntries namespaces) forwards :=
    resolve_eq_ok_iff_effective.trans exists_isResolvable_iff
  refine ⟨?_, content⟩
  constructor
  · rintro ⟨forwards, resolved⟩
    obtain ⟨members, context, namespaces, resolvable, -⟩ := (content forwards).1 resolved
    exact ⟨members, context, namespaces, resolvable⟩
  · rintro ⟨members, context, namespaces, resolvable⟩
    obtain ⟨forwards, described⟩ :=
      exists_described context (inheritedAddress config members) resolvable.forwardable.sound
    exact ⟨forwards, (content forwards).2 ⟨members, context, namespaces, resolvable, described⟩⟩

/-! ## Two spelled kinds -/

/-- A service and a deployment by other words for them, beside an address for one port only and
a container without a name. -/
def spelledNamespaces : NameMap (List Declaration) :=
  .ofList
    [("web",
      [{ kind := "SVC", name := "api"
         ports := [⟨8080, 80, none⟩, ⟨8443, 443, some ⟨127, 0, 0, 2⟩⟩] },
        { kind := "Deployment", name := "job\u00a0", container := some ""
          ports := [⟨9000, 81, none⟩] }])]

/-- An environment that inherits a context and all that it forwards. -/
def spelledConfig (context : String) : Config where
  defaults := { bindAddress := some ⟨127, 0, 0, 9⟩ }
  environments :=
    .ofList
      [("base", { target := { context := some context }, namespaces := spelledNamespaces }),
        ("dev", { parent := some "base" })]

/-- The forwards that it resolves to. -/
def spelledForwards (context : String) : List Forward :=
  [{ context := context, space := "web", kind := .service, name := "api", localPort := 8080
     remotePort := 80, bindAddress := .v4 ⟨127, 0, 0, 9⟩, container := none },
    { context := context, space := "web", kind := .service, name := "api", localPort := 8443
      remotePort := 443, bindAddress := .v4 ⟨127, 0, 0, 2⟩, container := none },
    { context := context, space := "web", kind := .deployment, name := "job\u00a0"
      localPort := 9000, remotePort := 81, bindAddress := .v4 ⟨127, 0, 0, 9⟩
      container := none }]

theorem lineage_spelledConfig (context : String) :
    lineage (spelledConfig context).environments "dev" =
      .ok
        [("dev", { parent := some "base" }),
          ("base", { target := { context := some context }, namespaces := spelledNamespaces })] := by
  have declared (name : String) : (spelledConfig context).environments.get? name =
      if name = "dev" then some { parent := some "base" }
      else if name = "base" then
        some { target := { context := some context }, namespaces := spelledNamespaces }
      else none := by
    simp only [spelledConfig, NameMap.ofList, List.foldl_cons, List.foldl_nil, NameMap.get?_insert]
    rfl
  exact lineage_eq_ok_iff.2
    ⟨.child (declared _) rfl (.root (declared _) rfl), rfl, by simp [memberNames]⟩

theorem isForwardable_spelledNamespaces : IsForwardable spelledNamespaces := by
  constructor
  case sound =>
    have toList_eq : spelledNamespaces.toList = [("web", _)] := rfl
    rw [toList_eq]
    simp only [List.forall_mem_cons, List.not_mem_nil, false_imp_iff, implies_true, and_true]
    refine ⟨?_, ?_⟩
    · exact ⟨⟨.service, by decide⟩, by decide, List.cons_ne_nil _ _, by simp [IsPort]⟩
    · exact ⟨⟨.deployment, by decide⟩, by decide, List.cons_ne_nil _ _, by simp [IsPort]⟩
  case inhabited => decide
  case distinct => decide

/-- Kinds may be spelled in any case, in the plural or short, and names and contexts need one
character that is seen.  With a context of blanks, here of two that are not ASCII, the same
environment does not resolve. -/
theorem other_spellings_resolve :
    resolve (spelledConfig " home") "dev" = .ok (spelledForwards " home") ∧
      ¬ ∃ forwards, resolve (spelledConfig "\u2003\u00a0") "dev" = .ok forwards := by
  constructor
  · obtain ⟨-, content⟩ := resolves_iff_resolvable (spelledConfig " home") "dev"
    apply (content (spelledForwards " home")).2
    refine ⟨_, " home", spelledNamespaces,
      ⟨lineage_eq_ok_iff.1 (lineage_spelledConfig " home"), rfl, by decide, ?_,
        isForwardable_spelledNamespaces⟩, ?_⟩
    · exact providesNamespaces_iff.2 ⟨rfl, by decide⟩
    · exact .cons ⟨rfl, rfl, by decide, rfl, rfl, rfl, rfl, rfl⟩
        (.cons ⟨rfl, rfl, by decide, rfl, rfl, rfl, rfl, rfl⟩
          (.cons ⟨rfl, rfl, by decide, rfl, rfl, rfl, rfl, rfl⟩ .nil))
  · rw [(resolves_iff_resolvable _ _).1]
    rintro ⟨members, context, namespaces, isLineage, context_eq, visible, -, -⟩
    have found := (lineage_spelledConfig _).symm.trans (lineage_eq_ok_iff.2 isLineage)
    obtain rfl := Except.ok.inj found
    obtain rfl := Option.some.inj context_eq
    cases visible

end Environment

end PortTunnel
