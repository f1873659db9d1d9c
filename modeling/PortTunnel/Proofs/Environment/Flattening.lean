import Mathlib.Data.List.Nodup
import PortTunnel.Proofs.Environment.Inheritance
import PortTunnel.Proofs.Environment.Locality

/-!
# Flattening of environments

An environment may be declared anew without a parent, with the target that it has by its
lineage and with the namespaces of the nearest member that has any.  Then its lineage and
those of all that build on it end there, and they hand down what they did before: the
defaults, which come last, have no more to add to it.
-/

namespace PortTunnel

/-- A configuration in which the entry of one environment has been replaced. -/
def Config.redeclared (config : Config) (name : String) (environment : Config.Environment) :
    Config :=
  { config with environments := config.environments.insert name environment }

namespace Environment

open Config

/-- An environment that has no parent and holds all that a lineage hands down. -/
structure Flattens (defaults : Target) (members : List Member) (flat : Config.Environment) :
    Prop where
  orphan : flat.parent = none
  kubeconfig_eq : flat.target.kubeconfig = nearest Target.kubeconfig defaults members
  context_eq : flat.target.context = nearest Target.context defaults members
  bindAddress_eq : flat.target.bindAddress = nearest Target.bindAddress defaults members
  provides : ProvidesNamespaces members flat.namespaces ∨
    (∀ member ∈ members, member.2.namespaces = .empty) ∧ flat.namespaces = .empty

/-! ## Lineages with a new last member -/

variable {environments : NameMap Config.Environment} {name heir : String}
  {before farther members line : List Member} {member : Member} {flat : Config.Environment}

theorem ancestry_cons_iff {parent : Member} :
    Ancestry environments (member :: parent :: farther) ↔
      environments.get? member.1 = some member.2 ∧ member.2.parent = some parent.1 ∧
        Ancestry environments (parent :: farther) := by
  constructor
  · intro ancestry
    cases ancestry with
    | child declared parent_eq above => exact ⟨declared, parent_eq, above⟩
  · rintro ⟨declared, parent_eq, above⟩
    exact .child declared parent_eq above

/-- From each member on there is an ancestry. -/
theorem Ancestry.from_member (ancestry : Ancestry environments (before ++ member :: farther)) :
    Ancestry environments (member :: farther) := by
  induction before with
  | nil => exact ancestry
  | cons first rest ih =>
      apply ih
      cases rest with
      | nil => exact (ancestry_cons_iff.1 ancestry).2.2
      | cons second rest => exact (ancestry_cons_iff.1 ancestry).2.2

/-- An ancestry of other environments remains one. -/
theorem Ancestry.keep (ancestry : Ancestry environments members)
    (others : name ∉ memberNames members) :
    Ancestry (environments.insert name flat) members := by
  induction ancestry with
  | @root member declared orphan =>
      have other : member.1 ≠ name := fun same => others (by simp [memberNames, same])
      exact .root (by rw [NameMap.get?_insert, if_neg other, declared]) orphan
  | @child member parent ancestors declared parent_eq above ih =>
      obtain ⟨other, above_others⟩ := List.ne_and_not_mem_of_not_mem_cons others
      refine .child ?_ parent_eq (ih above_others)
      rw [NameMap.get?_insert, if_neg (Ne.symm other), declared]

/-- An ancestry ends at a member that is declared anew without a parent. -/
theorem Ancestry.cut (ancestry : Ancestry environments (before ++ member :: farther))
    (orphan : flat.parent = none) (others : member.1 ∉ memberNames before) :
    Ancestry (environments.insert member.1 flat) (before ++ [(member.1, flat)]) := by
  -- The induction is on the members before it, which are declared as they were.
  induction before with
  | nil => exact .root (by rw [NameMap.get?_insert, if_pos rfl]) orphan
  | cons first rest ih =>
      obtain ⟨other, rest_others⟩ := List.ne_and_not_mem_of_not_mem_cons others
      have onward := (ih · rest_others)
      have kept (declared : environments.get? first.1 = some first.2) :
          (environments.insert member.1 flat).get? first.1 = some first.2 := by
        rw [NameMap.get?_insert, if_neg (Ne.symm other), declared]
      cases rest with
      | nil =>
          obtain ⟨declared, parent_eq, above⟩ := ancestry_cons_iff.1 ancestry
          exact .child (kept declared) parent_eq (onward above)
      | cons second rest =>
          obtain ⟨declared, parent_eq, above⟩ := ancestry_cons_iff.1 ancestry
          exact .child (kept declared) parent_eq (onward above)

/-- There is one lineage of an environment at most. -/
theorem IsLineage.unique (first : IsLineage environments name members)
    (second : IsLineage environments name line) : members = line :=
  Except.ok.inj ((lineage_eq_ok_iff.2 first).symm.trans (lineage_eq_ok_iff.2 second))

/-- What is behind a member of a lineage is the lineage of that member. -/
theorem IsLineage.from_member (isLineage : IsLineage environments heir (before ++ member :: farther)) :
    IsLineage environments member.1 (member :: farther) := by
  constructor
  case ancestry => exact isLineage.ancestry.from_member
  case head_eq => rfl
  case distinct =>
    have distinct := isLineage.distinct
    rw [memberNames, List.map_append] at distinct
    exact (List.nodup_append.1 distinct).2.1

/-- A lineage ends at a member that is declared anew without a parent. -/
theorem IsLineage.cut (isLineage : IsLineage environments heir (before ++ member :: farther))
    (orphan : flat.parent = none) :
    IsLineage (environments.insert member.1 flat) heir (before ++ [(member.1, flat)]) := by
  have distinct := isLineage.distinct
  rw [memberNames, List.map_append, List.map_cons, List.nodup_append] at distinct
  obtain ⟨distinctBefore, -, apart⟩ := distinct
  have others : member.1 ∉ memberNames before := fun again =>
    apart _ again _ List.mem_cons_self rfl
  constructor
  case ancestry => exact isLineage.ancestry.cut orphan others
  case head_eq =>
    have head_eq := isLineage.head_eq
    cases before with
    | nil => exact head_eq
    | cons first rest => exact head_eq
  case distinct =>
    rw [memberNames, List.map_append, List.nodup_append]
    refine ⟨distinctBefore, List.nodup_singleton _, fun other isOther last isLast => ?_⟩
    obtain rfl : last = member.1 := List.mem_singleton.1 isLast
    exact apart other isOther _ List.mem_cons_self

/-! ## Who builds on an environment -/

/-- Members of an ancestry are declared. -/
theorem Ancestry.declared_of_mem (ancestry : Ancestry environments members)
    (isMember : member ∈ members) : environments.get? member.1 = some member.2 := by
  obtain ⟨before, farther, rfl⟩ := List.append_of_mem isMember
  exact ancestry.from_member.declared

/-- The parent of a member is a member too. -/
theorem Ancestry.parent_mem {parent : String} (ancestry : Ancestry environments members)
    (isMember : member ∈ members) (parent_eq : member.2.parent = some parent) :
    parent ∈ memberNames members := by
  obtain ⟨before, farther, rfl⟩ := List.append_of_mem isMember
  cases ancestry.from_member with
  | root _ orphan => simp [orphan] at parent_eq
  | child _ above_eq =>
      obtain rfl := Option.some.inj (above_eq.symm.trans parent_eq)
      simp [memberNames]

/-- Whatever an environment leads to is on its lineage. -/
theorem IsLineage.mem_of_reaches (isLineage : IsLineage environments heir line)
    (reached : Reaches environments heir name) : name ∈ memberNames line := by
  induction reached with
  | here => exact List.mem_of_mem_head? isLineage.head_eq
  | parent _ declared parent_eq ih =>
      obtain ⟨member, isMember, rfl⟩ := List.mem_map.1 ih
      have declared' := isLineage.ancestry.declared_of_mem isMember
      obtain rfl := Option.some.inj (declared'.symm.trans declared)
      exact isLineage.ancestry.parent_mem isMember parent_eq

/-! ## What is handed down -/

section HandedDown

variable {defaults : Target}

theorem target_eq {first second : Target} (kubeconfig_eq : first.kubeconfig = second.kubeconfig)
    (context_eq : first.context = second.context)
    (bindAddress_eq : first.bindAddress = second.bindAddress) : first = second := by
  cases first
  cases second
  simp_all

/-- The defaults add nothing to what is set already. -/
theorem nearest_singleton {α : Type} {setting : Target → Option α}
    (set : setting flat.target = nearest setting defaults members) :
    nearest setting defaults [(name, flat)] = nearest setting defaults members := by
  have alone : nearest setting defaults [(name, flat)] =
      (setting flat.target).or (setting defaults) := by
    simp [nearest]
  rw [alone, set, nearest, Option.or_assoc, Option.or_self]

theorem nearestNamespaces_eq_empty
    (without : ∀ member ∈ members, member.2.namespaces = .empty) :
    nearestNamespaces members = .empty := by
  by_contra some
  obtain ⟨nearer, provider, farther, rfl, -, provided, -⟩ := providesNamespaces_iff.2 ⟨rfl, some⟩
  exact provided (without provider (by simp))

/-- What members hand down passes through those before them. -/
theorem layered_append (before members : List Member) :
    layered defaults (before ++ members) =
      before.foldr (fun member lower => lower.merged member.2.target)
        (layered defaults members) :=
  List.foldr_append

theorem nearestNamespaces_append (before members : List Member) :
    nearestNamespaces (before ++ members) =
      ((before.map fun member => member.2.namespaces).find? fun namespaces =>
        !namespaces.isEmpty).getD (nearestNamespaces members) := by
  rw [nearestNamespaces, List.map_append, List.find?_append, Option.getD_or]
  rfl

namespace Flattens

variable (flattens : Flattens defaults members flat)

include flattens

theorem layered_eq : layered defaults [(name, flat)] = layered defaults members := by
  apply target_eq
  · rw [kubeconfig_layered, kubeconfig_layered, nearest_singleton flattens.kubeconfig_eq]
  · rw [context_layered, context_layered, nearest_singleton flattens.context_eq]
  · rw [bindAddress_layered, bindAddress_layered, nearest_singleton flattens.bindAddress_eq]

theorem nearestNamespaces_eq : nearestNamespaces [(name, flat)] = nearestNamespaces members := by
  rcases flattens.provides with provides | ⟨without, isEmpty⟩
  · obtain ⟨nearest_eq, some⟩ := providesNamespaces_iff.1 provides
    have alone : ProvidesNamespaces [(name, flat)] flat.namespaces :=
      ⟨[], (name, flat), [], rfl, by simp, some, rfl⟩
    rw [(providesNamespaces_iff.1 alone).1, nearest_eq]
  · rw [nearestNamespaces_eq_empty without, nearestNamespaces_eq_empty (by simpa using isEmpty)]

end Flattens

end HandedDown

/-! ## Flattened configurations -/

/-- Configurations in which the lineages of an environment hand down the same make it effective
and resolve it alike. -/
theorem resolution_eq_of_lineages {first second : Config}
    (firstLine : IsLineage first.environments heir members)
    (secondLine : IsLineage second.environments heir line)
    (layered_eq : layered first.defaults members = layered second.defaults line)
    (namespaces_eq : nearestNamespaces members = nearestNamespaces line) :
    effective first heir = effective second heir ∧ resolve first heir = resolve second heir := by
  have effective_eq : effective first heir = effective second heir := by
    rw [effective, effective, lineage_eq_ok_iff.2 firstLine, lineage_eq_ok_iff.2 secondLine]
    simp only [layered_eq, namespaces_eq]
  refine ⟨effective_eq, ?_⟩
  rw [resolve, resolve, effective_eq]

/-- An environment that has a lineage may be replaced by a flattened one.  It resolves as before
and is effective as before, and so is every environment that builds on it, directly or through
others, and has a lineage. -/
theorem flattening_preserves_resolution {config : Config}
    (isLineage : IsLineage config.environments name members)
    (flattens : Flattens config.defaults members flat) :
    (effective (config.redeclared name flat) name = effective config name ∧
        resolve (config.redeclared name flat) name = resolve config name) ∧
      ∀ heir line, IsLineage config.environments heir line →
        Reaches config.environments heir name →
          effective (config.redeclared name flat) heir = effective config heir ∧
            resolve (config.redeclared name flat) heir = resolve config heir := by
  have heirs (heir : String) (line : List Member)
      (heirLine : IsLineage config.environments heir line)
      (reached : Reaches config.environments heir name) :
      effective (config.redeclared name flat) heir = effective config heir ∧
        resolve (config.redeclared name flat) heir = resolve config heir := by
    obtain ⟨member, isMember, rfl⟩ := List.mem_map.1 (heirLine.mem_of_reaches reached)
    obtain ⟨before, farther, rfl⟩ := List.append_of_mem isMember
    -- From the environment on, the lineage of an heir is the one that is flattened.
    obtain rfl : members = member :: farther := isLineage.unique heirLine.from_member
    refine resolution_eq_of_lineages (heirLine.cut flattens.orphan) heirLine ?_ ?_
    · rw [layered_append, layered_append]
      exact congrArg (before.foldr fun member lower => lower.merged member.2.target)
        flattens.layered_eq
    · rw [nearestNamespaces_append, nearestNamespaces_append, flattens.nearestNamespaces_eq]
  exact ⟨heirs name members isLineage .here, heirs⟩

/-- An environment between another one and its parent, with a blank context. -/
def maskedStage : Config.Environment where
  parent := some "base"
  target := { context := some " " }

def maskedBase : Config.Environment where
  target := { context := some "remote", bindAddress := some ⟨127, 0, 0, 2⟩ }
  namespaces :=
    .ofList [("web", [{ kind := "svc", name := "api", ports := [⟨8080, 80, none⟩] }])]

def maskedConfig : Config where
  defaults := { kubeconfig := some "clusters" }
  environments :=
    .ofList
      [("base", maskedBase), ("stage", maskedStage),
        ("dev", { parent := some "stage", target := { context := some "near" } })]

/-- The environment in the middle with all that it inherits. -/
def flatStage : Config.Environment where
  target :=
    { kubeconfig := some "clusters", context := some " ", bindAddress := some ⟨127, 0, 0, 2⟩ }
  namespaces := maskedBase.namespaces

theorem isLineage_maskedStage :
    IsLineage maskedConfig.environments "stage" [("stage", maskedStage), ("base", maskedBase)] :=
  ⟨.child rfl rfl (.root rfl rfl), rfl, by decide⟩

theorem flattens_maskedStage :
    Flattens maskedConfig.defaults [("stage", maskedStage), ("base", maskedBase)] flatStage := by
  constructor
  case orphan | kubeconfig_eq | context_eq | bindAddress_eq => rfl
  case provides =>
    exact .inl ⟨[("stage", maskedStage)], ("base", maskedBase), [], rfl,
      by simp [maskedStage], by decide, rfl⟩

/-- Flattened, the environment in the middle is refused as before for its blank context, and
the one that builds on it and has a context resolves as before. -/
theorem masked_stage_is_flattened :
    IsLineage maskedConfig.environments "stage" [("stage", maskedStage), ("base", maskedBase)] ∧
      Flattens maskedConfig.defaults [("stage", maskedStage), ("base", maskedBase)] flatStage ∧
        effective (maskedConfig.redeclared "stage" flatStage) "stage" =
            .error (.noContext "stage") ∧
          ∃ forwards, resolve (maskedConfig.redeclared "stage" flatStage) "dev" = .ok forwards ∧
            forwards.map Forward.id = ["near/web/service/api:8080->80"] := by
  have devLine : IsLineage maskedConfig.environments "dev"
      [("dev", _), ("stage", maskedStage), ("base", maskedBase)] :=
    ⟨.child rfl rfl isLineage_maskedStage.ancestry, rfl, by decide⟩
  obtain ⟨⟨stage_eq, -⟩, heirs⟩ :=
    flattening_preserves_resolution isLineage_maskedStage flattens_maskedStage
  obtain ⟨-, dev_eq⟩ := heirs "dev" _ devLine (.parent .here rfl rfl)
  refine ⟨isLineage_maskedStage, flattens_maskedStage, ?_, ?_⟩
  · rw [stage_eq, effective, lineage_eq_ok_iff.2 isLineage_maskedStage]
    rfl
  · rw [dev_eq, resolve, effective, lineage_eq_ok_iff.2 devLine]
    exact ⟨_, rfl, rfl⟩

end Environment

end PortTunnel
