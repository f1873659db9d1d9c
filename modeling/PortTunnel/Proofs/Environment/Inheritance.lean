import PortTunnel.Environment.Effective
import PortTunnel.Proofs.Environment.Lineage
import PortTunnel.Proofs.NameMap

/-!
# What environments inherit

Each setting of the target comes from the nearest member of the lineage that has
it, or else from the defaults.  Namespaces are not merged; they come from the
nearest member that has any.  An environment is effective exactly if it has a
lineage and on it a context that is not blank.
-/

namespace PortTunnel.Environment

open Config

/-- What the nearest member of a lineage sets, or else the defaults. -/
def nearest {α : Type} (setting : Target → Option α) (defaults : Target)
    (members : List Member) : Option α :=
  (members.findSome? fun member => setting member.2.target).or (setting defaults)

/-- Of layered targets the nearest setting counts, if it does of two. -/
theorem setting_layered {α : Type} {setting : Target → Option α}
    (merges : ∀ lower upper : Target,
      setting (lower.merged upper) = (setting upper).or (setting lower))
    (defaults : Target) (members : List Member) :
    setting (layered defaults members) = nearest setting defaults members := by
  induction members with
  | nil => simp [layered, nearest]
  | cons member ancestors ih =>
      have onward : setting (layered defaults (member :: ancestors)) =
          (setting member.2.target).or (setting (layered defaults ancestors)) :=
        merges (layered defaults ancestors) member.2.target
      rw [onward, ih, nearest, nearest, List.findSome?_cons]
      cases setting member.2.target <;> rfl

theorem context_layered (defaults : Target) (members : List Member) :
    (layered defaults members).context = nearest Target.context defaults members :=
  setting_layered (fun _ _ => rfl) defaults members

theorem bindAddress_layered (defaults : Target) (members : List Member) :
    (layered defaults members).bindAddress = nearest Target.bindAddress defaults members :=
  setting_layered (fun _ _ => rfl) defaults members

theorem kubeconfig_layered (defaults : Target) (members : List Member) :
    (layered defaults members).kubeconfig = nearest Target.kubeconfig defaults members :=
  setting_layered (fun _ _ => rfl) defaults members

/-- The namespaces are those of the nearest member of a lineage that has any. -/
def ProvidesNamespaces (members : List Member) (namespaces : NameMap (List Declaration)) : Prop :=
  ∃ nearer provider farther, members = nearer ++ provider :: farther ∧
    (∀ member ∈ nearer, member.2.namespaces = .empty) ∧
      provider.2.namespaces ≠ .empty ∧ provider.2.namespaces = namespaces

/-- The nearest namespaces are what a member provides, unless no member has any. -/
theorem providesNamespaces_iff {members : List Member}
    {namespaces : NameMap (List Declaration)} :
    ProvidesNamespaces members namespaces ↔
      nearestNamespaces members = namespaces ∧ namespaces ≠ .empty := by
  have not_isEmpty_iff {map : NameMap (List Declaration)} :
      (!map.isEmpty) = true ↔ map ≠ .empty := by
    rw [Bool.not_eq_true', Bool.eq_false_iff, ne_eq, NameMap.isEmpty_iff]
  constructor
  · rintro ⟨nearer, provider, farther, rfl, without, some, rfl⟩
    have found : (List.map (fun member : Member => member.2.namespaces)
        (nearer ++ provider :: farther)).find? (fun namespaces => !namespaces.isEmpty) =
          .some provider.2.namespaces := by
      rw [List.find?_eq_some_iff_append]
      refine ⟨not_isEmpty_iff.2 some, nearer.map (·.2.namespaces), farther.map (·.2.namespaces),
        by simp, ?_⟩
      intro map among
      obtain ⟨member, isNearer, rfl⟩ := List.mem_map.1 among
      simp [NameMap.isEmpty_iff.2 (without member isNearer)]
    exact ⟨by rw [nearestNamespaces, found, Option.getD_some], some⟩
  · rintro ⟨nearest_eq, some⟩
    unfold nearestNamespaces at nearest_eq
    cases found : (members.map fun member => member.2.namespaces).find? (!·.isEmpty) with
    | none =>
        rw [found] at nearest_eq
        exact (some nearest_eq.symm).elim
    | some map =>
        rw [found, Option.getD_some] at nearest_eq
        subst nearest_eq
        rw [List.find?_map, Option.map_eq_some_iff] at found
        obtain ⟨provider, foundMember, provider_eq⟩ := found
        obtain ⟨-, nearer, farther, members_eq, without⟩ :=
          List.find?_eq_some_iff_append.1 foundMember
        refine ⟨nearer, provider, farther, members_eq, ?_, provider_eq ▸ some, provider_eq⟩
        intro member isNearer
        have isEmpty := without member isNearer
        exact NameMap.isEmpty_iff.1 (by simpa using isEmpty)

/-- What an environment has by its lineage. -/
structure Inherits (defaults : Target) (members : List Member) (environment : Effective) :
    Prop where
  context_eq : nearest Target.context defaults members = some environment.context
  visible : Text.blank environment.context = false
  kubeconfig_eq : nearest Target.kubeconfig defaults members = environment.kubeconfig
  bindAddress_eq :
    (nearest Target.bindAddress defaults members).getD .loopback = environment.bindAddress
  namespaces_eq : nearestNamespaces members = environment.namespaces

/-- An environment is effective exactly if it has a lineage with a visible context. -/
theorem effective_eq_ok_iff {config : Config} {name : String} {environment : Effective} :
    effective config name = .ok environment ↔
      environment.name = name ∧ ∃ members, IsLineage config.environments name members ∧
        Inherits config.defaults members environment := by
  unfold effective
  cases walked : lineage config.environments name with
  | error defect =>
      constructor
      · rintro ⟨⟩
      · rintro ⟨-, members, isLineage, -⟩
        rw [lineage_eq_ok_iff.2 isLineage] at walked
        cases walked
  | ok members =>
      have isLineage := lineage_eq_ok_iff.1 walked
      have unique {others : List Member} (other : IsLineage config.environments name others) :
          others = members :=
        Except.ok.inj ((lineage_eq_ok_iff.2 other).symm.trans walked)
      simp only [context_layered, bindAddress_layered, kubeconfig_layered]
      constructor
      · intro accepted
        split at accepted
        · cases accepted
        · rename_i context context_eq
          split at accepted
          · cases accepted
          · rename_i visible
            cases accepted
            exact ⟨rfl, members, isLineage, context_eq, Bool.eq_false_iff.2 visible, rfl, rfl, rfl⟩
      · rintro ⟨rfl, others, other, context_eq, visible, kubeconfig_eq, bindAddress_eq,
          namespaces_eq⟩
        obtain rfl := unique other
        rw [context_eq, kubeconfig_eq, bindAddress_eq, namespaces_eq]
        simp [visible]

end PortTunnel.Environment
