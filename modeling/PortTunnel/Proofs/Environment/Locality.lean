import PortTunnel.Environment.Resolution
import PortTunnel.Proofs.Environment.Lineage
import PortTunnel.Proofs.NameMap

/-!
# What resolving an environment depends on

Resolving an environment looks up that environment, its parent, the parent of
that and so on, and nothing else but the defaults.  So two configurations that
agree on these resolve it alike, to the same forwards or with the same defect,
whatever else they hold, and whether the parents end, dangle or go in circles.
-/

namespace PortTunnel.Environment

open Config

/-- The names that an environment leads to along the parents, declared or not. -/
inductive Reaches (environments : NameMap Config.Environment) (name : String) : String → Prop
  | here : Reaches environments name name
  | parent {child parent : String} {environment : Config.Environment}
      (reached : Reaches environments name child)
      (declared : environments.get? child = some environment)
      (parent_eq : environment.parent = some parent) : Reaches environments name parent

/-- Two maps of environments answer alike about every name that an environment leads to. -/
def AgreeFrom (name : String) (first second : NameMap Config.Environment) : Prop :=
  ∀ other, Reaches first name other → first.get? other = second.get? other

variable {name : String} {first second : NameMap Config.Environment}

/-- From a member that is reached on, both maps lead the same way. -/
theorem lineageFrom_eq_of_agreeFrom (agree : AgreeFrom name first second) {member : Member}
    {met : List String} (reached : Reaches first name member.1)
    (declared : first.get? member.1 = some member.2) :
    lineageFrom first member met = lineageFrom second member met := by
  induction member, met using lineageFrom.induct first with
  | case1 member met orphan =>
      rw [lineageFrom_of_orphan met orphan, lineageFrom_of_orphan met orphan]
  | case2 member met parent_eq =>
      rw [lineageFrom_of_parent met parent_eq, lineageFrom_of_parent met parent_eq,
        if_pos rfl, if_pos rfl]
  | case3 member met parent parent_eq different absent =>
      have same := agree parent (.parent reached declared parent_eq)
      rw [lineageFrom_of_parent met parent_eq, lineageFrom_of_parent met parent_eq, ← same]
      simp only [absent]
  | case4 member met parent parent_eq different environment declaredParent _ _ _ ih
  | case5 member met parent parent_eq different environment declaredParent _ _ _ ih =>
      have onward : Reaches first name parent := .parent reached declared parent_eq
      rw [lineageFrom_of_parent met parent_eq, lineageFrom_of_parent met parent_eq,
        ← agree parent onward, declaredParent]
      simp only [ih onward declaredParent]
  | case6 member met parent parent_eq different environment declaredParent stale =>
      have isMet : parent ∈ met := by simpa using stale
      have same := agree parent (.parent reached declared parent_eq)
      rw [lineageFrom_of_parent met parent_eq, lineageFrom_of_parent met parent_eq, ← same,
        declaredParent]
      simp only [if_pos isMet]

/-- Maps that agree on what an environment leads to give it the same lineage, or none. -/
theorem lineage_eq_of_agreeFrom (agree : AgreeFrom name first second) :
    lineage first name = lineage second name := by
  rw [lineage, lineage, ← agree name .here]
  cases declared : first.get? name with
  | none => rfl
  | some environment => exact lineageFrom_eq_of_agreeFrom agree .here declared

/-- Two configurations with the same defaults that agree on every environment that one leads
to, itself included, make it effective alike and resolve it alike. -/
theorem resolution_depends_on_lineage (first second : Config) (name : String)
    (defaults_eq : first.defaults = second.defaults)
    (agree : AgreeFrom name first.environments second.environments) :
    effective first name = effective second name ∧
      resolve first name = resolve second name := by
  have effective_eq : effective first name = effective second name := by
    rw [effective, effective, lineage_eq_of_agreeFrom agree, defaults_eq]
  refine ⟨effective_eq, ?_⟩
  rw [resolve, resolve, effective_eq]

/-! ## A crowded configuration -/

/-- An environment that builds on one with a forward, and another one whose parent has a parent
that is not declared. -/
def sparseConfig : Config where
  defaults := { context := some "home" }
  environments :=
    .ofList
      [("base", { parent := some "lost" }), ("dev", { parent := some "base" }),
        ("live", { parent := some "root" }),
        ("root",
          { namespaces :=
              .ofList [("web", [{ kind := "svc", name := "api", ports := [⟨8080, 80, none⟩] }])] })]

/-- The same in a newer file, beside an environment that is its own parent and two that are
each other's. -/
def crowdedConfig : Config where
  version := 7
  settings := { maxRetries := some 0 }
  defaults := { context := some "home" }
  environments :=
    ((sparseConfig.environments.insert "east" { parent := some "west" }).insert "west"
      { parent := some "east" }).insert "own" { parent := some "own" }

/-- The environments that only one of the two has. -/
def crowd : List String :=
  ["east", "west", "own"]

/-- Nothing leads to the crowd but the crowd itself. -/
theorem not_mem_crowd_of_reaches {name other : String} (outside : name ∉ crowd)
    (reached : Reaches sparseConfig.environments name other) : other ∉ crowd := by
  have parents : ∀ entry ∈ sparseConfig.environments.toList, ∀ parent ∈ entry.2.parent,
      parent ∉ crowd := by
    decide
  cases reached with
  | here => exact outside
  | parent reached declared parent_eq =>
      exact parents (_, _) ((NameMap.mem_toList_iff _ _ _).2 declared) _ parent_eq

theorem agreeFrom_crowdedConfig {name : String} (outside : name ∉ crowd) :
    AgreeFrom name sparseConfig.environments crowdedConfig.environments := by
  intro other reached
  have apart := not_mem_crowd_of_reaches outside reached
  simp only [crowd, List.mem_cons, List.not_mem_nil, or_false, not_or] at apart
  obtain ⟨notEast, notWest, notOwn⟩ := apart
  simp only [crowdedConfig, NameMap.get?_insert, if_neg notEast, if_neg notWest, if_neg notOwn]

/-- The forward of the environment that resolves. -/
def liveForward : Forward where
  context := "home"
  space := "web"
  kind := .service
  name := "api"
  localPort := 8080
  remotePort := 80
  bindAddress := .v4 .loopback
  container := none

theorem resolve_sparseConfig : resolve sparseConfig "live" = .ok [liveForward] := by
  have isLineage : IsLineage sparseConfig.environments "live" [("live", _), ("root", _)] :=
    ⟨.child rfl rfl (.root rfl rfl), rfl, by decide⟩
  rw [resolve, effective, lineage_eq_ok_iff.2 isLineage]
  rfl

/-- Whatever cycles stand beside them, an environment resolves to the same forwards as before,
and a parent that is not declared is told as before. -/
theorem crowd_changes_nothing :
    sparseConfig.defaults = crowdedConfig.defaults ∧
      (AgreeFrom "dev" sparseConfig.environments crowdedConfig.environments ∧
        effective sparseConfig "dev" = effective crowdedConfig "dev" ∧
          resolve sparseConfig "dev" = resolve crowdedConfig "dev") ∧
        AgreeFrom "live" sparseConfig.environments crowdedConfig.environments ∧
          resolve sparseConfig "live" = .ok [liveForward] ∧
            resolve crowdedConfig "live" = .ok [liveForward] := by
  have devAgrees := agreeFrom_crowdedConfig (show "dev" ∉ crowd by decide)
  have liveAgrees := agreeFrom_crowdedConfig (show "live" ∉ crowd by decide)
  have devAlike := resolution_depends_on_lineage sparseConfig crowdedConfig "dev" rfl devAgrees
  have liveAlike := resolution_depends_on_lineage sparseConfig crowdedConfig "live" rfl liveAgrees
  have resolved := resolve_sparseConfig
  exact ⟨rfl, ⟨devAgrees, devAlike⟩, liveAgrees, resolved, liveAlike.2.symm.trans resolved⟩

end PortTunnel.Environment
