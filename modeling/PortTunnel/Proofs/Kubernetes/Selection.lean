import PortTunnel.Proofs.Kubernetes.Queries

/-!
# Pods that a selector selects

What manages pods says which ones by a selector: labels that a pod has to have, and
requirements on its labels.  The server is asked for the labels alone.  So a channel leads
to the first ready pod that has the labels, whether or not it meets the requirements, and
to none where the selector has no labels.
-/

namespace PortTunnel.Kubernetes

/-! ## The pod that is chosen -/

theorem Selector.selects_iff (selector : Selector) (pod : Pod) :
    selector.selects pod.labels = true ↔
      pod.Has selector.labels.toList ∧
        ∀ requirement ∈ selector.requirements, requirement.isMet pod.labels = true := by
  simp [selects, Pod.Has]

/-- A channel is opened to the place of a destination if the server agrees to carry it. -/
theorem run_openChannel_eq_ok_iff {server : Request → Reply} {destination : Destination}
    {place : Place} :
    ((openChannel destination).run server).2 = .ok place ↔
      ((locate destination).run server).2 = .ok place ∧
        agreement (server (channelRequest destination.space place)) = .ok () := by
  have carries (found : Place) :
      (agreement (server (channelRequest destination.space found))).map (fun _ => found) =
          .ok place ↔
        found = place ∧ agreement (server (channelRequest destination.space found)) = .ok () := by
    cases agreement (server (channelRequest destination.space found)) with
    | error trouble => simp [Except.map]
    | ok agreed => simp [Except.map]
  simp only [openChannel, Inquiry.run_andThen_eq_ok_iff, Dialogue.run_ask, Dialogue.run_done, carries]
  constructor
  · rintro ⟨found, located, rfl, agreed⟩
    exact ⟨located, agreed⟩
  · rintro ⟨located, agreed⟩
    exact ⟨place, located, rfl, agreed⟩

/-! ## Workloads -/

section Workloads

variable {server : Request → Reply} {destination : Destination} {kind : String}
  {workload : Workload} {pods : List Pod}

/-- A channel leads to the first ready pod that has the labels of the selector. -/
theorem run_openChannel_of_manager (manages : managerKind? destination.kind = some kind)
    (described : Describes server { path := resourcePath destination }
      (objectReader (Workload.record kind)) workload)
    (wellFormed : WellFormed workload.selector.labels)
    (honours : Honours server destination.space pods) (place : Place) :
    ((openChannel destination).run server).2 = .ok place ↔
      workload.selector.labels ≠ .empty ∧
        ∃ pod, IsFirst (fun other => other.Has workload.selector.labels.toList ∧ other.Ready)
            pods pod ∧
          pod.Offers destination.container ∧ place = ⟨pod.name, destination.port⟩ ∧
            agreement (server (channelRequest destination.space place)) = .ok () := by
  have same {other : Workload} (otherwise : Describes server { path := resourcePath destination }
      (objectReader (Workload.record kind)) other) : other = workload :=
    Except.ok.inj (otherwise.symm.trans described)
  rw [run_openChannel_eq_ok_iff, run_locate_of_manager manages]
  constructor
  · rintro ⟨⟨other, otherwise, pod, stands, offers, place_eq⟩, agreed⟩
    rw [same otherwise, standsBehind_iff honours wellFormed] at stands
    exact ⟨stands.1, pod, stands.2, offers, place_eq, agreed⟩
  · rintro ⟨someLabel, pod, first, offers, place_eq, agreed⟩
    have stands := (standsBehind_iff honours wellFormed).2 ⟨someLabel, first⟩
    exact ⟨⟨workload, described, pod, stands, offers, place_eq⟩, agreed⟩

/-- Without labels no pod is asked for, whatever else the selector requires. -/
theorem run_openChannel_of_no_labels (manages : managerKind? destination.kind = some kind)
    (described : Describes server { path := resourcePath destination }
      (objectReader (Workload.record kind)) workload)
    (noLabel : workload.selector.labels = .empty) :
    ((openChannel destination).run server).2 = .error .noSelector := by
  have read : ((inquire { path := resourcePath destination }
      (objectReader (Workload.record kind))).run server).2 = .ok workload := described
  have noPod : ((readyPod destination.space workload.selector.labels).run server).2 =
      .error .noSelector := by
    rw [readyPod, if_pos (NameMap.isEmpty_iff.2 noLabel)]
    rfl
  rcases managerKind?_eq_some manages with ⟨same, rfl⟩ | ⟨same, rfl⟩ <;>
    simp only [openChannel, locate, same, Inquiry.run_andThen, read, noPod]

/-- A channel to what manages pods leads to the first ready pod that has the labels of its
selector, and to none where the selector has no labels.  The requirements of the selector
have no part in it, so whether the pod is selected depends on them alone. -/
theorem manager_leads_to_first_with_labels (manages : managerKind? destination.kind = some kind)
    (described : Describes server { path := resourcePath destination }
      (objectReader (Workload.record kind)) workload)
    (wellFormed : WellFormed workload.selector.labels)
    (honours : Honours server destination.space pods) :
    (∀ place, ((openChannel destination).run server).2 = .ok place ↔
        workload.selector.labels ≠ .empty ∧
          ∃ pod, IsFirst (fun other => other.Has workload.selector.labels.toList ∧ other.Ready)
              pods pod ∧
            pod.Offers destination.container ∧ place = ⟨pod.name, destination.port⟩ ∧
              agreement (server (channelRequest destination.space place)) = .ok ()) ∧
      (workload.selector.labels = .empty →
        ((openChannel destination).run server).2 = .error .noSelector) ∧
        ∀ pod : Pod, pod.Has workload.selector.labels.toList →
          (workload.selector.selects pod.labels = true ↔
            ∀ requirement ∈ workload.selector.requirements,
              requirement.isMet pod.labels = true) := by
  refine ⟨run_openChannel_of_manager manages described wellFormed honours,
    run_openChannel_of_no_labels manages described, fun pod has => ?_⟩
  rw [Selector.selects_iff]
  exact and_iff_right has

end Workloads

/-! ## A namespace with two pods -/

/-- A pod that is ready. -/
def readyPodOf (name : String) (labels : NameMap String) : Pod where
  name := name
  labels := labels
  conditions := [⟨"Ready", "True"⟩]

/-- A pod for a database, and one for a service in front of it. -/
def samplePods : List Pod :=
  [readyPodOf "api-db" (.ofList [("app", "api"), ("tier", "db")]),
    readyPodOf "api-web" (.ofList [("app", "api"), ("tier", "web")])]

/-- A deployment with labels, and with the requirement not to be of the tier `db`. -/
def deploymentJson (labels : NameMap String) : Json.Value :=
  .object
    [("spec",
      .object [("selector",
        .object
          [("matchLabels", Config.mapJson .text labels),
            ("matchExpressions",
              .array [.object
                [("key", .text "tier"), ("operator", .text "NotIn"),
                  ("values", .array [.text "db"])]])])])]

/-- The deployment that is described so. -/
def deploymentOf (labels : NameMap String) : Workload :=
  ⟨⟨labels, [⟨"tier", .notIn ["db"]⟩]⟩⟩

/-- Port 80 of a deployment. -/
def sampleDestination : Destination where
  context := "dev"
  space := "web"
  kind := .deployment
  name := "api"
  port := 80
  container := none

/-- A server with the sample pods and such a deployment, which carries every channel. -/
def sampleServer (labels : NameMap String) : Request → Reply :=
  host (resourcePath sampleDestination) "web" (deploymentJson labels) samplePods

theorem exact_deploymentJson (labels : NameMap String) : Json.Exact (deploymentJson labels) := by
  simpa [deploymentJson] using Config.exact_mapJson .text labels

theorem honours_sampleServer (labels : NameMap String) :
    Honours (sampleServer labels) "web" samplePods := by
  apply honours_host (by decide) (by decide)
  intro test
  simp only [samplePods, List.filter]
  split <;> split <;> rfl

theorem describes_sampleServer (labels : NameMap String)
    (read : (objectReader (Workload.record "Deployment")).json .document
      (Json.Draft.ofValue (deploymentJson labels)) = .ok (deploymentOf labels)) :
    Describes (sampleServer labels) { path := resourcePath sampleDestination }
      (objectReader (Workload.record "Deployment")) (deploymentOf labels) :=
  describes_host (exact_deploymentJson labels) read

/-- The label that both of the sample pods have. -/
def sharedLabels : NameMap String :=
  .ofList [("app", "api")]

theorem ready_readyPodOf (name : String) (labels : NameMap String) :
    (readyPodOf name labels).Ready :=
  ⟨rfl, _, List.mem_singleton_self _, rfl, rfl⟩

/-- The deployment with the shared label stands for both pods, and the database is first. -/
theorem isFirst_samplePods :
    IsFirst (fun other : Pod => other.Has sharedLabels.toList ∧ other.Ready) samplePods
      (readyPodOf "api-db" (.ofList [("app", "api"), ("tier", "db")])) :=
  ⟨[], _, rfl, ⟨by decide, ready_readyPodOf _ _⟩, nofun⟩

theorem shared_label_leads_to_first :
    managerKind? sampleDestination.kind = some "Deployment" ∧
      Describes (sampleServer sharedLabels) { path := resourcePath sampleDestination }
          (objectReader (Workload.record "Deployment")) (deploymentOf sharedLabels) ∧
        WellFormed sharedLabels ∧ Honours (sampleServer sharedLabels) "web" samplePods ∧
          ((openChannel sampleDestination).run (sampleServer sharedLabels)).2 =
            .ok ⟨"api-db", 80⟩ := by
  have described := describes_sampleServer sharedLabels rfl
  have wellFormed : WellFormed sharedLabels := by decide
  have honours := honours_sampleServer sharedLabels
  refine ⟨rfl, described, wellFormed, honours, ?_⟩
  apply ((manager_leads_to_first_with_labels rfl described wellFormed honours).1 ⟨"api-db", 80⟩).2
  exact ⟨by decide, _, isFirst_samplePods, nofun, rfl, rfl⟩

/-- The deployment is not to have pods of the tier `db`, and still the channel leads to one.
Without the shared label it has the other pod for its only one, and no channel is opened. -/
theorem requirements_are_passed_over :
    (Honours (sampleServer sharedLabels) "web" samplePods ∧
        Describes (sampleServer sharedLabels) { path := resourcePath sampleDestination }
          (objectReader (Workload.record "Deployment")) (deploymentOf sharedLabels) ∧
        ((openChannel sampleDestination).run (sampleServer sharedLabels)).2 =
          .ok ⟨"api-db", 80⟩ ∧
        ∀ pod ∈ samplePods, pod.name = "api-db" →
          (deploymentOf sharedLabels).selector.selects pod.labels = false) ∧
      Honours (sampleServer .empty) "web" samplePods ∧
        Describes (sampleServer .empty) { path := resourcePath sampleDestination }
          (objectReader (Workload.record "Deployment")) (deploymentOf .empty) ∧
        (∃ pod ∈ samplePods, pod.Ready ∧
          (deploymentOf .empty).selector.selects pod.labels = true) ∧
        ((openChannel sampleDestination).run (sampleServer .empty)).2 = .error .noSelector := by
  have described := describes_sampleServer sharedLabels rfl
  have describedEmpty := describes_sampleServer .empty rfl
  have honours := honours_sampleServer sharedLabels
  refine ⟨⟨honours, described, ?_, by decide⟩, honours_sampleServer .empty, describedEmpty, ?_, ?_⟩
  · apply (run_openChannel_of_manager rfl described (by decide) honours ⟨"api-db", 80⟩).2
    exact ⟨by decide, _, isFirst_samplePods, nofun, rfl, rfl⟩
  · exact ⟨_, List.mem_cons_of_mem _ List.mem_cons_self, ready_readyPodOf _ _, by decide⟩
  · exact run_openChannel_of_no_labels rfl describedEmpty rfl

end PortTunnel.Kubernetes
