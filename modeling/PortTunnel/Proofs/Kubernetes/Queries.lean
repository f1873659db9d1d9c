import Mathlib.Data.List.TakeDrop
import PortTunnel.Proofs.Config.Layout
import PortTunnel.Proofs.Kubernetes.Places

/-!
# Queries for labels

The server is asked for the pods that have certain labels, by a query that says exactly
them.  So what stands behind labels is the first ready pod that has them, if the server
tells of the pods that a query asks for and of no others.
-/

namespace PortTunnel.Kubernetes

/-! ## Label queries -/

/-- The characters that the keys and the values of labels are made of. -/
def isLabelCharacter (character : Char) : Bool :=
  character.isAlphanum || "-_./".toList.contains character

/-- The label that a clause of a query asks for: a key, an equals sign and a value. -/
def clauseLabel? (clause : List Char) : Option (String × String) :=
  match clause.span (· != '=') with
  | (key, '=' :: value) =>
      if !key.isEmpty && key.all isLabelCharacter && value.all isLabelCharacter then
        some (String.ofList key, String.ofList value)
      else none
  | _ => none

/-- The labels that a query asks for, if it asks for labels only: its clauses have commas
between them. -/
def queriedLabels? (query : String) : Option (List (String × String)) :=
  (query.toList.splitOn ',').mapM clauseLabel?

/-- A server admits no other keys and values in the labels of a selector. -/
def WellFormed (labels : NameMap String) : Prop :=
  ∀ label ∈ labels.toList, label.1 ≠ "" ∧ label.1.toList.all isLabelCharacter = true ∧
    label.2.toList.all isLabelCharacter = true

instance (labels : NameMap String) : Decidable (WellFormed labels) :=
  inferInstanceAs (Decidable (∀ label ∈ labels.toList, _))

/-- The pod has labels. -/
def Pod.Has (pod : Pod) (labels : List (String × String)) : Prop :=
  ∀ label ∈ labels, pod.labels.get? label.1 = some label.2

instance (pod : Pod) (labels : List (String × String)) : Decidable (pod.Has labels) :=
  inferInstanceAs (Decidable (∀ label ∈ labels, _))

/-- Asked for the running pods that have labels, the server tells of those among the given
ones, in their order. -/
def Honours (server : Request → Reply) (space : String) (pods : List Pod) : Prop :=
  ∀ query labels, queriedLabels? query = some labels →
    Describes server
      { path := podsPath space
        query := [("labelSelector", query), ("fieldSelector", "status.phase=Running")] }
      podListRecord.reader (pods.filter fun pod => pod.Has labels)

/-- A clause as it is written for a label. -/
def labelClause (label : String × String) : List Char :=
  label.1.toList ++ '=' :: label.2.toList

/-- No mark of the query language is a character of labels. -/
theorem not_mem_of_all_isLabelCharacter (mark : Char) {word : List Char}
    (isMark : isLabelCharacter mark = false) (all : word.all isLabelCharacter = true) :
    mark ∉ word := by
  intro member
  rw [List.all_eq_true.1 all mark member] at isMark
  cases isMark

theorem clauseLabel?_labelClause {label : String × String} (present : label.1 ≠ "")
    (keyWord : label.1.toList.all isLabelCharacter = true)
    (valueWord : label.2.toList.all isLabelCharacter = true) :
    clauseLabel? (labelClause label) = some label := by
  have beforeMark : ∀ character ∈ label.1.toList, (character != '=') = true := by
    intro character member
    rw [bne_iff_ne]
    rintro rfl
    exact not_mem_of_all_isLabelCharacter '=' (by decide) keyWord member
  have parts : (labelClause label).span (· != '=') = (label.1.toList, '=' :: label.2.toList) := by
    rw [List.span_eq_takeWhile_dropWhile, labelClause, List.takeWhile_append_of_pos beforeMark,
      List.dropWhile_append_of_pos beforeMark]
    simp
  have notEmpty : label.1.toList.isEmpty = false := by simpa using present
  simp only [clauseLabel?, parts]
  simp [notEmpty, keyWord, valueWord]

theorem mapM_clauseLabel? {labels : List (String × String)}
    (all : ∀ label ∈ labels, clauseLabel? (labelClause label) = some label) :
    (labels.map labelClause).mapM clauseLabel? = some labels := by
  induction labels with
  | nil => rfl
  | cons label rest ih =>
      obtain ⟨here, later⟩ := List.forall_mem_cons.1 all
      simp [List.mapM_cons, here, ih later]

/-- The query for labels asks for exactly these labels. -/
theorem queriedLabels?_labelQuery {labels : NameMap String} (someLabel : labels ≠ .empty)
    (wellFormed : WellFormed labels) :
    queriedLabels? (labelQuery labels) = some labels.toList := by
  have written : (labelQuery labels).toList = [','].intercalate (labels.toList.map labelClause) := by
    have clause (label : String × String) :
        (label.1 ++ "=" ++ label.2).toList = labelClause label := by
      simp [labelClause]
    simp only [labelQuery, String.toList_intercalate, List.map_map, Function.comp_def, clause]
    rfl
  have someClause : labels.toList.map labelClause ≠ [] := by
    intro nothing
    exact someLabel (NameMap.ext (List.map_eq_nil_iff.1 nothing))
  have noComma : ∀ clause ∈ labels.toList.map labelClause, ',' ∉ clause := by
    rw [List.forall_mem_map]
    intro label member
    obtain ⟨-, keyWord, valueWord⟩ := wellFormed label member
    have notInKey := not_mem_of_all_isLabelCharacter ',' (by decide) keyWord
    have notInValue := not_mem_of_all_isLabelCharacter ',' (by decide) valueWord
    simp [labelClause, notInKey, notInValue]
  rw [queriedLabels?, written, List.splitOn_intercalate ',' noComma someClause]
  apply mapM_clauseLabel?
  intro label member
  obtain ⟨present, keyWord, valueWord⟩ := wellFormed label member
  exact clauseLabel?_labelClause present keyWord valueWord

/-! ## The pod behind labels -/

theorem isFirst_filter_iff {α : Type} {kept property : α → Prop} [DecidablePred kept]
    {items : List α} {item : α} :
    IsFirst property (items.filter kept) item ↔
      IsFirst (fun other => kept other ∧ property other) items item := by
  classical
  have tests (other : α) : decide (property other) = true ↔ property other := decide_eq_true_iff
  have testsBoth (other : α) :
      decide (kept other ∧ property other) = true ↔ kept other ∧ property other :=
    decide_eq_true_iff
  rw [← find?_eq_some_iff_isFirst tests, ← find?_eq_some_iff_isFirst testsBoth, List.find?_filter]
  simp

/-- Behind the labels of a selector stands the first ready pod that has them. -/
theorem standsBehind_iff {server : Request → Reply} {space : String} {pods : List Pod}
    {labels : NameMap String} {pod : Pod} (honours : Honours server space pods)
    (wellFormed : WellFormed labels) :
    StandsBehind server space labels pod ↔
      labels ≠ .empty ∧ IsFirst (fun other => other.Has labels.toList ∧ other.Ready) pods pod := by
  refine and_congr_right fun someLabel => ?_
  have told := honours _ _ (queriedLabels?_labelQuery someLabel wellFormed)
  rw [← isFirst_filter_iff]
  constructor
  · rintro ⟨listed, described, first⟩
    obtain rfl := Except.ok.inj (told.symm.trans described)
    exact first
  · intro first
    exact ⟨_, told, first⟩

/-! ## Servers of one object -/

/-- A port of a container as a server describes it. -/
def containerPortJson (port : ContainerPort) : Json.Value :=
  .object (Config.presentMember "name" .text port.name ++ [("containerPort", .integer port.number)])

/-- A container as a server describes it. -/
def containerJson (container : Container) : Json.Value :=
  .object
    [("name", .text container.name), ("ports", .array (container.ports.map containerPortJson))]

/-- A condition as a server describes it. -/
def conditionJson (condition : Condition) : Json.Value :=
  .object [("type", .text condition.kind), ("status", .text condition.status)]

/-- A pod that is to stay as a server describes it. -/
def podJson (pod : Pod) : Json.Value :=
  .object
    [("metadata",
        .object [("name", .text pod.name), ("labels", Config.mapJson .text pod.labels)]),
      ("spec", .object [("containers", .array (pod.containers.map containerJson))]),
      ("status", .object [("conditions", .array (pod.conditions.map conditionJson))])]

/-- The pods of a list as a server describes them. -/
def podsJson (pods : List Pod) : Json.Value :=
  .object [("items", .array (pods.map podJson))]

/-- All ports of a pod are numbered as ports are. -/
def Pod.Numbered (pod : Pod) : Prop :=
  ∀ container ∈ pod.containers, ∀ port ∈ container.ports, 0 ≤ port.number ∧ port.number ≤ 65535

instance (pod : Pod) : Decidable pod.Numbered :=
  inferInstanceAs (Decidable (∀ container ∈ pod.containers, _))

theorem exact_containerPortJson {port : ContainerPort}
    (numbered : 0 ≤ port.number ∧ port.number ≤ 65535) : Json.Exact (containerPortJson port) := by
  have low : -(Number.twoTo 63 : Int) ≤ 0 := by decide
  have high : (65535 : Int) ≤ Json.greatestWord := by decide
  rw [containerPortJson, Json.exact_object_iff, List.forall_mem_append, List.forall_mem_singleton]
  exact ⟨Config.exact_presentMember .text _ _,
    .integer (low.trans numbered.1) (numbered.2.trans high)⟩

theorem exact_podJson {pod : Pod} (numbered : pod.Numbered) : Json.Exact (podJson pod) := by
  have container : ∀ container ∈ pod.containers, Json.Exact (containerJson container) := by
    intro container member
    simpa [containerJson] using fun port held =>
      exact_containerPortJson (numbered container member port held)
  have condition (condition : Condition) : Json.Exact (conditionJson condition) := by
    simp [conditionJson]
  simpa [podJson, condition] using ⟨Config.exact_mapJson .text _, container⟩

/-- A server of one object and of the pods in a namespace.  It honours queries for labels and
carries every channel. -/
def host (path space : String) (object : Json.Value) (pods : List Pod) (request : Request) :
    Reply :=
  if request.path = path then .answered 200 object.compact
  else if request.path = podsPath space then
    match request.query.head?.bind fun argument => queriedLabels? argument.2 with
    | some labels => .answered 200 (podsJson (pods.filter fun pod => pod.Has labels)).compact
    | none => .answered 400 ""
  else .answered StatusCode.switching ""

/-- The body of an answer describes what is read from the value that was printed. -/
theorem describe_compact {α : Type} {reader : Schema.Reader α} {body : Json.Value} {value : α}
    (exact : Json.Exact body)
    (read : reader.json .document (Json.Draft.ofValue body) = .ok value) :
    describe reader (.answered 200 body.compact) = .ok value := by
  have accepted : Config.ofJson reader body.compact = .ok value := by
    simp only [Config.ofJson, Json.Draft.ofText_of_isPrinted exact (.inl rfl), read]
    rfl
  have noError : StatusCode.isError 200 = false := rfl
  simp [describe, noError, ofBody?, accepted, Except.toOption]

section Hosts

variable {path space : String} {object : Json.Value} {pods : List Pod}

/-- The object is described by what is read from it. -/
theorem describes_host {α : Type} {reader : Schema.Reader α} {value : α}
    (exact : Json.Exact object)
    (read : reader.json .document (Json.Draft.ofValue object) = .ok value) :
    Describes (host path space object pods) { path := path } reader value := by
  rw [Describes, host, if_pos rfl]
  exact describe_compact exact read

/-- Queries are honoured if all pods are read back from their descriptions. -/
theorem honours_host (apart : podsPath space ≠ path)
    (numbered : ∀ pod ∈ pods, pod.Numbered)
    (read : ∀ test : Pod → Bool,
      podListRecord.reader.json .document (Json.Draft.ofValue (podsJson (pods.filter test))) =
        .ok (pods.filter test)) :
    Honours (host path space object pods) space pods := by
  intro query wanted asks
  have listed : Json.Exact (podsJson (pods.filter fun pod => pod.Has wanted)) := by
    apply Json.Exact.object
    rw [List.forall_mem_singleton]
    apply Json.Exact.array
    rw [List.forall_mem_map]
    exact fun pod member => exact_podJson (numbered pod (List.mem_of_mem_filter member))
  have answered : host path space object pods
      { path := podsPath space
        query := [("labelSelector", query), ("fieldSelector", "status.phase=Running")] } =
      .answered 200 (podsJson (pods.filter fun pod => pod.Has wanted)).compact := by
    rw [host, if_neg apart, if_pos rfl]
    simp only [List.head?_cons, Option.bind_some, asks]
  rw [Describes, answered]
  exact describe_compact listed (read _)

end Hosts

/-! ## A service with a named port -/

end PortTunnel.Kubernetes
