import PortTunnel.Kubeconfig.Access
import PortTunnel.Proofs.Except

/-!
# Where defects show

Defects of files show on reading them, those of contexts and clusters on looking up a
context, and those of users on making ready to connect.  So to connect with the library
at hand fails on the occasion that the defect of the access tells, with its words.
-/

namespace PortTunnel.Kubeconfig

/-! ## Phases -/

/-- All defects of a result show in one phase. -/
def ShowsOn {α : Type} (phase : Phase) (result : Except Defect α) : Prop :=
  ∀ defect, result = .error defect → defect.phase = phase

section Results

variable {α β : Type} {phase : Phase}

theorem showsOn_ok (value : α) : ShowsOn phase (.ok value) := nofun

theorem showsOn_error (defect : Defect) : ShowsOn defect.phase (.error defect : Except _ α) := by
  rintro _ ⟨⟩
  rfl

theorem ShowsOn.bind {result : Except Defect α} {next : α → Except Defect β}
    (first : ShowsOn phase result) (second : ∀ value, ShowsOn phase (next value)) :
    ShowsOn phase (result >>= next) := by
  intro defect failed
  rcases bind_eq_error_iff.1 failed with failed | ⟨value, -, failed⟩
  · exact first defect failed
  · exact second value defect failed

theorem ShowsOn.map {result : Except Defect α} (shows : ShowsOn phase result) (change : α → β) :
    ShowsOn phase (result.map change) :=
  fun defect failed => shows defect (map_eq_error_iff.1 failed)

theorem ShowsOn.foldlM {step : β → α → Except Defect β}
    (each : ∀ held value, ShowsOn phase (step held value)) (values : List α) (held : β) :
    ShowsOn phase (values.foldlM step held) := by
  induction values generalizing held with
  | nil => exact showsOn_ok held
  | cons value values ih =>
      rw [List.foldlM_cons]
      exact (each held value).bind ih

end Results

/-! ## Reading -/

theorem showsOn_merged (held new : Kubeconfig) : ShowsOn .reading (held.merged new) := by
  unfold merged
  split
  · exact showsOn_ok _
  · exact showsOn_error .incompatible

theorem showsOn_ofData (value : Json.Value) : ShowsOn .reading (ofData value) := by
  fun_cases ofData value
  · exact showsOn_ok _
  · exact showsOn_ok _
  · exact showsOn_error .illFormed

theorem showsOn_ofDocument (document : Yaml.Document) : ShowsOn .reading (ofDocument document) := by
  unfold ofDocument
  split
  · split
    · exact showsOn_error .malformed
    · exact showsOn_ofData _
  · exact showsOn_error .malformed

theorem showsOn_ofText (text : String) : ShowsOn .reading (ofText text) := by
  unfold ofText
  split
  · exact showsOn_ok _
  · refine (showsOn_ofDocument _).bind fun kubeconfig => ?_
    refine ShowsOn.foldlM (fun held document => ?_) _ _
    exact (showsOn_ofDocument document).bind fun _ => showsOn_merged held _

theorem showsOn_readFile (files : Files) (path : String) :
    ShowsOn .reading (readFile files path) := by
  unfold readFile
  split
  · rename_i cause _
    exact showsOn_error (.unreadable path cause)
  · exact (showsOn_ofText _).map _

theorem showsOn_read (files : Files) (origin : Origin) : ShowsOn .reading (read files origin) := by
  unfold read
  split
  · exact showsOn_error .nowhere
  · refine ShowsOn.foldlM (fun held path => ?_) _ _
    exact (showsOn_readFile files path).bind fun _ => showsOn_merged held _

/-! ## Looking up and making ready -/

theorem showsOn_select (kubeconfig : Kubeconfig) (name : String) :
    ShowsOn .selecting (kubeconfig.select name) := by
  fun_cases select kubeconfig name
  · exact showsOn_error (.noContext name)
  · exact showsOn_error (.noCluster _)
  · exact showsOn_error (.noUser _)
  · exact showsOn_ok _

theorem showsOn_checkCluster (files : Files) (cluster : Cluster) :
    ShowsOn .selecting (checkCluster files cluster) := by
  fun_cases checkCluster files cluster
  · exact showsOn_error .noServer
  · exact showsOn_error (.badServer _)
  · exact showsOn_error .badAuthority
  · exact showsOn_ok ()

theorem showsOn_addressed (files : Files) (kubeconfig : Kubeconfig) (context : String) :
    ShowsOn .selecting (addressed files kubeconfig context) :=
  (showsOn_select kubeconfig context).bind fun _ =>
    (showsOn_checkCluster files _).bind fun _ => showsOn_ok _

theorem showsOn_checkUser (files : Files) (user : User) :
    ShowsOn .connecting (checkUser files user) := by
  unfold checkUser
  dsimp only
  split
  · exact showsOn_error .badIdentity
  split
  · exact showsOn_ok ()
  split
  · split
    · exact showsOn_ok ()
    · exact showsOn_error (.noToken _)
  · exact showsOn_ok ()

/-! ## The library at hand -/

/-- What is merged with nothing stays as it is. -/
theorem merged_empty (new : Kubeconfig) : ({} : Kubeconfig).merged new = .ok new := by
  simp [merged, agree, withNew, List.filter_eq_self.2]

/-- A file that is named is read alone. -/
theorem read_named (files : Files) (path : String) :
    read files (.named path) = readFile files path := by
  simp only [read, Origin.paths, List.foldlM_cons, List.foldlM_nil, merged_empty]
  cases readFile files path <;> rfl

/-- The occasion of a defect is that of its phase. -/
theorem ShowsOn.mapError_text {α : Type} {phase : Phase} {result : Except Defect α}
    (shows : ShowsOn phase result) (origin : Origin) (context : String) :
    (result.mapError Defect.text).mapError (phase.occasion origin context).failure =
      result.mapError (Defect.failure origin context) := by
  cases result with
  | ok value => rfl
  | error defect =>
      obtain rfl := shows defect rfl
      rfl

/-- The settings for a context are its cluster and its user, if the cluster can be addressed. -/
theorem settings_library (files : Files) (origin : Origin) (context : String) :
    Kubernetes.settings (library files origin) origin.path? context =
      (read files origin >>= fun kubeconfig => addressed files kubeconfig context).mapError
        (Defect.failure origin context) := by
  have looked (kubeconfig : Kubeconfig) :=
    (showsOn_addressed files kubeconfig context).mapError_text origin context
  have readIn := (showsOn_read files origin).mapError_text origin context
  cases origin with
  | named path =>
      rw [read_named] at readIn ⊢
      rw [mapError_bind, ← readIn]
      simp only [← looked]
      rfl
  | surrounding paths home =>
      rw [mapError_bind, ← readIn]
      simp only [← looked]
      -- Reading is a part of looking up here.
      change Except.mapError _ (Except.mapError _ (read files _ >>= _)) = _
      rw [mapError_bind, mapError_bind]
      rfl

/-- First the context is looked up and then its user is checked. -/
theorem access_eq (files : Files) (origin : Origin) (context : String) :
    access files origin context =
      (read files origin >>= fun kubeconfig => addressed files kubeconfig context) >>=
        fun access => (checkUser files access.2).map fun _ => access := by
  rw [access, bind_assoc]
  rfl

/-- To connect with the library at hand is to make ready for a connection, and what it says of a
defect is what was being done and the words for the defect. -/
theorem connect_library (files : Files) (origin : Origin) (context : String) :
    Kubernetes.connect (library files origin) origin.path? context =
      (access files origin context).mapError (Defect.failure origin context) := by
  have checked (access : Cluster × User) :=
    ((showsOn_checkUser files access.2).map fun _ => access).mapError_text origin context
  rw [access_eq, mapError_bind, ← settings_library]
  simp only [← checked]
  rfl

end PortTunnel.Kubeconfig
