import PortTunnel.Config.Loading
import PortTunnel.Kubeconfig.Basic
import PortTunnel.Schema.Anything

/-!
# The layout of files that describe clusters

Such a file may hold several documents, which are put together.  Each is read as
data first.  Members that do not matter here are passed over.
-/

namespace PortTunnel.Kubeconfig

open Schema

/-- The layout of a cluster. -/
def Cluster.record : Record Cluster where
  title := "struct Cluster"
  blank := {}
  fields :=
    [member "server" string fun value cluster => { cluster with server := some value },
      member "certificate-authority" string fun value cluster =>
        { cluster with authority := { cluster.authority with path := some value } },
      member "certificate-authority-data" string fun value cluster =>
        { cluster with authority := { cluster.authority with encoded := some value } }]
  strict := false

/-- The layout of a user. -/
def User.record : Record User where
  title := "struct AuthInfo"
  blank := {}
  fields :=
    [member "username" string fun value user => { user with username := some value },
      member "password" string fun value user => { user with password := some value },
      member "token" string fun value user => { user with token := some value },
      member "tokenFile" string fun value user => { user with tokenFile := some value },
      member "client-certificate" string fun value user =>
        { user with certificate := { user.certificate with path := some value } },
      member "client-certificate-data" string fun value user =>
        { user with certificate := { user.certificate with encoded := some value } },
      member "client-key" string fun value user =>
        { user with key := { user.key with path := some value } },
      member "client-key-data" string fun value user =>
        { user with key := { user.key with encoded := some value } }]
  strict := false

/-- The layout of a context. -/
def Context.record : Record Context where
  title := "struct Context"
  blank := ⟨"", ""⟩
  fields :=
    [.of "cluster" true string fun value context => { context with cluster := value },
      .of "user" true string fun value context => { context with user := value }]
  strict := false

/-- The layout of an entry: a name, and under a key of its own what is named. -/
def entryRecord {α : Type} (key : String) (reader : Reader α) : Record (String × Option α) where
  title := "struct NamedEntry"
  blank := ("", none)
  fields :=
    [.of "name" true string fun value entry => (value, entry.2),
      member key reader fun value entry => (entry.1, some value)]
  strict := false

/-- The layout of a document. -/
def record : Record Kubeconfig where
  title := "struct Kubeconfig"
  blank := {}
  fields :=
    [member "kind" string fun value kubeconfig => { kubeconfig with kind := some value },
      member "apiVersion" string fun value kubeconfig =>
        { kubeconfig with apiVersion := some value },
      member "clusters" (entryRecord "cluster" Cluster.record.reader).reader.list
        fun value kubeconfig => { kubeconfig with clusters := value },
      member "users" (entryRecord "user" User.record.reader).reader.list
        fun value kubeconfig => { kubeconfig with users := value },
      member "contexts" (entryRecord "context" Context.record.reader).reader.list
        fun value kubeconfig => { kubeconfig with contexts := value },
      member "current-context" string fun _ kubeconfig => kubeconfig]
  strict := false

/-- What data describe; nothing at all describes nothing. -/
def ofData : Json.Value → Except Defect Kubeconfig
  | .null => .ok {}
  | value =>
      match record.reader.json .value (.ofValue value) with
      | .ok kubeconfig => .ok kubeconfig
      | .error _ => .error .illFormed

/-- What a document describes. -/
def ofDocument (document : Yaml.Document) : Except Defect Kubeconfig :=
  match Reader.anything.yaml document [] ⟨0, 0⟩ with
  | .ok (value, _) => if document.fault.isSome then .error .malformed else ofData value
  | .error _ => .error .malformed

/-- What a text describes: all its documents put together. -/
def ofText (text : String) : Except Defect Kubeconfig :=
  match Yaml.Document.allOfText text with
  | [] => .ok {}
  | first :: rest => do
      let kubeconfig ← ofDocument first
      rest.foldlM (fun held document => do held.merged (← ofDocument document)) kubeconfig

end PortTunnel.Kubeconfig
