import PortTunnel.File
import PortTunnel.Text.Quoted

/-!
# Files that describe clusters

Such a file names clusters, users and contexts; a context is a cluster together
with the user as whom to reach it.  Several files may be put together; of what
has the same name the first one counts.
-/

namespace PortTunnel

/-- Content that is given in place, encoded, or by the path of a file. -/
structure Material where
  encoded : Option String := none
  path : Option String := none
  deriving DecidableEq, Repr, Inhabited

namespace Kubeconfig

/-- A cluster. -/
structure Cluster where
  server : Option String := none
  /-- The certificates to check the server's against. -/
  authority : Material := {}
  deriving DecidableEq, Repr, Inhabited

/-- A user. -/
structure User where
  certificate : Material := {}
  key : Material := {}
  username : Option String := none
  password : Option String := none
  token : Option String := none
  /-- The path of a file with the token. -/
  tokenFile : Option String := none
  deriving DecidableEq, Repr, Inhabited

/-- A context: the names of a cluster and of a user. -/
structure Context where
  cluster : String
  user : String
  deriving DecidableEq, Repr

end Kubeconfig

/-- What is known of clusters. -/
structure Kubeconfig where
  kind : Option String := none
  apiVersion : Option String := none
  clusters : List (String × Option Kubeconfig.Cluster) := []
  users : List (String × Option Kubeconfig.User) := []
  contexts : List (String × Option Kubeconfig.Context) := []
  deriving DecidableEq, Repr, Inhabited

namespace Kubeconfig

/-! ## What can go wrong -/

/-- Why a context cannot be used. -/
inductive Defect where
  | unreadable (path : String) (cause : File.Unreadable)
  /-- A text is not YAML. -/
  | malformed
  /-- A text describes no clusters. -/
  | illFormed
  /-- Files of different kinds or versions cannot be put together. -/
  | incompatible
  /-- It is not known where to look. -/
  | nowhere
  | noContext (name : String)
  | noCluster (name : String)
  | noUser (name : String)
  | noServer
  | badServer (server : String)
  | badAuthority
  | badIdentity
  | noToken (path : String)
  deriving DecidableEq, Repr

/-- When a defect shows. -/
inductive Phase where
  /-- On reading files. -/
  | reading
  /-- On looking up a context. -/
  | selecting
  /-- On making ready to connect. -/
  | connecting
  deriving DecidableEq, Repr

namespace Defect

/-- When a defect shows. -/
def phase : Defect → Phase
  | unreadable .. | malformed | illFormed | incompatible | nowhere => .reading
  | noContext _ | noCluster _ | noUser _ | noServer | badServer _ | badAuthority => .selecting
  | badIdentity | noToken _ => .connecting

/-- The words for a defect. -/
def text : Defect → String
  | unreadable path cause =>
      "failed to read kubeconfig from '" ++ Text.quoted path ++ "': " ++ cause.message
  | malformed => "failed to parse kubeconfig YAML"
  | illFormed => "the structure of the parsed kubeconfig is invalid"
  | incompatible => "kubeconfigs of different kinds or versions cannot be merged"
  | nowhere => "failed to find the path of kubeconfig"
  | noContext name => "failed to load current context: " ++ name
  | noCluster name => "failed to load the cluster of context: " ++ name
  | noUser name => "failed to find named user: " ++ name
  | noServer => "cluster url is missing on selected cluster"
  | badServer server => "failed to parse cluster url: " ++ server
  | badAuthority => "failed to load certificate authority"
  | badIdentity => "no usable private key and certificate"
  | noToken path => "failed to read token file " ++ Text.quoted path

end Defect

/-! ## Putting files together -/

/-- Entries with those of other names behind them. -/
def withNew {α : Type} (held new : List (String × α)) : List (String × α) :=
  held ++ new.filter fun entry => !held.any (·.1 == entry.1)

/-- Whether two values may stand side by side. -/
def agree (first second : Option String) : Bool :=
  first.isNone || second.isNone || first == second

/-- What is known, with what another file adds. -/
def merged (held new : Kubeconfig) : Except Defect Kubeconfig :=
  if agree held.kind new.kind && agree held.apiVersion new.apiVersion then
    .ok
      { kind := held.kind.or new.kind
        apiVersion := held.apiVersion.or new.apiVersion
        clusters := withNew held.clusters new.clusters
        users := withNew held.users new.users
        contexts := withNew held.contexts new.contexts }
  else .error .incompatible

/-! ## Looking up contexts -/

/-- The value of the first entry of a name. -/
def named? {α : Type} (entries : List (String × Option α)) (name : String) : Option α :=
  (entries.find? (·.1 == name)).bind (·.2)

/-- The cluster and the user of a context. -/
def select (kubeconfig : Kubeconfig) (name : String) : Except Defect (Cluster × User) :=
  match named? kubeconfig.contexts name with
  | none => .error (.noContext name)
  | some context =>
      match named? kubeconfig.clusters context.cluster with
      | none => .error (.noCluster context.cluster)
      | some cluster =>
          match named? kubeconfig.users context.user with
          | none => .error (.noUser context.user)
          | some user => .ok (cluster, user)

end Kubeconfig

end PortTunnel
