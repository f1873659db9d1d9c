import PortTunnel.Address.Server
import PortTunnel.Kubeconfig.Layout
import PortTunnel.Kubernetes.Connection
import PortTunnel.Text.Base64

/-!
# Access to clusters

To reach the cluster of a context, the files that describe clusters are read,
the context is looked up, and what a connection needs is made ready.  The files
are a named one, or those that the surroundings list, or the one in the user's
home.

This is a library for programs that are given no other.  It reads as much of the
files as tells whether a context can be used, and it runs no commands: a user who
is identified by one is taken to be identified.
-/

namespace PortTunnel.Kubeconfig

/-- Where descriptions of clusters come from. -/
inductive Origin where
  | named (path : String)
  /-- Paths from the surroundings, with colons between them, and the user's home. -/
  | surrounding (paths home : Option String)
  deriving DecidableEq, Repr

/-! ## Reading files -/

/-- The path of a file beside another one, unless it starts from the root. -/
def beside (path other : String) : String :=
  if other.startsWith "/" then other
  else
    let folder := path.toList.reverse.dropWhile (· != '/')
    String.ofList folder.reverse ++ other

/-- Material whose path is taken from where a file lies. -/
def Material.located (path : String) (material : Material) : Material :=
  { material with path := material.path.map (beside path) }

/-- A description whose paths are taken from where its file lies. -/
def located (path : String) (kubeconfig : Kubeconfig) : Kubeconfig :=
  { kubeconfig with
    clusters := kubeconfig.clusters.map fun (name, cluster) =>
      (name, cluster.map fun cluster =>
        { cluster with authority := Material.located path cluster.authority })
    users := kubeconfig.users.map fun (name, user) =>
      (name, user.map fun user =>
        { user with
          certificate := Material.located path user.certificate
          key := Material.located path user.key
          tokenFile := user.tokenFile.map (beside path) }) }

/-- Read one file. -/
def readFile (files : Files) (path : String) : Except Defect Kubeconfig :=
  match (files path).text? with
  | .error cause => .error (.unreadable path cause)
  | .ok text => (ofText text).map (located path)

/-- The paths that a list with colons names. -/
def listed (paths : String) : List String :=
  ((File.splitAt ':' paths.toList).filter (!·.isEmpty)).map String.ofList

/-- The file in the user's home. -/
def homePath (home : String) : String :=
  home ++ "/.kube/config"

/-- The paths of the files that an origin stands for. -/
def Origin.paths : Origin → List String
  | named path => [path]
  | surrounding paths home =>
      match (paths.map listed).getD [] with
      | [] => (home.map homePath).toList
      | paths => paths

/-- Read what an origin holds. -/
def read (files : Files) (origin : Origin) : Except Defect Kubeconfig :=
  match origin.paths with
  | [] => .error .nowhere
  | paths => paths.foldlM (fun held path => do held.merged (← readFile files path)) {}

/-- The paths of the files that descriptions refer to. -/
def referredPaths (kubeconfig : Kubeconfig) : List String :=
  (kubeconfig.clusters.filterMap (·.2)).flatMap (fun cluster => cluster.authority.path.toList)
    ++ (kubeconfig.users.filterMap (·.2)).flatMap fun user =>
      user.certificate.path.toList ++ user.key.path.toList ++ user.tokenFile.toList

/-! ## Making ready -/

/-- The bytes of material: those given in place count first. -/
def Material.bytes? (files : Files) (material : Material) : Option (List UInt8) :=
  match material.encoded, material.path with
  | some encoded, _ => Text.Base64.decode? encoded.toList
  | none, some path =>
      match files path with
      | .bytes content => some content.toList
      | .absent | .directory => none
  | none, none => none

/-- Whether material is given. -/
def Material.isGiven (material : Material) : Bool :=
  material.encoded.isSome || material.path.isSome

/-- Whether bytes hold a mark. -/
def holds (mark : List UInt8) : List UInt8 → Bool
  | [] => mark.isEmpty
  | byte :: rest => mark.isPrefixOf (byte :: rest) || holds mark rest

/-- Whether bytes hold a private key and a certificate. -/
def isIdentity (bytes : List UInt8) : Bool :=
  holds "PRIVATE KEY-----".toUTF8.toList bytes
    && holds "-----BEGIN CERTIFICATE-----".toUTF8.toList bytes

/-- Whether a cluster can be addressed. -/
def checkCluster (files : Files) (cluster : Cluster) : Except Defect Unit :=
  match cluster.server with
  | none => .error .noServer
  | some server =>
      if !Server.isAddress server then .error (.badServer server)
      else if Material.isGiven cluster.authority
          && (Material.bytes? files cluster.authority).isNone then
        .error .badAuthority
      else .ok ()

/-- Whether a user can be identified.  A certificate without a key, or one that
cannot be read, is not used. -/
def checkUser (files : Files) (user : User) : Except Defect Unit :=
  let identity? : Option (List UInt8) := do
    return (← Material.bytes? files user.key) ++ (← Material.bytes? files user.certificate)
  if identity?.any fun identity => !isIdentity identity then .error .badIdentity
  else if (user.username.isSome && user.password.isSome) || user.token.isSome then .ok ()
  else
    match user.tokenFile with
    | some path =>
        match (files path).text? with
        | .ok _ => .ok ()
        | .error _ => .error (.noToken path)
    | none => .ok ()

/-- The cluster and the user of a context, if the cluster can be addressed. -/
def addressed (files : Files) (kubeconfig : Kubeconfig) (context : String) :
    Except Defect (Cluster × User) := do
  let (cluster, user) ← kubeconfig.select context
  checkCluster files cluster
  return (cluster, user)

/-- The cluster and the user of a context, once a connection can be made ready. -/
def access (files : Files) (origin : Origin) (context : String) :
    Except Defect (Cluster × User) := do
  let kubeconfig ← read files origin
  let (cluster, user) ← addressed files kubeconfig context
  checkUser files user
  return (cluster, user)

/-! ## Failures -/

/-- The path of the file that is named. -/
def Origin.path? : Origin → Option String
  | named path => some path
  | surrounding .. => none

/-- What is being done when a defect shows. -/
def Phase.occasion (origin : Origin) (context : String) (phase : Phase) : Kubernetes.Occasion :=
  match phase, origin.path? with
  | .reading, some path => .reading path
  | .reading, none | .selecting, _ => .selecting context
  | .connecting, _ => .connecting context

/-- What stands in front of the words for a defect: what was being done. -/
def Defect.occasion (origin : Origin) (context : String) (defect : Defect) : String :=
  (defect.phase.occasion origin context).text

/-- The failure to make ready for a connection. -/
def Defect.failure (origin : Origin) (context : String) (defect : Defect) : Failure :=
  (defect.phase.occasion origin context).failure defect.text

/-- The library of the files that are found, and of an origin for want of a path. -/
def library (files : Files) (origin : Origin) :
    Kubernetes.Library Kubeconfig (Cluster × User) (Cluster × User) where
  readFile path := (readFile files path).mapError Defect.text
  select kubeconfig context := (addressed files kubeconfig context).mapError Defect.text
  selectSurrounding context :=
    (read files origin >>= fun kubeconfig => addressed files kubeconfig context).mapError
      Defect.text
  client access := ((checkUser files access.2).map fun _ => access).mapError Defect.text

end PortTunnel.Kubeconfig
