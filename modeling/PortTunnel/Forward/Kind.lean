/-!
# Kinds of resources

A forward leads to a pod, or to a resource that stands for pods.  Declarations
may spell a kind in the singular, in the plural or short, and in any case.
-/

namespace PortTunnel

/-- The kinds of resources that can be forwarded to. -/
inductive ResourceKind where
  | pod
  | service
  | deployment
  | statefulSet
  deriving DecidableEq, Repr, Inhabited

namespace ResourceKind

/-- All kinds. -/
def all : List ResourceKind := [pod, service, deployment, statefulSet]

/-- The name of a kind. -/
def name : ResourceKind → String
  | pod => "pod"
  | service => "service"
  | deployment => "deployment"
  | statefulSet => "statefulset"

/-- The spellings of a kind, in small letters. -/
def spellings : ResourceKind → List String
  | pod => ["pod", "pods", "po"]
  | service => ["service", "services", "svc"]
  | deployment => ["deployment", "deployments", "deploy"]
  | statefulSet => ["statefulset", "statefulsets", "sts"]

/-- A text with the letters `A` to `Z` in small. -/
def lowered (text : String) : String :=
  String.ofList (text.toList.map Char.toLower)

/-- The kind that a word spells. -/
def ofSpelling? (word : String) : Option ResourceKind :=
  all.find? fun kind => kind.spellings.contains (lowered word)

/-- The kind of exactly the given name. -/
def ofName? (name : String) : Option ResourceKind :=
  all.find? fun kind => kind.name == name

end ResourceKind

end PortTunnel
