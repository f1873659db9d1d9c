import PortTunnel.Failure

/-!
# Connections to clusters

The link to a context is a client of its cluster.  A library reads the files that
describe clusters, looks up contexts in them and makes clients.  Here it is told
what is asked of it, and what its errors become.

The library itself is not described.  It is a parameter, and may fail at each
step with whatever words.
-/

namespace PortTunnel.Kubernetes

/-- A library that makes clients, as it is at one moment: what lies in files may
change later, and so may all that the library says. -/
structure Library (Description Settings Client : Type) where
  /-- Read the file at a path. -/
  readFile : String → Except String Description
  /-- Look up a context in a description. -/
  select : Description → String → Except String Settings
  /-- Look up a context in what the surroundings describe. -/
  selectSurrounding : String → Except String Settings
  /-- Make a client, which may take more than the settings hold. -/
  client : Settings → Except String Client

/-- What is being done to connect. -/
inductive Occasion where
  | reading (path : String)
  | selecting (context : String)
  | connecting (context : String)
  deriving DecidableEq, Repr

/-- The words for what is being done, which stand in front of an error. -/
def Occasion.text : Occasion → String
  | reading path => "failed to read kubeconfig " ++ path ++ ": "
  | selecting context => "kubeconfig context " ++ context ++ ": "
  | connecting context => "client for context " ++ context ++ ": "

/-- The failure that an error becomes.  A file may be mended while a run goes on,
so whatever the error is, the connection failed and may be tried again. -/
def Occasion.failure (occasion : Occasion) (error : String) : Failure :=
  .connectFailed (occasion.text ++ error)

variable {Description Settings Client : Type}

/-- The settings for a context: from the file at a path, or from the surroundings
if no path is given. -/
def settings (library : Library Description Settings Client) (path? : Option String)
    (context : String) : Except Failure Settings :=
  match path? with
  | some path => do
      let description ← (library.readFile path).mapError (Occasion.reading path).failure
      (library.select description context).mapError (Occasion.selecting context).failure
  | none => (library.selectSurrounding context).mapError (Occasion.selecting context).failure

/-- The client for a context. -/
def connect (library : Library Description Settings Client) (path? : Option String)
    (context : String) : Except Failure Client := do
  let settings ← settings library path? context
  (library.client settings).mapError (Occasion.connecting context).failure

end PortTunnel.Kubernetes
