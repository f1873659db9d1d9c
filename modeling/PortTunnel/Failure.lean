import PortTunnel.Span

/-!
# Failures

What can go wrong with forwards.  Failures to resolve an environment keep a run
from starting.  Failures of one forward stay with it and are seen in its status;
a failed connection is the only one that is worth another attempt.
-/

namespace PortTunnel

/-- The kinds of failures. -/
inductive FailureKind where
  | unknownEnvironment
  | emptyEnvironment
  | portConflict
  | invalidPort
  | unsupportedKind
  | invalidDeclaration
  | invalidExtends
  | bindFailed
  | connectFailed
  | shutdownTimeout
  deriving DecidableEq, Repr

/-- A failure.  `place` is where in the configuration it lies. -/
inductive Failure where
  | unknownEnvironment (name : String)
  | emptyEnvironment (name : String)
  | portConflict (port : UInt16) (claimants : List String)
  | invalidPort (place : String) (port : Int64)
  | unsupportedKind (place kind : String)
  | invalidDeclaration (place reason : String)
  | invalidExtends (place reason : String)
  | bindFailed (address reason : String)
  | connectFailed (reason : String)
  | shutdownTimeout (limit : Span)
  deriving DecidableEq

namespace FailureKind

/-- The name of a kind. -/
def name : FailureKind → String
  | unknownEnvironment => "unknown-environment"
  | emptyEnvironment => "empty-environment"
  | portConflict => "port-conflict"
  | invalidPort => "invalid-port"
  | unsupportedKind => "unsupported-kind"
  | invalidDeclaration => "invalid-declaration"
  | invalidExtends => "invalid-extends"
  | bindFailed => "bind-failed"
  | connectFailed => "connect-failed"
  | shutdownTimeout => "shutdown-timeout"

/-- The name of a kind in JSON. -/
def key : FailureKind → String
  | unknownEnvironment => "unknownEnvironment"
  | emptyEnvironment => "emptyEnvironment"
  | portConflict => "portConflict"
  | invalidPort => "invalidPort"
  | unsupportedKind => "unsupportedKind"
  | invalidDeclaration => "invalidDeclaration"
  | invalidExtends => "invalidExtends"
  | bindFailed => "bindFailed"
  | connectFailed => "connectFailed"
  | shutdownTimeout => "shutdownTimeout"

/-- Whether a session tries again after such a failure. -/
def isRetryable : FailureKind → Bool
  | connectFailed => true
  | _ => false

end FailureKind

namespace Failure

/-- The kind of a failure. -/
def kind : Failure → FailureKind
  | unknownEnvironment _ => .unknownEnvironment
  | emptyEnvironment _ => .emptyEnvironment
  | portConflict .. => .portConflict
  | invalidPort .. => .invalidPort
  | unsupportedKind .. => .unsupportedKind
  | invalidDeclaration .. => .invalidDeclaration
  | invalidExtends .. => .invalidExtends
  | bindFailed .. => .bindFailed
  | connectFailed _ => .connectFailed
  | shutdownTimeout _ => .shutdownTimeout

/-- Whether a session tries again after a failure. -/
def isRetryable (failure : Failure) : Bool :=
  failure.kind.isRetryable

/-- The message about a failure. -/
def message : Failure → String
  | unknownEnvironment name => "Unknown environment '" ++ name ++ "'"
  | emptyEnvironment name => "Environment '" ++ name ++ "' declares no forwards"
  | portConflict port claimants =>
      "Local port " ++ port.toNat.repr ++ " is claimed by more than one forward: "
        ++ String.intercalate ", " claimants
  | invalidPort place port =>
      place ++ ": port " ++ port.toInt.repr ++ " must be between 1 and 65535"
  | unsupportedKind place kind => place ++ ": unsupported resource kind '" ++ kind ++ "'"
  | invalidDeclaration place reason | invalidExtends place reason => place ++ ": " ++ reason
  | bindFailed address reason => "Failed to bind " ++ address ++ ": " ++ reason
  | connectFailed reason => "Connect failed: " ++ reason
  | shutdownTimeout limit => "Shutdown timed out after " ++ limit.text

end Failure

/-- Why the system refuses to let a listener use an address. -/
inductive BindRefusal where
  | inUse
  | notPermitted
  | notAvailable
  | other (reason : String)
  deriving DecidableEq, Repr

/-- Why a listener was refused, with a hint at what to do. -/
def BindRefusal.reason : BindRefusal → String
  | inUse => "port already in use, another application may be listening on it"
  | notPermitted => "permission denied, ports below 1024 require elevated privileges"
  | notAvailable => "address not available on this system"
  | other reason => reason

/-- The failure to listen on an address. -/
def Failure.ofBind (address : String) (refusal : BindRefusal) : Failure :=
  .bindFailed address refusal.reason

end PortTunnel
