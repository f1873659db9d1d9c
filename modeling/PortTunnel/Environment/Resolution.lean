import PortTunnel.Environment.Effective
import PortTunnel.Forward.Basic

/-!
# Resolving environments

An environment resolves into one forward for each port pair that it declares:
namespaces in the order of their names, declarations and port pairs as they
stand.  The first declaration that is not valid decides the failure; only valid
ones are checked for competing local ports.
-/

namespace PortTunnel.Environment

open Config

/-- Where a declaration stands. -/
structure Place where
  environment : String
  space : String
  index : Nat
  deriving DecidableEq, Repr

/-- The text of a place. -/
def Place.text (place : Place) : String :=
  "environments." ++ place.environment ++ ".namespaces." ++ place.space ++ ".forwards["
    ++ place.index.repr ++ "]"

/-- The ends of a port pair. -/
inductive PortEnd where
  | localEnd
  | remoteEnd
  deriving DecidableEq, Repr

/-- The field that holds an end of a port pair. -/
def PortEnd.fieldName : PortEnd → String
  | localEnd => "localPort"
  | remoteEnd => "remotePort"

/-- What is wrong with a declaration. -/
inductive Flaw where
  | unsupportedKind (kind : String)
  | blankName
  | noPorts
  | badPort (index : Nat) (portEnd : PortEnd) (port : Int64)
  deriving DecidableEq, Repr

/-- What a flaw is called. -/
def Flaw.failure (place : Place) : Flaw → Failure
  | unsupportedKind kind => .unsupportedKind place.text kind
  | blankName => .invalidDeclaration (place.text ++ ".name") "resource name cannot be empty"
  | noPorts =>
      .invalidDeclaration (place.text ++ ".ports") "forward must declare at least one port"
  | badPort index portEnd port =>
      .invalidPort (place.text ++ ".ports[" ++ index.repr ++ "]." ++ portEnd.fieldName) port

/-- Why an environment does not resolve. -/
inductive ResolutionDefect where
  | environment (defect : Defect)
  | declaration (place : Place) (flaw : Flaw)
  | empty (name : String)
  | conflict (port : UInt16) (claimants : List String)
  deriving DecidableEq, Repr

/-- What a defect is called. -/
def ResolutionDefect.failure : ResolutionDefect → Failure
  | environment defect => defect.failure
  | declaration place flaw => flaw.failure place
  | empty name => .emptyEnvironment name
  | conflict port claimants => .portConflict port claimants

/-- The port of a number from 1 to 65535. -/
def portOf? (number : Int64) : Option UInt16 :=
  if 1 ≤ number.toInt ∧ number.toInt ≤ 65535 then some (UInt16.ofNat number.toInt.toNat) else none

/-- The forward of a port pair. -/
def forwardOf (environment : Effective) (space : String) (declaration : Declaration)
    (kind : ResourceKind) (pair : PortPair) (localPort remotePort : UInt16) : Forward where
  context := environment.context
  space := space
  kind := kind
  name := declaration.name
  localPort := localPort
  remotePort := remotePort
  bindAddress := .v4 (pair.bindAddress.getD environment.bindAddress)
  container := declaration.container.filter fun container => !container.isEmpty

/-- The forwards of port pairs, the first of which has the given index. -/
def pairForwards (environment : Effective) (space : String) (declaration : Declaration)
    (kind : ResourceKind) : Nat → List PortPair → Except Flaw (List Forward)
  | _, [] => .ok []
  | index, pair :: rest =>
      match portOf? pair.localPort, portOf? pair.remotePort with
      | none, _ => .error (.badPort index .localEnd pair.localPort)
      | some _, none => .error (.badPort index .remoteEnd pair.remotePort)
      | some localPort, some remotePort => do
          let forwards ← pairForwards environment space declaration kind (index + 1) rest
          return forwardOf environment space declaration kind pair localPort remotePort :: forwards

/-- The forwards of a declaration. -/
def declarationForwards (environment : Effective) (space : String) (declaration : Declaration) :
    Except Flaw (List Forward) :=
  match ResourceKind.ofSpelling? declaration.kind with
  | none => .error (.unsupportedKind declaration.kind)
  | some kind =>
      if Text.blank declaration.name then .error .blankName
      else if declaration.ports.isEmpty then .error .noPorts
      else pairForwards environment space declaration kind 0 declaration.ports

/-- The declarations of an environment with their places, in order. -/
def placedDeclarations (environment : Effective) : List (Place × Declaration) :=
  environment.namespaces.toList.flatMap fun entry =>
    entry.2.zipIdx.map fun indexed => (⟨environment.name, entry.1, indexed.2⟩, indexed.1)

/-- The forwards of declarations. -/
def allForwards (environment : Effective) :
    List (Place × Declaration) → Except ResolutionDefect (List Forward)
  | [] => .ok []
  | (place, declaration) :: rest =>
      match declarationForwards environment place.space declaration with
      | .error flaw => .error (.declaration place flaw)
      | .ok forwards => do return forwards ++ (← allForwards environment rest)

/-- The least local port of more than one forward. -/
def contestedPort? (forwards : List Forward) : Option UInt16 :=
  let ports := forwards.map (·.localPort)
  (ports.filter fun port => 1 < ports.count port).min?

/-- The forwards of an environment. -/
def resolve (config : Config) (name : String) : Except ResolutionDefect (List Forward) :=
  match effective config name with
  | .error defect => .error (.environment defect)
  | .ok environment => do
      let forwards ← allForwards environment (placedDeclarations environment)
      if forwards.isEmpty then .error (.empty name)
      else
        match contestedPort? forwards with
        | some port =>
            .error (.conflict port
              ((forwards.filter (·.localPort == port)).map (Forward.label name)))
        | none => .ok forwards

end PortTunnel.Environment
