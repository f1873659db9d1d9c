import PortTunnel.Environment.Lineage
import PortTunnel.Text.Blank

/-!
# Effective environments

What an environment does not set itself comes from its lineage: of each field of
the target the nearest setting counts, and the defaults of the configuration
come last.  The namespaces are not merged; they are those of the nearest member
of the lineage that has any.
-/

namespace PortTunnel.Environment

open Config

/-- An environment with all that it inherits. -/
structure Effective where
  name : String
  context : String
  kubeconfig : Option String
  bindAddress : Octets
  namespaces : NameMap (List Declaration)
  deriving DecidableEq

/-- Why an environment is not effective. -/
inductive Defect where
  | lineage (defect : LineageDefect)
  /-- The context is set nowhere, or it is blank. -/
  | noContext (name : String)
  deriving DecidableEq, Repr

/-- What a defect is called. -/
def Defect.failure : Defect → Failure
  | lineage defect => defect.failure
  | noContext name =>
      .invalidDeclaration ("environments." ++ name ++ ".context")
        "no kubeconfig context set (here, in an extended environment or in defaults)"

/-- The target of a lineage: nearer settings over farther ones, over the defaults. -/
def layered (defaults : Target) (members : List Member) : Target :=
  members.foldr (fun member lower => lower.merged member.2.target) defaults

/-- The namespaces of a lineage: those of the nearest member that has any. -/
def nearestNamespaces (members : List Member) : NameMap (List Declaration) :=
  ((members.map fun member => member.2.namespaces).find? fun namespaces =>
    !namespaces.isEmpty).getD .empty

/-- An environment with all that it inherits. -/
def effective (config : Config) (name : String) : Except Defect Effective :=
  match lineage config.environments name with
  | .error defect => .error (.lineage defect)
  | .ok members =>
      let target := layered config.defaults members
      match target.context with
      | none => .error (.noContext name)
      | some context =>
          if Text.blank context then .error (.noContext name)
          else
            .ok
              { name := name
                context := context
                kubeconfig := target.kubeconfig
                bindAddress := target.bindAddress.getD .loopback
                namespaces := nearestNamespaces members }

end PortTunnel.Environment
