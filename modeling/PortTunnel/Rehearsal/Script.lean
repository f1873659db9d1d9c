import PortTunnel.Failure
import PortTunnel.NameMap

/-!
# Scripts for clusters

In a rehearsal the cluster follows a script: for each resource it lists how the
calls for a channel turn out, one after the other, and then how all later ones
do.
-/

namespace PortTunnel.Rehearsal

/-- How a call for a channel turns out. -/
inductive Outcome where
  /-- A channel that says nothing by itself. -/
  | quiet
  /-- A channel that returns what is written to it. -/
  | echo
  /-- No answer, until the call is released. -/
  | hang
  | fail (failure : Failure)
  /-- An outcome after some milliseconds. -/
  | later (millis : Nat) (outcome : Outcome)
  deriving DecidableEq, Inhabited

/-- A script for a cluster. -/
structure Script where
  /-- The outcomes of the first calls for each resource. -/
  outcomes : NameMap (List Outcome) := .empty
  /-- The outcome of all other calls. -/
  fallback : Outcome := .hang
  /-- How the first attempts to establish a link fail, if they do. -/
  links : List (Option Failure) := []
  /-- How all later attempts to establish a link fail, if they do. -/
  linkFallback : Option Failure := none
  /-- Whether the cluster takes one call at a time. -/
  serializes : Bool := false

namespace Script

/-- The outcome of the next call for a resource, and the script for the rest. -/
def next (script : Script) (resource : String) : Outcome × Script :=
  match script.outcomes.get? resource with
  | some (outcome :: rest) =>
      (outcome, { script with outcomes := script.outcomes.insert resource rest })
  | _ => (script.fallback, script)

/-- How the next attempt to establish a link fails, if it does. -/
def nextLink (script : Script) : Option Failure × Script :=
  match script.links with
  | failure :: rest => (failure, { script with links := rest })
  | [] => (script.linkFallback, script)

end Script

end PortTunnel.Rehearsal
