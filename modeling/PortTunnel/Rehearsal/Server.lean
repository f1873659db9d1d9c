import PortTunnel.Json.Value
import PortTunnel.Kubernetes.Dialogue
import PortTunnel.Kubernetes.StatusCode

/-!
# Rehearsed servers

In a rehearsal a server answers from a list.  What is not listed is not found,
but channels can be opened to everything.
-/

namespace PortTunnel.Rehearsal

open Kubernetes

/-- The answers of a server by path. -/
abbrev Server := List (String × Reply)

namespace Server

/-- What follows the last slash of a path. -/
def lastPart (path : String) : String :=
  String.ofList (path.toList.reverse.takeWhile (· != '/')).reverse

/-- What a server says about something that it does not find. -/
def notFound (path : String) : Json.Value :=
  .object
    [("code", .integer 404), ("message", .text (Json.Value.quote (lastPart path) ++ " not found")),
      ("reason", .text "NotFound"), ("status", .text "Failure")]

/-- Whether a path is listed. -/
def lists (server : Server) (path : String) : Bool :=
  server.any (·.1 == path)

/-- The answer to a request. -/
def reply (server : Server) (request : Request) : Reply :=
  match server.find? (·.1 == request.path) with
  | some entry => entry.2
  | none =>
      if lastPart request.path == "portforward" then .answered StatusCode.switching ""
      else .answered 404 (notFound request.path).compact

end Server

end PortTunnel.Rehearsal
