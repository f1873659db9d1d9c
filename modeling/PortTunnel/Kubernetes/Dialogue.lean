/-!
# Dialogues with a server

A dialogue asks a server for things one after the other; each answer may decide
what is asked next.  It is kept as data, so that what is asked can be looked at
apart from who answers.
-/

namespace PortTunnel.Kubernetes

/-- A request to read something. -/
structure Request where
  path : String
  query : List (String × String) := []
  deriving DecidableEq, Repr

/-- What comes of a request. -/
inductive Reply where
  /-- A status code and a body. -/
  | answered (status : Nat) (body : String)
  /-- No answer. -/
  | lost (reason : String)
  deriving DecidableEq, Repr

/-- A dialogue that comes to an `α`. -/
inductive Dialogue (α : Type) where
  | done (outcome : α)
  | ask (request : Request) (next : Reply → Dialogue α)

namespace Dialogue

variable {α β γ : Type}

/-- Hold a dialogue with a server: what was asked for, and what it came to. -/
def run (server : Request → Reply) : Dialogue α → List Request × α
  | done outcome => ([], outcome)
  | ask request next =>
      let (requests, outcome) := run server (next (server request))
      (request :: requests, outcome)

/-- Go on with a second dialogue. -/
def bind : Dialogue α → (α → Dialogue β) → Dialogue β
  | done outcome, continuation => continuation outcome
  | ask request next, continuation => ask request fun reply => bind (next reply) continuation

instance : Monad Dialogue where
  pure := done
  bind := bind

@[simp]
theorem run_done (server : Request → Reply) (outcome : α) :
    (done outcome).run server = ([], outcome) :=
  rfl

@[simp]
theorem run_ask (server : Request → Reply) (request : Request) (next : Reply → Dialogue α) :
    (ask request next).run server =
      (request :: ((next (server request)).run server).1,
        ((next (server request)).run server).2) :=
  rfl

/-- The second dialogue is held with what the first one came to. -/
theorem run_bind (server : Request → Reply) (first : Dialogue α)
    (continuation : α → Dialogue β) :
    (first.bind continuation).run server =
      ((first.run server).1 ++ ((continuation (first.run server).2).run server).1,
        ((continuation (first.run server).2).run server).2) := by
  induction first with
  | done outcome => rfl
  | ask request next ih => simp [bind, ih]

/-- Nothing changes if nothing is asked and the outcome stays. -/
theorem bind_eq_self {continuation : α → Dialogue α}
    (stays : ∀ outcome, continuation outcome = done outcome) (dialogue : Dialogue α) :
    dialogue.bind continuation = dialogue := by
  induction dialogue with
  | done outcome => exact stays outcome
  | ask request next ih => simp only [bind, ih]

end Dialogue

end PortTunnel.Kubernetes
