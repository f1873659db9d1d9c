import PortTunnel.Retry.Policy

/-!
# Terms of a supervised run

All forwards of a run retry by the same policy and have the same time to close.
-/

namespace PortTunnel.Supervisor

/-- The terms of a run. -/
structure Terms where
  retry : Retry.Policy := {}
  /-- How long forwards may take to close. -/
  grace : Span := .ofSeconds 5
  deriving DecidableEq

instance : Inhabited Terms := ⟨{}⟩

/-- The terms that settings ask for. -/
def Terms.ofSettings (settings : Config.Settings) : Terms where
  retry := settings.retry
  grace := settings.grace

/-- Terms written out. -/
def Terms.summary (terms : Terms) : String :=
  let limit :=
    match terms.retry.maxRetries with
    | some most => "Some(" ++ most.toNat.repr ++ ")"
    | none => "None"
  "SupervisorConfig \x7b retry: RetryConfig \x7b initial_delay: " ++ terms.retry.initialDelay.text
    ++ ", max_delay: " ++ terms.retry.maxDelay.text ++ ", max_retries: " ++ limit
    ++ " \x7d, shutdown_grace: " ++ terms.grace.text ++ " \x7d"

end PortTunnel.Supervisor
