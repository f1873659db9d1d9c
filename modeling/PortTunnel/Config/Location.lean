/-!
# Where configurations are found

A configuration that is not named lies in the working directory or, failing
that, in the user's directory for configurations.
-/

namespace PortTunnel.Config

/-- The name of a configuration file. -/
def fileName : String := "kubeforward.yml"

/-- The directory of this program among the user's configurations. -/
def directory (userDirectory : String) : String :=
  userDirectory ++ "/kubeforward"

/-- The path of the configuration in the user's directory. -/
def sharedPath (userDirectory : String) : String :=
  directory userDirectory ++ "/" ++ fileName

/-- The path of the configuration that is used when none is named.  It is in the
working directory unless only the user's directory has one. -/
def defaultPath (isPresent : String → Bool) (userDirectory : Option String) : String :=
  match userDirectory.map sharedPath with
  | some shared => if !isPresent fileName && isPresent shared then shared else fileName
  | none => fileName

end PortTunnel.Config
