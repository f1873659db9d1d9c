import PortTunnel.Program

/-!
# The command line program

It reads the files that the program looks at, works out how the program ends and
prints that.  Runs whose clusters could be reached are refused, since no
connections to clusters are opened here.
-/

namespace PortTunnel.Main

/-- What is found at a path. -/
def findFile (path : String) : IO File := do
  try
    return .bytes (← IO.FS.readBinFile path)
  catch
    | .noFileOrDirectory .. => return .absent
    | _ => return .directory

/-- What the program finds around it, given the files that are known. -/
def survey (files : List (String × File)) : IO Program.Surroundings := do
  let home ← IO.getEnv "HOME"
  let userDirectory ← IO.getEnv "XDG_CONFIG_HOME"
  return {
    files := fun path => (files.lookup path).getD .absent
    userDirectory := userDirectory.or (home.map (· ++ "/.config"))
    home := home
    config := ← IO.getEnv CommandLine.configVariable
    kubeconfig := ← IO.getEnv "KUBECONFIG" }

/-- Read the files that the program looks at: the configuration tells which files
describe clusters, and those tell which other files belong to them. -/
def gather (words : List String) : Nat → List (String × File) → IO (List (String × File))
  | 0, files => return files
  | rounds + 1, files => do
      let paths := Program.consulted (← survey files) words
      let found ← (paths.filter fun path => (files.lookup path).isNone).mapM fun path => do
        return (path, ← findFile path)
      gather words rounds (files ++ found)

/-- The ending of a run that would need a connection. -/
def refusal : Program.Ending where
  exitCode := 1
  errors := "Error: built without Kubernetes support, enable the kube-client feature\n"

end PortTunnel.Main

/-- Run the program. -/
def main (words : List String) : IO UInt32 := do
  let files ← PortTunnel.Main.gather words 3 []
  let ending? := PortTunnel.Program.ending? (← PortTunnel.Main.survey files) words
  let ending := ending?.getD PortTunnel.Main.refusal
  IO.print ending.output
  IO.eprint ending.errors
  return UInt32.ofNat ending.exitCode
