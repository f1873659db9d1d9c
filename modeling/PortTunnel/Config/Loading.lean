import PortTunnel.Config.Layout
import PortTunnel.File
import PortTunnel.Json.Reader

/-!
# Loading configurations

A file is JSON when its name says so, and YAML otherwise.  It is read twice:
first for its version alone, passing over all else, so that a file of a newer
format is called that whatever else it holds; then in full.
-/

namespace PortTunnel.Config

open Schema

/-- The formats of configuration files. -/
inductive Format where
  | yaml
  | json
  deriving DecidableEq, Repr

/-- The format of the file at a path. -/
def Format.ofPath (path : String) : Format :=
  match File.extension? path with
  | some extension =>
      if extension.toList.map Char.toLower == "json".toList then .json else .yaml
  | none => .yaml

/-- Why a configuration was not loaded. -/
inductive LoadError where
  | notFound (path : String)
  | unreadable (cause : File.Unreadable)
  /-- The text is not one YAML document. -/
  | yamlFault
  | yamlProblem (path : Path) (problem : Problem)
  /-- The text is not one JSON document. -/
  | jsonFault (fault : Json.Fault)
  | jsonProblem (problem : Problem)
  /-- The file is of a format that is not understood yet. -/
  | newerVersion (found : UInt32)
  deriving DecidableEq, Repr

/-- What a failure is about. -/
def LoadError.message : LoadError → String
  | .notFound path => "Config file not found: " ++ path
  | .unreadable cause => "IO error: " ++ cause.message
  | .yamlFault => "YAML error: <syntax>"
  | .yamlProblem path problem => "YAML error: " ++ path.locate (problem.message .yaml)
  | .jsonFault .malformed => "JSON error: <syntax>"
  | .jsonFault .truncated => "JSON error: <eof>"
  | .jsonProblem problem => "JSON error: " ++ problem.message .json
  | .newerVersion found =>
      "Config version " ++ found.toNat.repr ++ " is newer than supported "
        ++ newestVersion.toNat.repr

/-- Read a text that is one YAML document. -/
def ofYaml {α : Type} (reader : Reader α) (text : String) : Except LoadError α :=
  let (document, another) := Yaml.Document.ofText text
  match reader.yaml document [] ⟨0, 0⟩ with
  | .error (.fault _) => .error .yamlFault
  | .error (.problem problem path) => .error (.yamlProblem (path.getD []) problem)
  | .ok (value, _) =>
      if document.fault.isSome || another then .error .yamlFault else .ok value

/-- Read a text that is one JSON document. -/
def ofJson {α : Type} (reader : Reader α) (text : String) : Except LoadError α :=
  let (draft, trailing) := Json.Draft.ofText text
  match reader.json .document draft with
  | .error (.fault fault) => .error (.jsonFault fault)
  | .error (.problem problem) => .error (.jsonProblem problem)
  | .ok value => if trailing then .error (.jsonFault .malformed) else .ok value

/-- Read a text in one of the formats. -/
def decode {α : Type} (format : Format) (reader : Reader α) (text : String) :
    Except LoadError α :=
  match format with
  | .yaml => ofYaml reader text
  | .json => ofJson reader text

/-- The configuration that a text describes. -/
def ofText (format : Format) (text : String) : Except LoadError Config := do
  let version ← decode format versionRecord.reader text
  if newestVersion < version then .error (.newerVersion version)
  else decode format record.reader text

/-- Load the configuration at a path. -/
def load (path : String) (file : File) : Except LoadError Config :=
  match file.text? with
  | .error .absent => .error (.notFound path)
  | .error cause => .error (.unreadable cause)
  | .ok text => ofText (.ofPath path) text

end PortTunnel.Config
