import PortTunnel.Address.Text
import PortTunnel.Config.Basic
import PortTunnel.Schema.Record

/-!
# The layout of configuration files

Each type that a configuration is made of is a record, described once and read
from YAML and JSON alike.  All of them are strict: a misspelt name is an error
and not a setting that is silently ignored.
-/

namespace PortTunnel.Config

open Schema

/-- A number of 32 bits. -/
def word32 : Reader UInt32 :=
  (Reader.unsigned 32 "u32").map UInt32.ofNat

/-- A number of 64 bits. -/
def word64 : Reader UInt64 :=
  (Reader.unsigned 64 "u64").map UInt64.ofNat

/-- A whole number of 64 bits with a sign. -/
def signed64 : Reader Int64 :=
  (Reader.signed "i64").map Int64.ofInt

/-- The path of a file. -/
def path : Reader String :=
  Reader.text "path string"

/-- An address of version four. -/
def octets : Reader Octets :=
  Reader.formed "IPv4 address" (.badAddress "IPv4")
    fun content => Address.ofOctetText? content.toList

/-- Settings are read over the default ones. -/
def Settings.record : Record Settings where
  title := "struct EngineSettings"
  blank := {}
  fields :=
    [.of "initialDelayMs" false word64 fun value settings =>
        { settings with initialDelayMs := value },
      .of "maxDelayMs" false word64 fun value settings =>
        { settings with maxDelayMs := value },
      .of "maxRetries" false word32.optional fun value settings =>
        { settings with maxRetries := value },
      .of "shutdownGraceMs" false word64 fun value settings =>
        { settings with shutdownGraceMs := value }]
  strict := true

/-- A target without fields sets nothing. -/
def Target.record : Record Target where
  title := "struct TargetDefaults"
  blank := {}
  fields :=
    [.of "kubeconfig" false path.optional fun value target => { target with kubeconfig := value },
      .of "context" false string.optional fun value target => { target with context := value },
      .of "bindAddress" false octets.optional fun value target =>
        { target with bindAddress := value }]
  strict := true

/-- A port pair needs both of its ports. -/
def PortPair.record : Record PortPair where
  title := "struct PortConfig"
  blank := { localPort := 0, remotePort := 0 }
  fields :=
    [.of "localPort" true signed64 fun value pair => { pair with localPort := value },
      .of "remotePort" true signed64 fun value pair => { pair with remotePort := value },
      .of "bindAddress" false octets.optional fun value pair =>
        { pair with bindAddress := value }]
  strict := true

/-- A declaration needs a kind and a name. -/
def Declaration.record : Record Declaration where
  title := "struct ForwardConfig"
  blank := { kind := "", name := "" }
  fields :=
    [.of "kind" true string fun value declaration => { declaration with kind := value },
      .of "name" true string fun value declaration => { declaration with name := value },
      .of "container" false string.optional fun value declaration =>
        { declaration with container := value },
      .of "ports" false PortPair.record.reader.list fun value declaration =>
        { declaration with ports := value }]
  strict := true

/-- A namespace is a list of declarations under one name. -/
def namespaceRecord : Record (List Declaration) where
  title := "struct NamespaceConfig"
  blank := []
  fields := [.of "forwards" false Declaration.record.reader.list fun value _ => value]
  strict := true

/-- An environment keeps its target beside the other fields. -/
def Environment.record : Record Environment where
  title := "struct EnvironmentConfig"
  blank := {}
  fields :=
    [.of "extends" false string.optional fun value environment =>
        { environment with parent := value },
      .of "description" false string.optional fun value environment =>
        { environment with description := value },
      .of "kubeconfig" false path.optional fun value environment =>
        { environment with target := { environment.target with kubeconfig := value } },
      .of "context" false string.optional fun value environment =>
        { environment with target := { environment.target with context := value } },
      .of "bindAddress" false octets.optional fun value environment =>
        { environment with target := { environment.target with bindAddress := value } },
      .of "namespaces" false namespaceRecord.reader.keyed fun value environment =>
        { environment with namespaces := value }]
  strict := true

/-- A whole file. -/
def record : Record Config where
  title := "struct ConfigFile"
  blank := {}
  fields :=
    [.of "version" false word32 fun value config => { config with version := value },
      .of "settings" false Settings.record.reader fun value config =>
        { config with settings := value },
      .of "defaults" false Target.record.reader fun value config =>
        { config with defaults := value },
      .of "environments" false Environment.record.reader.keyed fun value config =>
        { config with environments := value }]
  strict := true

/-- The version of a file, whatever else it holds. -/
def versionRecord : Record UInt32 where
  title := "struct VersionProbe"
  blank := 0
  fields := [.of "version" false word32 fun value _ => value]
  strict := false

end PortTunnel.Config
