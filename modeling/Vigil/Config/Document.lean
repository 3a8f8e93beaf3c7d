import Vigil.Config
import Vigil.Yaml.Record

/-!
The configuration as a YAML document: a section for each part of it. What a document leaves out
keeps its default: a section that is left out that of its part, and a field that is left out of its
section the one that is named for the field.
-/

namespace Vigil

open Yaml (Anchors)

variable (known : Anchors)

/-- A field that may be left out: what it holds replaces the default. -/
def Config.field {α σ : Type} (name : String) (read : Yaml → Read α) (set : α → σ → σ) :
    Field Yaml σ where
  name
  read v := set <$> read v
  optional := true

open Config (field)

def readUInt16 (v : Yaml) : Read UInt16 := UInt16.ofNat <$> Yaml.readNat known 16 v

def readUInt32 (v : Yaml) : Read UInt32 := UInt32.ofNat <$> Yaml.readNat known 32 v

def readUInt64 (v : Yaml) : Read UInt64 := UInt64.ofNat <$> Yaml.readNat known 64 v

namespace ServerConfig

def fields : List (Field Yaml ServerConfig) := [
  field "host" (Yaml.readString known) fun host c => { c with host },
  field "port" (readUInt16 known) fun port c => { c with port },
  field "shutdown_timeout" (readUInt64 known) fun shutdownTimeout c => { c with shutdownTimeout }]

/-- What the fields hold that a section leaves out. -/
def unwritten : ServerConfig where
  host := "0.0.0.0"
  port := 9301
  shutdownTimeout := 30

def ofYaml (v : Yaml) : Read ServerConfig :=
  Yaml.readRecord known "ServerConfig" (fields known) unwritten v

end ServerConfig

namespace PeerConfig

def fields : List (Field Yaml PeerConfig) := [
  { name := "id", read v := (Yaml.readString known v).map fun id p => { p with id } },
  { name := "address"
    read v := (Yaml.readString known v).map fun address p => { p with address } }]

def ofYaml (v : Yaml) : Read PeerConfig :=
  Yaml.readRecord known "PeerConfig" (fields known) ⟨"", ""⟩ v

end PeerConfig

namespace ClusterConfig

def fields : List (Field Yaml ClusterConfig) := [
  field "name" (Yaml.readString known) fun name c => { c with name },
  field "node_id" (Yaml.readString known) fun nodeId c => { c with nodeId },
  { field "leader_id" (Yaml.readOptional known (Yaml.readString known))
      fun leaderId c => { c with leaderId } with
    fault? := Yaml.falseNone? known },
  field "peers" (Yaml.readSequence known (PeerConfig.ofYaml known)) fun peers c => { c with peers },
  field "connect_timeout_ms" (readUInt64 known) fun connectTimeoutMs c =>
    { c with connectTimeoutMs },
  field "discovery_interval_ms" (readUInt64 known) fun discoveryIntervalMs c =>
    { c with discoveryIntervalMs }]

/-- What the fields hold that a section leaves out. -/
def unwritten : ClusterConfig where
  name := "leaderwatch"
  nodeId := "node-1"
  leaderId := none
  peers := []
  connectTimeoutMs := 5000
  discoveryIntervalMs := 5000

def ofYaml (v : Yaml) : Read ClusterConfig :=
  Yaml.readRecord known "ClusterConfig" (fields known) unwritten v

end ClusterConfig

namespace FaultDetectionConfig

def fields : List (Field Yaml FaultDetectionConfig) := [
  field "ping_interval_ms" (readUInt64 known) fun pingIntervalMs c => { c with pingIntervalMs },
  field "ping_timeout_ms" (readUInt64 known) fun pingTimeoutMs c => { c with pingTimeoutMs },
  field "ping_retries" (readUInt32 known) fun pingRetries c => { c with pingRetries },
  field "connect_on_network_disconnect" (Yaml.readBool known) fun connectOnNetworkDisconnect c =>
    { c with connectOnNetworkDisconnect },
  field "register_connection_listener" (Yaml.readBool known) fun registerConnectionListener c =>
    { c with registerConnectionListener }]

/-- What the fields hold that a section leaves out. -/
def unwritten : FaultDetectionConfig where
  pingIntervalMs := 1000
  pingTimeoutMs := 30000
  pingRetries := 3
  connectOnNetworkDisconnect := false
  registerConnectionListener := true

def ofYaml (v : Yaml) : Read FaultDetectionConfig :=
  Yaml.readRecord known "FaultDetectionConfig" (fields known) unwritten v

end FaultDetectionConfig

namespace LoggingConfig

def fields : List (Field Yaml LoggingConfig) := [
  field "level" (Yaml.readString known) fun level c => { c with level },
  field "format" (Yaml.readString known) fun format c => { c with format }]

/-- What the fields hold that a section leaves out. -/
def unwritten : LoggingConfig where
  level := "info"
  format := "text"

def ofYaml (v : Yaml) : Read LoggingConfig :=
  Yaml.readRecord known "LoggingConfig" (fields known) unwritten v

end LoggingConfig

namespace ObservabilityConfig

def fields : List (Field Yaml ObservabilityConfig) := [
  field "metrics" (Yaml.readBool known) fun metrics c => { c with metrics }]

/-- What the fields hold that a section leaves out. -/
def unwritten : ObservabilityConfig where
  metrics := true

def ofYaml (v : Yaml) : Read ObservabilityConfig :=
  Yaml.readRecord known "ObservabilityConfig" (fields known) unwritten v

end ObservabilityConfig

namespace Config

def fields : List (Field Yaml Config) := [
  field "server" (ServerConfig.ofYaml known) fun server c => { c with server },
  field "cluster" (ClusterConfig.ofYaml known) fun cluster c => { c with cluster },
  field "fault_detection" (FaultDetectionConfig.ofYaml known) fun faultDetection c =>
    { c with faultDetection },
  field "logging" (LoggingConfig.ofYaml known) fun logging c => { c with logging },
  field "observability" (ObservabilityConfig.ofYaml known) fun observability c =>
    { c with observability }]

def ofYaml (v : Yaml) : Read Config := Yaml.readRecord known "Config" (fields known) {} v

/-- Reads a configuration from the text of a document. -/
def ofText (s : String) : Read Config := Yaml.readText ofYaml s.toList

end Config

/-- Why a configuration can not be loaded from a file. -/
inductive LoadError where
  | missingFile
  | notText
  | document (cause : ReadError)
deriving DecidableEq, Repr

def LoadError.text : LoadError → String
  | missingFile => "No such file or directory (os error 2)"
  | notText => "stream did not contain valid UTF-8"
  | document cause => cause.text "unit value"

/-- Loads a configuration from what a file holds, if there is one. -/
def Config.load (file : Option ByteArray) : Except LoadError Config := do
  let some bytes := file | throw .missingFile
  let some text := String.fromUTF8? bytes | throw .notText
  (Config.ofText text).mapError .document

end Vigil
