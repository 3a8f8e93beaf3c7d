import Vigil.Proofs.Slots

/-!
A configuration is the defaults with what a document gives laid over them. What it gives is told by
the document alone: for each field the value of the only entry under its key, or nothing. So no
field that is given changes another one, and the defaults of a section that is left out are those of
the fields that are left out of it.
-/

namespace Vigil

open Vigil.Field (Separate names)
open Slot (Lawful)
open Yaml (Anchors IsText IsTruth IsNumber NamesLeader Only Gives Shaped GoesByKeys)

variable (known : Anchors)

/-! ### Configurations that documents give -/

@[mk_iff]
structure PeerConfig.In (entries : List (Yaml × Yaml)) (p : PeerConfig) : Prop where
  id : ∃ v, Only known "id" entries v ∧ IsText known v p.id
  address : ∃ v, Only known "address" entries v ∧ IsText known v p.address

def PeerConfig.Told (v : Yaml) (p : PeerConfig) : Prop :=
  ∃ entries, Shaped known ["id", "address"] v entries ∧ In known entries p

def PeerConfig.ListTold (v : Yaml) (peers : List PeerConfig) : Prop :=
  ∃ items, Yaml.Lists known v items ∧ List.Forall₂ (Told known) items peers

@[mk_iff]
structure ServerConfig.In (start : ServerConfig) (entries : List (Yaml × Yaml))
    (c : ServerConfig) : Prop where
  host : Gives known "host" (IsText known) start.host entries c.host
  port : Gives known "port" (fun v n => IsNumber known v n.toNat) start.port entries c.port
  shutdownTimeout : Gives known "shutdown_timeout" (fun v n => IsNumber known v n.toNat)
    start.shutdownTimeout entries c.shutdownTimeout

/-- Whether a part of a configuration is another one with what a node gives laid over it. -/
def ServerConfig.Overlaid (start : ServerConfig) (v : Yaml) (c : ServerConfig) : Prop :=
  ∃ entries, Shaped known ["host", "port", "shutdown_timeout"] v entries ∧
    In known start entries c

@[mk_iff]
structure ClusterConfig.In (start : ClusterConfig) (entries : List (Yaml × Yaml))
    (c : ClusterConfig) : Prop where
  name : Gives known "name" (IsText known) start.name entries c.name
  nodeId : Gives known "node_id" (IsText known) start.nodeId entries c.nodeId
  leaderId : Gives known "leader_id" (NamesLeader known) start.leaderId entries c.leaderId
  peers : Gives known "peers" (PeerConfig.ListTold known) start.peers entries c.peers
  connectTimeoutMs : Gives known "connect_timeout_ms" (fun v n => IsNumber known v n.toNat)
    start.connectTimeoutMs entries c.connectTimeoutMs
  discoveryIntervalMs : Gives known "discovery_interval_ms" (fun v n => IsNumber known v n.toNat)
    start.discoveryIntervalMs entries c.discoveryIntervalMs

@[inherit_doc ServerConfig.Overlaid]
def ClusterConfig.Overlaid (start : ClusterConfig) (v : Yaml) (c : ClusterConfig) : Prop :=
  ∃ entries, Shaped known ["name", "node_id", "leader_id", "peers", "connect_timeout_ms",
    "discovery_interval_ms"] v entries ∧ In known start entries c

@[mk_iff]
structure FaultDetectionConfig.In (start : FaultDetectionConfig) (entries : List (Yaml × Yaml))
    (c : FaultDetectionConfig) : Prop where
  pingIntervalMs : Gives known "ping_interval_ms" (fun v n => IsNumber known v n.toNat)
    start.pingIntervalMs entries c.pingIntervalMs
  pingTimeoutMs : Gives known "ping_timeout_ms" (fun v n => IsNumber known v n.toNat)
    start.pingTimeoutMs entries c.pingTimeoutMs
  pingRetries : Gives known "ping_retries" (fun v n => IsNumber known v n.toNat)
    start.pingRetries entries c.pingRetries
  connectOnNetworkDisconnect : Gives known "connect_on_network_disconnect" (IsTruth known)
    start.connectOnNetworkDisconnect entries c.connectOnNetworkDisconnect
  registerConnectionListener : Gives known "register_connection_listener" (IsTruth known)
    start.registerConnectionListener entries c.registerConnectionListener

@[inherit_doc ServerConfig.Overlaid]
def FaultDetectionConfig.Overlaid (start : FaultDetectionConfig) (v : Yaml)
    (c : FaultDetectionConfig) : Prop :=
  ∃ entries, Shaped known ["ping_interval_ms", "ping_timeout_ms", "ping_retries",
    "connect_on_network_disconnect", "register_connection_listener"] v entries ∧
    In known start entries c

@[mk_iff]
structure LoggingConfig.In (start : LoggingConfig) (entries : List (Yaml × Yaml))
    (c : LoggingConfig) : Prop where
  level : Gives known "level" (IsText known) start.level entries c.level
  format : Gives known "format" (IsText known) start.format entries c.format

@[inherit_doc ServerConfig.Overlaid]
def LoggingConfig.Overlaid (start : LoggingConfig) (v : Yaml) (c : LoggingConfig) : Prop :=
  ∃ entries, Shaped known ["level", "format"] v entries ∧ In known start entries c

@[mk_iff]
structure ObservabilityConfig.In (start : ObservabilityConfig) (entries : List (Yaml × Yaml))
    (c : ObservabilityConfig) : Prop where
  metrics : Gives known "metrics" (IsTruth known) start.metrics entries c.metrics

@[inherit_doc ServerConfig.Overlaid]
def ObservabilityConfig.Overlaid (start : ObservabilityConfig) (v : Yaml)
    (c : ObservabilityConfig) : Prop :=
  ∃ entries, Shaped known ["metrics"] v entries ∧ In known start entries c

namespace Config

@[mk_iff]
structure In (start : Config) (entries : List (Yaml × Yaml)) (c : Config) : Prop where
  server : Gives known "server" (ServerConfig.Overlaid known start.server) start.server entries
    c.server
  cluster : Gives known "cluster" (ClusterConfig.Overlaid known start.cluster) start.cluster entries
    c.cluster
  faultDetection : Gives known "fault_detection"
    (FaultDetectionConfig.Overlaid known start.faultDetection) start.faultDetection entries
    c.faultDetection
  logging : Gives known "logging" (LoggingConfig.Overlaid known start.logging) start.logging entries
    c.logging
  observability : Gives known "observability"
    (ObservabilityConfig.Overlaid known start.observability) start.observability entries
    c.observability

def sections : List String := ["server", "cluster", "fault_detection", "logging", "observability"]

@[inherit_doc ServerConfig.Overlaid]
def Overlaid (start : Config) (v : Yaml) (c : Config) : Prop :=
  ∃ entries, Shaped known sections v entries ∧ In known start entries c

end Config

/-! ### Sections -/

theorem readString_eq_some (v : Yaml) (s : String) :
    (Yaml.readString known v).toOption = some s ↔ IsText known v s :=
  Yaml.readTextAs_eq_some

namespace ServerConfig

def slots : List (Slot ServerConfig) := [
  .of "host" (readString_eq_some known) (fun host c => { c with host }) (·.host) fun _ _ => rfl,
  .of "port" (readUInt16_eq_some known) (fun port c => { c with port }) (·.port) fun _ _ => rfl,
  .of "shutdown_timeout" (readUInt64_eq_some known)
    (fun shutdownTimeout c => { c with shutdownTimeout }) (·.shutdownTimeout) fun _ _ => rfl]

theorem lawful : Lawful (slots known) where
  distinct := by simp [slots, Slot.of, Slot.fields, names, Config.field]
  apart := by simp [slots, Slot.of, Config.field]
  ext s t same := by cases s; cases t; simpa [slots, Slot.of] using same

theorem ofYaml_eq_some (v : Yaml) (c : ServerConfig) :
    (ofYaml known v).toOption = some c ↔ Overlaid known {} v c :=
  (lawful known).readRecord_eq_some known fun _ => by
    simp [slots, Slot.of, Config.field, in_iff, unwritten]

end ServerConfig

namespace PeerConfig

theorem separate : Separate (fields known) where
  distinct := by
    change ["id", "address"].Nodup
    decide
  parts := by
    simp only [fields, List.pairwise_cons, List.forall_mem_cons, List.not_mem_nil, false_implies,
      implies_true, List.Pairwise.nil, and_true]
    exact Field.apart_of_sets (fun _ => rfl) (fun _ => rfl) fun _ _ _ => rfl

theorem ofYaml_eq_some (v : Yaml) (p : PeerConfig) :
    (ofYaml known v).toOption = some p ↔ Told known v p := by
  rw [ofYaml, Yaml.readRecord_eq_some (separate known)]
  refine exists_congr fun entries => and_congr_right fun _ => ?_
  simp only [fields, place_cons, place_nil, Field.taken_required, Option.bind_map,
    Option.bind_eq_some_iff, Function.comp_apply, only?_eq_some, readString_eq_some,
    Yaml.under_eq_singleton_iff, Option.some.injEq, in_iff]
  constructor
  · rintro ⟨id, ⟨v, onlyId, isId⟩, address, ⟨w, onlyAddress, isAddress⟩, rfl⟩
    exact ⟨⟨v, onlyId, isId⟩, w, onlyAddress, isAddress⟩
  · rintro ⟨⟨v, onlyId, isId⟩, w, onlyAddress, isAddress⟩
    exact ⟨_, ⟨v, onlyId, isId⟩, _, ⟨w, onlyAddress, isAddress⟩, rfl⟩

theorem readItems_eq_some {i : Nat} {items : List Yaml} {peers : List PeerConfig} :
    (Yaml.readItems (ofYaml known) i items).toOption = some peers ↔
      List.Forall₂ (Told known) items peers := by
  induction items generalizing i peers with
  | nil => simp [Yaml.readItems, Except.toOption, eq_comm]
  | cons item items ih =>
    have read : (Yaml.readItems (ofYaml known) i (item :: items)).toOption =
        (ofYaml known item).toOption.bind fun p =>
          (Yaml.readItems (ofYaml known) (i + 1) items).toOption.map (p :: ·) := by
      rw [Yaml.readItems]
      cases ofYaml known item with
      | error e => rcases e with _ | ⟨_, _⟩ <;> rfl
      | ok p => cases Yaml.readItems (ofYaml known) (i + 1) items <;> rfl
    rw [read, List.forall₂_cons_left_iff]
    simp only [Option.bind_eq_some_iff, Option.map_eq_some_iff, ofYaml_eq_some, ih]
    constructor
    · rintro ⟨p, told, peers, others, rfl⟩
      exact ⟨p, peers, told, others, rfl⟩
    · rintro ⟨p, peers, told, others, rfl⟩
      exact ⟨p, told, peers, others, rfl⟩

theorem readList_eq_some (v : Yaml) (peers : List PeerConfig) :
    (Yaml.readSequence known (ofYaml known) v).toOption = some peers ↔
      ListTold known v peers := by
  simp only [ListTold, Yaml.lists_iff, Yaml.readSequence]
  cases Yaml.resolve known v with
  | sequence items closed =>
    have read : (do
        let as ← Yaml.readItems (ofYaml known) 0 items
        if closed then return as else Except.error ReadError.unreadable).toOption =
          if closed then (Yaml.readItems (ofYaml known) 0 items).toOption else none := by
      cases Yaml.readItems (ofYaml known) 0 items <;> cases closed <;> rfl
    refine (iff_of_eq (congrArg (· = some peers) read)).trans ?_
    cases closed <;> simp [Yaml.isOmitted, readItems_eq_some]
  | scalar text style tag =>
    dsimp only
    split
    · next omitted => simp [omitted, Except.toOption, eq_comm]
    · next given => simp [given, Yaml.mismatch_toOption]
  | absent => simp [Yaml.isOmitted, Except.toOption, eq_comm]
  | _ => simp [Yaml.isOmitted, Yaml.mismatch_toOption]

end PeerConfig

/-- Reads the leader that is named, if there is one. A text that only its tag calls nothing names
none. -/
def readLeader (v : Yaml) : Read (Option String) :=
  match Yaml.falseNone? known v with
  | some fault => Read.wrong fault
  | none => Yaml.readOptional known (Yaml.readString known) v

/-- The leader that a node names, where that is not an alias. -/
def leaderOf? : Yaml → Option (Option String)
  | .scalar text .plain none =>
    some (if text ∈ ["", "null", "Null", "NULL", "~"] then none else some text)
  | .scalar text .plain (some tag) =>
    if tag = "tag:yaml.org,2002:null" then
      if text ∈ ["null", "Null", "NULL", "~"] then some none else none
    else some (some text)
  | .scalar text _ _ => some (some text)
  | .absent => some none
  | _ => none

theorem readLeader_toOption (v : Yaml) :
    (readLeader known v).toOption = leaderOf? (Yaml.resolve known v) := by
  have nothing (text : String) :
      Yaml.isNothing text = true ↔ text ∈ ["null", "Null", "NULL", "~"] := by
    simp [Yaml.isNothing]
  rw [readLeader, Yaml.falseNone?, Yaml.readOptional, Yaml.isNone, Yaml.readString,
    Yaml.readTextAs]
  cases Yaml.resolve known v with
  | scalar text style tag =>
    cases style with
    | plain =>
      cases tag with
      | none =>
        have isNone : (decide (text = "") || Yaml.isNothing text) = true ↔
            text ∈ ["", "null", "Null", "NULL", "~"] := by
          simp only [Bool.or_eq_true, decide_eq_true_eq, nothing, List.mem_cons]
        simp only [leaderOf?, isNone]
        split <;> rfl
      | some tag =>
        have isTag : Yaml.coreTag "null" = "tag:yaml.org,2002:null" := by decide
        simp only [leaderOf?, isTag, ← nothing]
        by_cases named : tag = "tag:yaml.org,2002:null"
        · cases Yaml.isNothing text <;> simp [named, Read.wrong, Except.toOption]
        · simp [named, Except.toOption]
    | _ => rfl
  | absent => rfl
  | _ => rfl

theorem readLeader_eq_some (v : Yaml) (leader : Option String) :
    (readLeader known v).toOption = some leader ↔ NamesLeader known v leader := by
  rw [readLeader_toOption]
  simp only [NamesLeader, Yaml.stands_scalar, Yaml.stands_absent]
  cases Yaml.resolve known v with
  | scalar text style tag =>
    cases style with
    | plain =>
      cases tag with
      | none =>
        rw [leaderOf?]
        by_cases unnamed : text ∈ ["", "null", "Null", "NULL", "~"]
        · rw [if_pos unnamed]
          cases leader with
          | none => simpa using unnamed
          | some id =>
            refine iff_of_false (by simp) ?_
            rintro ⟨_, _, same, named⟩
            cases same
            exact (named rfl).2 rfl unnamed
        · rw [if_neg unnamed]
          cases leader with
          | none => simpa using unnamed
          | some id =>
            constructor
            · intro same
              cases same
              exact ⟨_, _, rfl, fun _ => ⟨by simp, fun _ => unnamed⟩⟩
            · rintro ⟨_, _, same, _⟩
              cases same
              rfl
      | some tag =>
        rw [leaderOf?]
        by_cases isNull : tag = "tag:yaml.org,2002:null"
        · subst isNull
          cases leader with
          | none =>
            by_cases unnamed : text ∈ ["null", "Null", "NULL", "~"]
            · rw [if_pos rfl, if_pos unnamed]
              simpa using unnamed
            · rw [if_pos rfl, if_neg unnamed]
              simpa using unnamed
          | some id => simp
        · cases leader <;> simp [isNull, eq_comm]
    | _ => cases leader <;> simp [leaderOf?, eq_comm]
  | _ => cases leader <;> simp [leaderOf?]

namespace ClusterConfig

def setLeader (leaderId : Option String) (c : ClusterConfig) : ClusterConfig := { c with leaderId }

theorem taken_leader (values : List Yaml) :
    Field.taken { Config.field "leader_id" (Yaml.readOptional known (Yaml.readString known))
        setLeader with fault? := Yaml.falseNone? known } values =
      (told? (readLeader known) values).map (put setLeader) := by
  match values with
  | [] => rfl
  | [v] =>
    change (if (Yaml.falseNone? known v).isNone then
      (setLeader <$> Yaml.readOptional known (Yaml.readString known) v).toOption else none) = _
    rw [told?, given?, readLeader, Option.map_map]
    cases Yaml.falseNone? known v with
    | some fault => rfl
    | none => cases Yaml.readOptional known (Yaml.readString known) v <;> rfl
  | _ :: _ :: _ => rfl

/-- The leader has a fault of its own. -/
def leaderSlot : Slot ClusterConfig where
  field := { Config.field "leader_id" (Yaml.readOptional known (Yaml.readString known))
      setLeader with
    fault? := Yaml.falseNone? known }
  Value := Option String
  read := readLeader known
  Spells := NamesLeader known
  set := setLeader
  get := (·.leaderId)
  spells := readLeader_eq_some known
  taken := taken_leader known
  sets _ _ := Slot.sets_of_map
  get_set _ _ := rfl

def slots : List (Slot ClusterConfig) := [
  .of "name" (readString_eq_some known) (fun name c => { c with name }) (·.name) fun _ _ => rfl,
  .of "node_id" (readString_eq_some known) (fun nodeId c => { c with nodeId }) (·.nodeId)
    fun _ _ => rfl,
  leaderSlot known,
  .of "peers" (PeerConfig.readList_eq_some known) (fun peers c => { c with peers }) (·.peers)
    fun _ _ => rfl,
  .of "connect_timeout_ms" (readUInt64_eq_some known)
    (fun connectTimeoutMs c => { c with connectTimeoutMs }) (·.connectTimeoutMs) fun _ _ => rfl,
  .of "discovery_interval_ms" (readUInt64_eq_some known)
    (fun discoveryIntervalMs c => { c with discoveryIntervalMs }) (·.discoveryIntervalMs)
    fun _ _ => rfl]

theorem lawful : Lawful (slots known) where
  distinct := by simp [slots, leaderSlot, Slot.of, Slot.fields, names, Config.field]
  apart := by simp [slots, leaderSlot, setLeader, Slot.of, Config.field]
  ext s t same := by cases s; cases t; simpa [slots, leaderSlot, Slot.of] using same

theorem ofYaml_eq_some (v : Yaml) (c : ClusterConfig) :
    (ofYaml known v).toOption = some c ↔ Overlaid known {} v c :=
  (lawful known).readRecord_eq_some known fun _ => by
    simp [slots, leaderSlot, Slot.of, Config.field, in_iff, unwritten]

end ClusterConfig

namespace FaultDetectionConfig

def slots : List (Slot FaultDetectionConfig) := [
  .of "ping_interval_ms" (readUInt64_eq_some known)
    (fun pingIntervalMs c => { c with pingIntervalMs }) (·.pingIntervalMs) fun _ _ => rfl,
  .of "ping_timeout_ms" (readUInt64_eq_some known)
    (fun pingTimeoutMs c => { c with pingTimeoutMs }) (·.pingTimeoutMs) fun _ _ => rfl,
  .of "ping_retries" (readUInt32_eq_some known)
    (fun pingRetries c => { c with pingRetries }) (·.pingRetries) fun _ _ => rfl,
  .of "connect_on_network_disconnect" (Yaml.readBool_eq_some known)
    (fun connectOnNetworkDisconnect c => { c with connectOnNetworkDisconnect })
    (·.connectOnNetworkDisconnect) fun _ _ => rfl,
  .of "register_connection_listener" (Yaml.readBool_eq_some known)
    (fun registerConnectionListener c => { c with registerConnectionListener })
    (·.registerConnectionListener) fun _ _ => rfl]

theorem lawful : Lawful (slots known) where
  distinct := by simp [slots, Slot.of, Slot.fields, names, Config.field]
  apart := by simp [slots, Slot.of, Config.field]
  ext s t same := by cases s; cases t; simpa [slots, Slot.of] using same

theorem ofYaml_eq_some (v : Yaml) (c : FaultDetectionConfig) :
    (ofYaml known v).toOption = some c ↔ Overlaid known {} v c :=
  (lawful known).readRecord_eq_some known fun _ => by
    simp [slots, Slot.of, Config.field, in_iff, unwritten]

end FaultDetectionConfig

namespace LoggingConfig

def slots : List (Slot LoggingConfig) := [
  .of "level" (readString_eq_some known) (fun level c => { c with level }) (·.level)
    fun _ _ => rfl,
  .of "format" (readString_eq_some known) (fun format c => { c with format }) (·.format)
    fun _ _ => rfl]

theorem lawful : Lawful (slots known) where
  distinct := by simp [slots, Slot.of, Slot.fields, names, Config.field]
  apart := by simp [slots, Slot.of, Config.field]
  ext s t same := by cases s; cases t; simpa [slots, Slot.of] using same

theorem ofYaml_eq_some (v : Yaml) (c : LoggingConfig) :
    (ofYaml known v).toOption = some c ↔ Overlaid known {} v c :=
  (lawful known).readRecord_eq_some known fun _ => by
    simp [slots, Slot.of, Config.field, in_iff, unwritten]

end LoggingConfig

namespace ObservabilityConfig

def slots : List (Slot ObservabilityConfig) := [
  .of "metrics" (Yaml.readBool_eq_some known) (fun metrics c => { c with metrics }) (·.metrics)
    fun _ _ => rfl]

theorem lawful : Lawful (slots known) where
  distinct := by simp [slots, Slot.of, Slot.fields, names, Config.field]
  apart := by simp [slots, Slot.of, Config.field]
  ext s t same := by cases s; cases t; simpa [slots, Slot.of] using same

theorem ofYaml_eq_some (v : Yaml) (c : ObservabilityConfig) :
    (ofYaml known v).toOption = some c ↔ Overlaid known {} v c :=
  (lawful known).readRecord_eq_some known fun _ => by
    simp [slots, Slot.of, Config.field, in_iff, unwritten]

end ObservabilityConfig

/-! ### Documents -/

namespace Config

def slots : List (Slot Config) := [
  .of "server" (ServerConfig.ofYaml_eq_some known)
    (fun server c => { c with server }) (·.server) fun _ _ => rfl,
  .of "cluster" (ClusterConfig.ofYaml_eq_some known)
    (fun cluster c => { c with cluster }) (·.cluster) fun _ _ => rfl,
  .of "fault_detection"
    (FaultDetectionConfig.ofYaml_eq_some known)
    (fun faultDetection c => { c with faultDetection }) (·.faultDetection) fun _ _ => rfl,
  .of "logging" (LoggingConfig.ofYaml_eq_some known)
    (fun logging c => { c with logging }) (·.logging) fun _ _ => rfl,
  .of "observability"
    (ObservabilityConfig.ofYaml_eq_some known)
    (fun observability c => { c with observability }) (·.observability) fun _ _ => rfl]

theorem lawful : Lawful (slots known) where
  distinct := by simp [slots, Slot.of, Slot.fields, names, Config.field]
  apart := by simp [slots, Slot.of, Config.field]
  ext s t same := by cases s; cases t; simpa [slots, Slot.of] using same

theorem ofYaml_eq_some (v : Yaml) (c : Config) :
    (ofYaml known v).toOption = some c ↔ Overlaid known {} v c :=
  (lawful known).readRecord_eq_some known fun _ => by simp [slots, Slot.of, Config.field, in_iff]

theorem fromUTF8?_eq_some {bytes : ByteArray} {text : String} :
    String.fromUTF8? bytes = some text ↔ bytes = text.toUTF8 := by
  constructor
  · intro read
    rw [String.fromUTF8?] at read
    split at read
    · cases read
      rfl
    · cases read
  · rintro rfl
    exact dif_pos text.isValidUTF8

theorem ofText_eq_ok {text : String} {c : Config} :
    ofText text = .ok c ↔ ∃ root, Yaml.parse text.toList = ⟨root, true⟩ ∧
      Overlaid root.anchors.reverse {} root c := by
  simp only [ofText, Yaml.readText, ← ofYaml_eq_some, ← Read.eq_ok_iff]
  generalize Yaml.parse text.toList = document
  obtain ⟨root, alone⟩ := document
  dsimp only
  constructor
  · intro read
    split at read
    · cases read
    · next found =>
      split at read
      · next whole =>
        cases read
        exact ⟨root, by rw [whole], found⟩
      · cases read
  · rintro ⟨_, same, found⟩
    cases same
    rw [found]
    rfl

/-- A section without fields is read as what stands in place of one that is left out. -/
theorem sections_plain {v : Yaml} (empty : Yaml.Holds known v []) :
    ∀ slot ∈ slots known, ∀ a, slot.Spells v a ↔ a = slot.get {} := by
  have plain {α : Type} {read : Yaml → Read α} {Spells : Yaml → α → Prop} {start : α}
      (spells : ∀ v a, (read v).toOption = some a ↔ Spells v a)
      (reads : (read v).toOption = some start) (a : α) : Spells v a ↔ a = start := by
    rw [← spells, reads, Option.some.injEq, eq_comm]
  simp only [slots, List.forall_mem_cons, List.not_mem_nil, false_implies, implies_true, and_true]
  exact ⟨plain (ServerConfig.ofYaml_eq_some known)
      ((ServerConfig.lawful known).readRecord_empty empty),
    plain (ClusterConfig.ofYaml_eq_some known)
      ((ClusterConfig.lawful known).readRecord_empty empty),
    plain (FaultDetectionConfig.ofYaml_eq_some known)
      ((FaultDetectionConfig.lawful known).readRecord_empty empty),
    plain (LoggingConfig.ofYaml_eq_some known)
      ((LoggingConfig.lawful known).readRecord_empty empty),
    plain (ObservabilityConfig.ofYaml_eq_some known)
      ((ObservabilityConfig.lawful known).readRecord_empty empty)⟩

/-- A file is loaded as the defaults with what its document gives laid over them. It does not matter
in which order it gives it, what stands under other keys, and whether a section without fields is
there. -/
theorem load_overlays :
    (∀ (bytes : ByteArray) (c : Config), load (some bytes) = .ok c ↔
      ∃ (text : String) (root : Yaml), bytes = text.toUTF8 ∧
        Yaml.parse text.toList = ⟨root, true⟩ ∧ Overlaid root.anchors.reverse {} root c) ∧
    (∀ known : Anchors,
      GoesByKeys known ["server", "cluster", "fault_detection", "logging", "observability"]
        (ofYaml known) ∧
      GoesByKeys known ["host", "port", "shutdown_timeout"] (ServerConfig.ofYaml known) ∧
      GoesByKeys known ["name", "node_id", "leader_id", "peers", "connect_timeout_ms",
        "discovery_interval_ms"] (ClusterConfig.ofYaml known) ∧
      GoesByKeys known ["ping_interval_ms", "ping_timeout_ms", "ping_retries",
        "connect_on_network_disconnect", "register_connection_listener"]
        (FaultDetectionConfig.ofYaml known) ∧
      GoesByKeys known ["level", "format"] (LoggingConfig.ofYaml known) ∧
      GoesByKeys known ["metrics"] (ObservabilityConfig.ofYaml known)) ∧
    (∀ (known : Anchors) (name : String) (k v : Yaml) (entries : List (Yaml × Yaml)),
      name ∈ ["server", "cluster", "fault_detection", "logging", "observability"] →
      IsText known k name → Yaml.Holds known v [] → (∀ e ∈ entries, ¬IsText known e.1 name) →
      (ofYaml known (.mapping ((k, v) :: entries) true)).toOption =
        (ofYaml known (.mapping entries true)).toOption) := by
  refine ⟨fun bytes c => ?_, fun known => ?_, fun known name k v entries isSection isKey empty
    missing => ?_⟩
  · simp only [exists_and_left, ← ofText_eq_ok, ← fromUTF8?_eq_some]
    rw [load]
    cases String.fromUTF8? bytes with
    | none => simp [throw, throwThe, MonadExceptOf.throw]
    | some text =>
      change (ofText text).mapError LoadError.document = .ok c ↔ _
      cases read : ofText text <;> simp [Except.mapError, read]
  · exact ⟨Yaml.readRecord_goesByKeys known (lawful known).separate _ _,
      Yaml.readRecord_goesByKeys known (ServerConfig.lawful known).separate _ _,
      Yaml.readRecord_goesByKeys known (ClusterConfig.lawful known).separate _ _,
      Yaml.readRecord_goesByKeys known (FaultDetectionConfig.lawful known).separate _ _,
      Yaml.readRecord_goesByKeys known (LoggingConfig.lawful known).separate _ _,
      Yaml.readRecord_goesByKeys known (ObservabilityConfig.lawful known).separate _ _⟩
  · exact (lawful known).readRecord_cons isSection isKey missing (sections_plain known empty)

/-- A number is written in another radix, an alias names the leader, one key is none of its section,
and a section without fields follows or does not. -/
theorem file_loaded :
    let file := "server:\n  port: 0x1F90\n  color: red\n" ++
      "cluster:\n  peers:\n  - id: &x a\n    address: 'http://a'\n  leader_id: *x\n" ++
      "fault_detection:\n  ping_retries: 5\n"
    let c : Config := {
      server := { port := 8080 }
      cluster := { leaderId := some "a", peers := [⟨"a", "http://a"⟩] }
      faultDetection := { pingRetries := 5 } }
    load (some file.toUTF8) = .ok c ∧
      load (some (file ++ "logging: \x7b\x7d\n").toUTF8) = .ok c := by
  intro file c
  let plain (s : String) : Yaml := .scalar s .plain none
  let entries : List (Yaml × Yaml) := [
    (plain "server",
      .mapping [(plain "port", plain "0x1F90"), (plain "color", plain "red")] true),
    (plain "cluster", .mapping [
      (plain "peers", .sequence [.mapping [(plain "id", .anchored 0 (plain "a")),
        (plain "address", .scalar "http://a" .singleQuoted none)] true] true),
      (plain "leader_id", .repeated 0)] true),
    (plain "fault_detection", .mapping [(plain "ping_retries", plain "5")] true)]
  let logging : Yaml × Yaml := (plain "logging", .mapping [] true)
  let known : Anchors := [(0, plain "a")]
  have parsed : Yaml.parse file.toList = ⟨.mapping entries true, true⟩ ∧
      Yaml.parse (file ++ "logging: \x7b\x7d\n").toList =
        ⟨.mapping (entries ++ [logging]) true, true⟩ := by
    let word (s : String) := Yaml.Token.scalar s .plain
    let sections : List Yaml.Token := [.key, word "server", .value, .blockMappingStart, .key,
      word "port", .value, word "0x1F90", .key, word "color", .value, word "red", .blockEnd, .key,
      word "cluster", .value, .blockMappingStart, .key, word "peers", .value, .blockEntry,
      .blockMappingStart, .key, word "id", .value, .anchor "x", word "a", .key, word "address",
      .value, .scalar "http://a" .singleQuoted, .blockEnd, .key, word "leader_id", .value,
      .repeated "x", .blockEnd, .key, word "fault_detection", .value, .blockMappingStart, .key,
      word "ping_retries", .value, word "5", .blockEnd]
    have tokens : Yaml.tokens file.toList =
        .blockMappingStart :: sections ++ [.blockEnd, .streamEnd] := by
      decide +kernel
    have tokens' : Yaml.tokens (file ++ "logging: \x7b\x7d\n").toList =
        .blockMappingStart :: sections ++ [.key, word "logging", .value, .flowMappingStart,
          .flowMappingEnd, .blockEnd, .streamEnd] := by
      decide +kernel
    rw [Yaml.parse, tokens, Yaml.parse, tokens']
    exact ⟨rfl, rfl⟩
  have number {s : String} {n : Nat} (written : Yaml.whole? s.toList = some ⟨false, n⟩) :
      IsNumber known (plain s) n :=
    ⟨_, _, _, .scalar s .plain none, .inl rfl, Yaml.whole?_eq_some.mp written⟩
  have peer : PeerConfig.Told known (.mapping [(plain "id", .anchored 0 (plain "a")),
      (plain "address", .scalar "http://a" .singleQuoted none)] true) ⟨"a", "http://a"⟩ :=
    ⟨_, Yaml.shaped_of_legible rfl, {
      id := ⟨_, Yaml.under_eq_singleton_iff.mp rfl, _, _, .anchored 0 (plain "a")⟩
      address := ⟨_, Yaml.under_eq_singleton_iff.mp rfl, _, _,
        .scalar "http://a" .singleQuoted none⟩ }⟩
  have given : In known {} entries c := {
    server := Yaml.gives_of_single rfl ⟨_, Yaml.shaped_of_legible rfl, {
      host := Yaml.gives_of_missing rfl
      port := Yaml.gives_of_single rfl (number (by decide))
      shutdownTimeout := Yaml.gives_of_missing rfl }⟩
    cluster := Yaml.gives_of_single rfl ⟨_, Yaml.shaped_of_legible rfl, {
      name := Yaml.gives_of_missing rfl
      nodeId := Yaml.gives_of_missing rfl
      leaderId := Yaml.gives_of_single rfl ⟨_, _, Yaml.stands_scalar.mpr rfl,
        fun _ => ⟨by simp, fun _ => by simp⟩⟩
      peers := Yaml.gives_of_single rfl ⟨_, .inl (.sequence _ _), .cons peer .nil⟩
      connectTimeoutMs := Yaml.gives_of_missing rfl
      discoveryIntervalMs := Yaml.gives_of_missing rfl }⟩
    faultDetection := Yaml.gives_of_single rfl ⟨_, Yaml.shaped_of_legible rfl, {
      pingIntervalMs := Yaml.gives_of_missing rfl
      pingTimeoutMs := Yaml.gives_of_missing rfl
      pingRetries := Yaml.gives_of_single rfl (number (by decide))
      connectOnNetworkDisconnect := Yaml.gives_of_missing rfl
      registerConnectionListener := Yaml.gives_of_missing rfl }⟩
    logging := Yaml.gives_of_missing rfl
    observability := Yaml.gives_of_missing rfl }
  have overlaid : Overlaid known {} (.mapping entries true) c :=
    ⟨entries, Yaml.shaped_of_legible rfl, given⟩
  have followed : Overlaid known {} (.mapping (entries ++ [logging]) true) c := by
    obtain ⟨_, each, plainly⟩ := load_overlays
    have moved := (each known).1.order _ _ (List.perm_append_singleton logging entries)
    have missing : ∀ e ∈ entries, ¬IsText known e.1 "logging" := Yaml.under_eq_nil_iff.mp rfl
    have dropped := plainly known "logging" (plain "logging") (.mapping [] true) entries (by decide)
      ⟨_, _, .scalar "logging" .plain none⟩ (.inl (.mapping [] true)) missing
    rw [← ofYaml_eq_some, moved, dropped, ofYaml_eq_some]
    exact overlaid
  exact ⟨(load_overlays.1 _ _).mpr ⟨_, _, rfl, parsed.1, overlaid⟩,
    (load_overlays.1 _ _).mpr ⟨_, _, rfl, parsed.2, followed⟩⟩

end Config

end Vigil
