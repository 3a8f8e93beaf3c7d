import Vigil.Proofs.Reading
import Vigil.Proofs.Rendering
import Vigil.Wire

/-!
Which objects are read as messages. Each key of a message has to be there once, with a value of its
kind; the order of the keys, the members under other keys and the way in which the object is written
have no part in what is read.
-/

namespace Vigil

open Vigil.Field (Separate names)

namespace Json

/-- What an object holds under a key, in the order of its members. -/
def held (key : String) (members : List (String × Json)) : List Json :=
  (members.filter (·.1 = key)).map (·.2)

theorem held_cons (key : String) (m : String × Json) (rest : List (String × Json)) :
    held key (m :: rest) = if m.1 = key then m.2 :: held key rest else held key rest := by
  by_cases same : m.1 = key <;> simp [held, same]

theorem exists_of_mem_held {key : String} {members : List (String × Json)} {v : Json}
    (mem : v ∈ held key members) : ∃ m ∈ members, m.2 = v := by
  obtain ⟨m, mem, same⟩ := List.mem_map.mp mem
  exact ⟨m, (List.mem_filter.mp mem).1, same⟩

/-- A key keeps its values when another key is taken out. -/
theorem held_filter {key key' : String} (other : key ≠ key') (members : List (String × Json)) :
    held key (members.filter (·.1 ≠ key')) = held key members := by
  rw [held, List.filter_filter]
  refine congrArg _ (List.filter_congr fun m _ => ?_)
  by_cases same : m.1 = key <;> simp [same, other]

theorem mismatch_toOption {α : Type} (v : Json) (expected : String) :
    (v.mismatch expected : Read α).toOption = none := by
  rw [mismatch]
  cases v.found? <;> rfl

theorem readString_eq_some {v : Json} {s : String} :
    v.readString.toOption = some s ↔ v = text s := by
  cases v with
  | string value =>
    cases value with
    | some t => simp [readString, Except.toOption, text]
    | none => simp [readString, mismatch_toOption, text]
  | _ => simp [readString, mismatch_toOption, text]

theorem isWhole_of_isReadable {depth : Nat} {v : Json} (readable : v.isReadable depth = true) :
    v.isWhole = true := by
  cases v <;> cases depth <;> simp_all [isReadable, isWhole]

theorem membersReadable_record (depth : Nat) (members : List (String × Json)) :
    membersReadable depth (members.map fun (key, value) => (some key, value)) =
      members.all (·.2.isReadable depth) := by
  induction members with
  | nil => rfl
  | cons m members ih =>
    rw [List.map_cons, membersReadable, ih]
    rfl

theorem record_injective : Function.Injective record := by
  intro members members' same
  have pairs := (Json.object.inj same).1
  refine List.map_injective_iff.mpr ?_ pairs
  rintro ⟨key, v⟩ ⟨key', v'⟩ same
  cases same
  rfl

theorem members_readable {depth : Nat} {members : List (String × Json)}
    (readable : (record members).isReadable depth = true) :
    ∀ m ∈ members, m.2.isReadable (depth - 1) = true := by
  cases depth with
  | zero => simp [record, isReadable] at readable
  | succ depth =>
    rw [record, isReadable, membersReadable_record, Bool.and_true, List.all_eq_true] at readable
    exact readable

/-- An object that can be read is a record. -/
theorem exists_record {depth : Nat} {members : List (Option String × Json)} {closed : Bool}
    (readable : (object members closed).isReadable depth = true) :
    ∃ named : List (String × Json), object members closed = record named := by
  cases depth with
  | zero => simp [isReadable] at readable
  | succ depth =>
    rw [isReadable, Bool.and_eq_true] at readable
    obtain ⟨readable, rfl⟩ := readable
    suffices ∃ named : List (String × Json), members = named.map fun (key, v) => (some key, v) by
      obtain ⟨named, rfl⟩ := this
      exact ⟨named, rfl⟩
    induction members with
    | nil => exact ⟨[], rfl⟩
    | cons m members ih =>
      obtain ⟨key, v⟩ := m
      rw [membersReadable, Bool.and_eq_true, Bool.and_eq_true] at readable
      obtain ⟨⟨hasKey, -⟩, others⟩ := readable
      obtain ⟨key, rfl⟩ := Option.isSome_iff_exists.mp hasKey
      obtain ⟨named, rfl⟩ := ih others
      exact ⟨(key, v) :: named, rfl⟩

theorem under_member (key : String) (members : List (String × Json)) :
    under key ((members.map fun (key, value) => (some key, value)).map member) =
      held key members := by
  induction members with
  | nil => rfl
  | cons m members ih =>
    rw [List.map_cons, List.map_cons, under_cons_of_ok _ _ _ rfl, ih, held_cons]
    rfl

section

variable {σ : Type} {fields : List (Field σ)}

theorem readRecord_record (separate : Separate fields) {members : List (String × Json)}
    (whole : ∀ m ∈ members, m.2.isWhole = true) (name : String) (start : σ) :
    (readRecord name fields start (record members)).toOption =
      place (fun f => f.taken (held f.name members)) fields start := by
  change (readFields isWhole fields _ true start).toOption = _
  rw [readFields_eq isWhole separate, if_pos]
  · simp only [under_member]
  · simp only [Bool.true_and, List.all_eq_true, List.map_map, List.forall_mem_map]
    intro m mem
    change (_ || m.2.isWhole) = true
    rw [whole m mem, Bool.or_true]

theorem readItems_nil_eq_some {short : Nat → ShapeError} {i : Nat} {items : List Json} {s r : σ} :
    (readItems short true i [] items s).toOption = some r ↔ items = [] ∧ s = r := by
  cases items <;> simp [readItems, Except.toOption]

theorem readItems_cons_eq_some {α : Type} {short : Nat → ShapeError} {i : Nat} {name : String}
    {read : Json → Read α} {set : α → σ → σ} {fields : List (Field σ)} {items : List Json}
    {s r : σ} :
    (readItems short true i ({ name, read v := (read v).map set } :: fields) items s).toOption =
        some r ↔
      ∃ item rest a, items = item :: rest ∧ (read item).toOption = some a ∧
        (readItems short true (i + 1) fields rest (set a s)).toOption = some r := by
  cases items with
  | nil => simp [readItems, Read.wrong_toOption]
  | cons item rest =>
    rw [readItems]
    cases value : read item with
    | ok a => simp [Read.inside, Except.toOption, Except.map, value]
    | error e => rcases e with _ | ⟨_, _⟩ <;> simp [Read.inside, Except.toOption, Except.map, value]

end

end Json

open Json (held readString_eq_some)

/-! ### Nodes -/

namespace Node

/-- What the members of an object have to be for the object to stand for a node. -/
structure In (members : List (String × Json)) (n : Node) : Prop where
  id : held "id" members = [.text n.id]
  ephemeralId : held "ephemeral_id" members = [.text n.ephemeralId]
  address : held "address" members = [.text n.address]

/-- The values that stand for a node: an object, or the array of its texts in their order. -/
def Value (v : Json) (n : Node) : Prop :=
  (∃ members, v = .record members ∧ In members n) ∨
    v = .array [.text n.id, .text n.ephemeralId, .text n.address] true

theorem separate : Separate fields where
  distinct := by decide
  parts := by
    simp only [fields, List.pairwise_cons, List.forall_mem_cons, List.not_mem_nil, false_implies,
      implies_true, List.Pairwise.nil, and_true]
    and_intros <;> exact Field.apart_of_sets (fun _ => rfl) (fun _ => rfl) fun _ _ _ => rfl

theorem ofJson_record {members : List (String × Json)} (whole : ∀ m ∈ members, m.2.isWhole = true)
    (n : Node) : ofJson (.record members) = .ok n ↔ In members n := by
  rw [Read.eq_ok_iff, ofJson, Json.readRecord_record separate whole]
  simp only [fields, place_cons, place_nil, Field.taken_required, Option.bind_map,
    Option.bind_eq_some_iff, Function.comp_apply, only?_eq_some, readString_eq_some,
    Option.some.injEq]
  constructor
  · rintro ⟨id, ⟨_, holdsId, rfl⟩, ephemeralId, ⟨_, holdsEphemeralId, rfl⟩, address,
      ⟨_, holdsAddress, rfl⟩, rfl⟩
    exact ⟨holdsId, holdsEphemeralId, holdsAddress⟩
  · rintro ⟨holdsId, holdsEphemeralId, holdsAddress⟩
    exact ⟨_, ⟨_, holdsId, rfl⟩, _, ⟨_, holdsEphemeralId, rfl⟩, _, ⟨_, holdsAddress, rfl⟩, rfl⟩

theorem ofJson_array (items : List Json) (n : Node) :
    ofJson (.array items true) = .ok n ↔
      items = [.text n.id, .text n.ephemeralId, .text n.address] := by
  rw [Read.eq_ok_iff]
  change (Json.readItems _ true 0 fields items _).toOption = _ ↔ _
  simp only [fields, Json.readItems_cons_eq_some, Json.readItems_nil_eq_some, readString_eq_some]
  constructor
  · rintro ⟨_, _, id, rfl, rfl, _, _, ephemeralId, rfl, rfl, _, _, address, rfl, rfl, rfl, rfl⟩
    rfl
  · rintro rfl
    exact ⟨_, _, _, rfl, rfl, _, _, _, rfl, rfl, _, _, _, rfl, rfl, rfl, rfl⟩

theorem ofJson_iff {depth : Nat} {v : Json} (readable : v.isReadable depth = true) (n : Node) :
    ofJson v = .ok n ↔ Value v n := by
  cases v with
  | object members closed =>
    obtain ⟨named, same⟩ := Json.exists_record readable
    rw [same] at readable ⊢
    have inner := Json.members_readable readable
    rw [ofJson_record fun m mem => Json.isWhole_of_isReadable (inner m mem)]
    constructor
    · exact fun told => .inl ⟨named, rfl, told⟩
    · rintro (⟨members, same, told⟩ | other)
      · rwa [Json.record_injective same]
      · cases other
  | array items closed =>
    obtain rfl : closed = true := Json.isWhole_of_isReadable readable
    rw [ofJson_array]
    constructor
    · rintro rfl
      exact .inr rfl
    · rintro (⟨members, ⟨⟩, -⟩ | same)
      exact (Json.array.inj same).1
  | _ =>
    rw [Read.eq_ok_iff, ofJson, Json.readRecord, Json.mismatch_toOption]
    · constructor
      · intro same
        cases same
      · rintro (⟨_, same, _⟩ | same) <;> cases same
    all_goals
      intro _ _ same
      cases same

end Node

/-! ### Pings -/

namespace PingRequest

/-- The values that stand for the name of a cluster: null and none at all name no cluster. -/
def Names (values : List Json) : Option ClusterName → Prop
  | none => values = [] ∨ values = [.null]
  | some name => values = [.text name]

/-- What the members of an object have to be for the object to stand for a ping. -/
structure In (members : List (String × Json)) (r : PingRequest) : Prop where
  source : ∃ v, held "source_node" members = [v] ∧ Node.Value v r.source
  leader : ∃ v, held "leader_node" members = [v] ∧ Node.Value v r.leader
  clusterName : Names (held "cluster_name" members) r.clusterName

theorem separate : Separate fields where
  distinct := by decide
  parts := by
    simp only [fields, List.pairwise_cons, List.forall_mem_cons, List.not_mem_nil, false_implies,
      implies_true, List.Pairwise.nil, and_true]
    and_intros <;> exact Field.apart_of_sets (fun _ => rfl) (fun _ => rfl) fun _ _ _ => rfl

theorem readName_eq_some {v : Json} {c : Option ClusterName} :
    (v.readOptional ClusterName.ofJson).toOption = some c ↔ Names [v] c := by
  have other (named : v ≠ .null) :
      (v.readOptional ClusterName.ofJson).toOption = v.readString.toOption.map some := by
    rw [Json.readOptional]
    · change (some <$> v.readString).toOption = _
      cases v.readString <;> rfl
    · exact named
  by_cases isNull : v = .null
  · subst isNull
    cases c <;> simp [Json.readOptional, Names, Except.toOption, Json.text]
  · rw [other isNull, Option.map_eq_some_iff]
    simp only [readString_eq_some]
    cases c <;> simp [Names, isNull]

/-- Where the name may be left out, no name is the same as one that is null. -/
theorem names_iff {values : List Json} {c : Option ClusterName} :
    Names values c ↔ ∃ given, told? (Json.readOptional ClusterName.ofJson) values = some given ∧
      given.getD none = c := by
  rcases values with _ | ⟨v, _ | ⟨w, values⟩⟩
  · cases c <;> simp [Names, told?, given?]
  · rw [← readName_eq_some]
    simp [told?, given?]
  · cases c <;> simp [Names, told?, given?]

theorem ofJson_record {depth : Nat} {members : List (String × Json)}
    (readable : (Json.record members).isReadable depth = true) (r : PingRequest) :
    ofJson (.record members) = .ok r ↔ In members r := by
  have inner := Json.members_readable readable
  rw [Read.eq_ok_iff, ofJson,
    Json.readRecord_record separate fun m mem => Json.isWhole_of_isReadable (inner m mem)]
  simp only [fields, place_cons, place_nil, Field.taken_required, Option.bind_map,
    Field.taken_optional, Option.bind_eq_some_iff, Function.comp_apply, only?_eq_some,
    Option.some.injEq, ← Read.eq_ok_iff]
  have value {key : String} {v : Json} (single : held key members = [v]) (n : Node) :
      Node.ofJson v = .ok n ↔ Node.Value v n := by
    obtain ⟨m, mem, rfl⟩ : ∃ m ∈ members, m.2 = v :=
      Json.exists_of_mem_held (single ▸ List.mem_singleton_self v)
    exact Node.ofJson_iff (inner m mem) n
  constructor
  · rintro ⟨source, ⟨v, holdsSource, readSource⟩, leader, ⟨w, holdsLeader, readLeader⟩, name, told,
      rfl⟩
    have names : Names _ (name.getD none) := names_iff.mpr ⟨name, told, rfl⟩
    cases name <;> exact ⟨⟨v, holdsSource, (value holdsSource _).mp readSource⟩,
      ⟨w, holdsLeader, (value holdsLeader _).mp readLeader⟩, names⟩
  · obtain ⟨source, leader, c⟩ := r
    rintro ⟨⟨v, holdsSource, isSource⟩, ⟨w, holdsLeader, isLeader⟩, names⟩
    obtain ⟨name, told, rfl⟩ := names_iff.mp names
    refine ⟨source, ⟨v, holdsSource, (value holdsSource _).mpr isSource⟩, leader,
      ⟨w, holdsLeader, (value holdsLeader _).mpr isLeader⟩, name, told, ?_⟩
    cases name <;> rfl

end PingRequest

/-! ### Rejections -/

namespace Rejection

/-- What the members of an object have to be for the object to stand for a rejection. Its kind says
which other member there has to be. -/
def In (members : List (String × Json)) : Rejection → Prop
  | notTheLeader message =>
    held "kind" members = [.text "not_the_leader"] ∧ held "message" members = [.text message]
  | unknownToLeader node =>
    held "kind" members = [.text "unknown_to_leader"] ∧ held "node" members = [.text node]
  | noLongerLeader => held "kind" members = [.text "no_longer_leader"]

theorem Kind.ofJson_eq_some {v : Json} {kind : Kind} :
    (Kind.ofJson v).toOption = some kind ↔ v = .text kind.code := by
  have other (misfit : ∀ s, v ≠ .string (some s)) :
      (Kind.ofJson v).toOption = none := by
    rw [Kind.ofJson]
    · exact Json.mismatch_toOption v _
    · exact misfit
  by_cases isText : ∃ s, v = .string (some s)
  · obtain ⟨s, rfl⟩ := isText
    rw [Kind.ofJson]
    constructor
    · intro read
      cases found : all.find? (·.code == s) with
      | none =>
        rw [found] at read
        cases read
      | some kind' =>
        rw [found] at read
        cases read
        have same := List.find?_some found
        rw [Json.text, eq_of_beq same]
    · intro same
      cases same
      cases kind <;> rfl
  · rw [other fun s same => isText ⟨s, same⟩]
    constructor
    · intro same
      cases same
    · exact fun same => absurd ⟨_, same⟩ isText

/-- What the values under a key come to, where one of them may have been read already. -/
def onlyAfter? {α : Type} (read : Json → Read α) : Option α → List Json → Option (Option α)
  | none, values => told? read values
  | some a, values => if values.isEmpty then some (some a) else none

theorem onlyAfter?_cons {α : Type} (read : Json → Read α) (v : Json) (values : List Json) :
    onlyAfter? read none (v :: values) =
      (read v).toOption.bind fun a => onlyAfter? read (some a) values := by
  cases values with
  | nil => cases h : read v <;> simp [onlyAfter?, told?, given?, h, Except.toOption]
  | cons w values => cases read v <;> rfl

/-- The kind of a rejection may stand anywhere among its members, which are kept for it. -/
theorem readTagged_eq {depth : Nat} {members : List (String × Json)}
    (readable : ∀ m ∈ members, m.2.isReadable depth = true) (kind : Option Kind) :
    (readTagged depth (members.map fun (key, v) => (some key, v)) kind).toOption =
      (onlyAfter? Kind.ofJson kind (held "kind" members)).map
        (·, members.filter (·.1 ≠ "kind")) := by
  induction members generalizing kind with
  | nil => cases kind <;> rfl
  | cons m members ih =>
    obtain ⟨here, others⟩ := List.forall_mem_cons.mp readable
    rw [List.map_cons, readTagged, Json.held_cons, List.filter_cons]
    by_cases isKind : m.1 = "kind"
    · rw [if_pos isKind, if_pos isKind]
      simp only [isKind, ne_eq, not_true_eq_false, decide_false, Bool.false_eq_true, if_false]
      cases kind with
      | some kind => rfl
      | none =>
        rw [onlyAfter?_cons]
        cases read : Kind.ofJson m.2 with
        | error e => rfl
        | ok kind => exact ih others (some kind)
    · rw [if_neg isKind, if_neg isKind, if_pos here]
      simp only [isKind, ne_eq, not_false_eq_true, decide_true, if_true]
      have keep (read : Read (Option Kind × List (String × Json))) :
          (read >>= fun found => return (found.1, m :: found.2)).toOption =
            read.toOption.map fun found => (found.1, m :: found.2) := by
        cases read <;> rfl
      exact (keep _).trans (by rw [ih others kind, Option.map_map]; rfl)

theorem textAmong_eq (name : String) (members : List (String × Json)) (s : Option String) :
    (textAmong name members s).toOption =
      (onlyAfter? Json.readString s (held name members)).bind id := by
  induction members generalizing s with
  | nil => cases s <;> rfl
  | cons m members ih =>
    rw [textAmong, Json.held_cons]
    by_cases isName : m.1 = name
    · rw [if_neg (not_not_intro isName), if_pos isName]
      cases s with
      | some s => rfl
      | none =>
        rw [onlyAfter?_cons]
        cases read : Json.readString m.2 with
        | error e => rfl
        | ok s => exact ih (some s)
    · rw [if_pos isName, if_neg isName]
      exact ih s

/-- The text that a rejection carries, under a key other than that of its kind. -/
theorem textAmong_others {name : String} (other : name ≠ "kind") (members : List (String × Json)) :
    (textAmong name (members.filter (·.1 ≠ "kind")) none).toOption =
      only? Json.readString (held name members) := by
  rw [textAmong_eq, Json.held_filter other]
  exact Option.bind_id_eq_join

theorem ofMembers_iff {members : List (String × Json)} {kind : Kind}
    (isKind : held "kind" members = [.text kind.code]) (r : Rejection) :
    (ofMembers (members.filter (·.1 ≠ "kind")) kind).toOption = some r ↔ In members r := by
  have carries (name : String) (other : name ≠ "kind") (make : String → Rejection) :
      (make <$> textAmong name (members.filter (·.1 ≠ "kind")) none).toOption = some r ↔
        ∃ s, held name members = [.text s] ∧ make s = r := by
    have read := textAmong_others other members
    trans (only? Json.readString (held name members)).map make = some r
    · rw [← read]
      cases textAmong name (members.filter (·.1 ≠ "kind")) none <;> rfl
    · simp only [Option.map_eq_some_iff, only?_eq_some, readString_eq_some]
      simp
  cases kind with
  | notTheLeader =>
    rw [ofMembers, carries "message" (by decide)]
    cases r <;> simp [In, isKind, Kind.code, Json.text]
  | unknownToLeader =>
    rw [ofMembers, carries "node" (by decide)]
    cases r <;> simp [In, isKind, Kind.code, Json.text]
  | noLongerLeader =>
    cases r <;> simp [ofMembers, Except.toOption, In, isKind, Kind.code, Json.text]

theorem In.kind {members : List (String × Json)} {r : Rejection} (told : In members r) :
    ∃ kind : Kind, held "kind" members = [.text kind.code] := by
  cases r with
  | notTheLeader => exact ⟨.notTheLeader, told.1⟩
  | unknownToLeader => exact ⟨.unknownToLeader, told.1⟩
  | noLongerLeader => exact ⟨.noLongerLeader, told⟩

theorem ofJson_record {members : List (String × Json)}
    (readable : (Json.record members).isReadable Json.depthLimit = true) (r : Rejection) :
    ofJson (.record members) = .ok r ↔ In members r := by
  have tagged : (readTagged (Json.depthLimit - 1) (members.map fun (key, v) => (some key, v))
      none).toOption = (told? Kind.ofJson (held "kind" members)).map
        (·, members.filter (·.1 ≠ "kind")) :=
    readTagged_eq (Json.members_readable readable) none
  have read : (ofJson (.record members)).toOption =
      (only? Kind.ofJson (held "kind" members)).bind fun kind =>
        (ofMembers (members.filter (·.1 ≠ "kind")) kind).toOption := by
    rw [only?, ofJson, Json.record, ofJsonWithin]
    cases read : readTagged (Json.depthLimit - 1) (members.map fun (key, v) => (some key, v))
      none with
    | error e =>
      rw [read] at tagged
      rw [Option.map_eq_none_iff.mp tagged.symm]
      rfl
    | ok found =>
      obtain ⟨kind, others⟩ := found
      rw [read] at tagged
      obtain ⟨kind', isKind, same⟩ := Option.map_eq_some_iff.mp tagged.symm
      cases same
      rw [isKind]
      cases kind <;> rfl
  rw [Read.eq_ok_iff, read, Option.bind_eq_some_iff]
  simp only [only?_eq_some, Kind.ofJson_eq_some]
  constructor
  · rintro ⟨kind, ⟨_, isKind, rfl⟩, carried⟩
    exact (ofMembers_iff isKind r).mp carried
  · intro told
    obtain ⟨kind, isKind⟩ := told.kind
    exact ⟨kind, ⟨_, isKind, rfl⟩, (ofMembers_iff isKind r).mpr told⟩

end Rejection

/-! ### Texts -/

namespace Json

/-- Under some keys two objects hold the same values, each in any order. -/
def Alike (keys : List String) (members members' : List (String × Json)) : Prop :=
  ∀ key ∈ keys, (held key members).Perm (held key members')

theorem Alike.held_eq {keys : List String} {members members' : List (String × Json)}
    (alike : Alike keys members members') {key : String} (mem : key ∈ keys) {v : Json}
    (single : held key members = [v]) : held key members' = [v] := by
  have same := alike key mem
  rw [single] at same
  exact (List.singleton_perm.mp same).symm

theorem Alike.held_eq_nil {keys : List String} {members members' : List (String × Json)}
    (alike : Alike keys members members') {key : String} (mem : key ∈ keys)
    (missing : held key members = []) : held key members' = [] := by
  have same := alike key mem
  rw [missing] at same
  exact List.nil_perm.mp same

/-- The text of an object is read as the object. -/
theorem ofText_spells {α : Type} {v : Json} (readable : v.isReadable depthLimit = true)
    {text : List Char} (spells : Spells v.words text) (read : Json → Read α) :
    ofText read (String.ofList text) = read v := by
  rw [ofText, String.toList_ofList, readText_spells readable spells]

end Json

open Json (Alike)

theorem Node.In.alike {members members' : List (String × Json)} {n : Node}
    (told : In members n) (alike : Alike ["id", "ephemeral_id", "address"] members members') :
    In members' n where
  id := alike.held_eq (by simp) told.id
  ephemeralId := alike.held_eq (by simp) told.ephemeralId
  address := alike.held_eq (by simp) told.address

theorem PingRequest.In.alike {members members' : List (String × Json)} {r : PingRequest}
    (told : In members r)
    (alike : Alike ["source_node", "leader_node", "cluster_name"] members members') :
    In members' r where
  source := told.source.imp fun _ => And.imp_left (alike.held_eq (by simp))
  leader := told.leader.imp fun _ => And.imp_left (alike.held_eq (by simp))
  clusterName := by
    have names := told.clusterName
    cases name : r.clusterName with
    | none =>
      rw [name] at names
      exact names.imp (alike.held_eq_nil (by simp)) (alike.held_eq (by simp))
    | some c =>
      rw [name] at names
      exact alike.held_eq (by simp) names

/-- The keys that a rejection is read from. -/
def Rejection.keys : Rejection → List String
  | notTheLeader _ => ["kind", "message"]
  | unknownToLeader _ => ["kind", "node"]
  | noLongerLeader => ["kind"]

theorem Rejection.In.alike {members members' : List (String × Json)} {r : Rejection}
    (told : In members r) (alike : Alike r.keys members members') : In members' r := by
  cases r with
  | notTheLeader =>
    exact ⟨alike.held_eq (by simp [keys]) told.1, alike.held_eq (by simp [keys]) told.2⟩
  | unknownToLeader =>
    exact ⟨alike.held_eq (by simp [keys]) told.1, alike.held_eq (by simp [keys]) told.2⟩
  | noLongerLeader => exact alike.held_eq (by simp [keys]) told

/-- Whether an object is read as a message, and as which one, is decided by the values under the
keys of the message: not by the order of the members, by those under other keys or by the way in
which the object is written. -/
theorem messages_accepted (members : List (String × Json)) (text : List Char)
    (readable : (Json.record members).isReadable Json.depthLimit = true)
    (spells : Json.Spells (Json.record members).words text) :
    (∀ n, Json.ofText Node.ofJson (String.ofList text) = .ok n ↔ Node.In members n) ∧
    (∀ r, Json.ofText PingRequest.ofJson (String.ofList text) = .ok r ↔
      PingRequest.In members r) ∧
    (∀ r, Json.ofText Rejection.ofJson (String.ofList text) = .ok r ↔ Rejection.In members r) ∧
    ∀ members' text', (Json.record members').isReadable Json.depthLimit = true →
      Json.Spells (Json.record members').words text' →
      (∀ n, Json.ofText Node.ofJson (String.ofList text) = .ok n →
        Alike ["id", "ephemeral_id", "address"] members members' →
        Json.ofText Node.ofJson (String.ofList text') = .ok n) ∧
      (∀ r, Json.ofText PingRequest.ofJson (String.ofList text) = .ok r →
        Alike ["source_node", "leader_node", "cluster_name"] members members' →
        Json.ofText PingRequest.ofJson (String.ofList text') = .ok r) ∧
      (∀ r, Json.ofText Rejection.ofJson (String.ofList text) = .ok r →
        Alike r.keys members members' →
        Json.ofText Rejection.ofJson (String.ofList text') = .ok r) := by
  have node {members text} (readable : (Json.record members).isReadable Json.depthLimit = true)
      (spells : Json.Spells (Json.record members).words text) (n : Node) :
      Json.ofText Node.ofJson (String.ofList text) = .ok n ↔ Node.In members n := by
    rw [Json.ofText_spells readable spells]
    exact Node.ofJson_record
      (fun m mem => Json.isWhole_of_isReadable (Json.members_readable readable m mem)) n
  have ping {members text} (readable : (Json.record members).isReadable Json.depthLimit = true)
      (spells : Json.Spells (Json.record members).words text) (r : PingRequest) :
      Json.ofText PingRequest.ofJson (String.ofList text) = .ok r ↔ PingRequest.In members r := by
    rw [Json.ofText_spells readable spells]
    exact PingRequest.ofJson_record readable r
  have rejection {members text}
      (readable : (Json.record members).isReadable Json.depthLimit = true)
      (spells : Json.Spells (Json.record members).words text) (r : Rejection) :
      Json.ofText Rejection.ofJson (String.ofList text) = .ok r ↔ Rejection.In members r := by
    rw [Json.ofText_spells readable spells]
    exact Rejection.ofJson_record readable r
  refine ⟨node readable spells, ping readable spells, rejection readable spells,
    fun members' text' readable' spells' => ⟨fun n read alike => ?_, fun r read alike => ?_,
      fun r read alike => ?_⟩⟩
  · exact (node readable' spells' n).mpr (((node readable spells n).mp read).alike alike)
  · exact (ping readable' spells' r).mpr (((ping readable spells r).mp read).alike alike)
  · exact (rejection readable' spells' r).mpr (((rejection readable spells r).mp read).alike alike)

/-- The kind of a rejection comes last, behind the text that it governs and a number under another
key. -/
theorem late_kind_accepted :
    Json.ofText Rejection.ofJson
        "\x7b \"message\":\"n\\u006f\", \"seen\":7,\"kind\":\"not_the_leader\"\x7d" =
      .ok (.notTheLeader "no") := by
  have digit : Json.Digits ['7'] := ⟨List.cons_ne_nil _ _, List.forall_mem_singleton.mpr rfl⟩
  have seven : Json.NumeralText ⟨false, ['7'], [], none⟩ ['7'] :=
    .mk digit (by simp) .none .none
  have no : Json.Spelled (.string (some "no")) ['"', 'n', '\\', 'u', '0', '0', '6', 'f', '"'] :=
    .string (.cons (.plain 'n' (by decide) (by decide) (by decide))
      (.cons (.number 'o' '0' '0' '6' 'f' rfl) .nil))
  have spells : Json.Spells
      (Json.record [("message", .text "no"), ("seen", .number (some (.integer 7))),
        ("kind", .text "not_the_leader")]).words
      "\x7b \"message\":\"n\\u006f\", \"seen\":7,\"kind\":\"not_the_leader\"\x7d".toList :=
    .word .openObject (.blank ' ' rfl (.word (Json.spelled_quoted "message") (.word .colon
      (.word no (.word .comma (.blank ' ' rfl (.word (Json.spelled_quoted "seen") (.word .colon
        (.word (.number seven) (.word .comma (.word (Json.spelled_quoted "kind") (.word .colon
          (.word (Json.spelled_quoted "not_the_leader") (.word .closeObject .nil))))))))))))))
  have accepted := (messages_accepted _ _ rfl spells).2.2.1 (.notTheLeader "no")
  rw [String.ofList_toList] at accepted
  exact accepted.mpr ⟨rfl, rfl⟩

end Vigil
