import Vigil.Yaml.Layout

/-!
From words to a tree. The text may break off or break a rule inside a node; what was read until then
is kept, so that the shape of a document can be judged in the order in which it is written.
-/

namespace Vigil

/-- A node of a document. A repeated node is known by the number of its anchor. -/
inductive Yaml where
  | scalar (text : String) (style : Yaml.Style) (tag : Option String)
  | sequence (items : List Yaml) (closed : Bool)
  | mapping (entries : List (Yaml × Yaml)) (closed : Bool)
  | anchored (anchor : Nat) (node : Yaml)
  | repeated (anchor : Nat)
  /-- The node of a text that holds none. -/
  | absent
  /-- A node that can not be read. -/
  | cut
deriving Inhabited, Repr

namespace Yaml

/-- A plain scalar without text stands where a node is left out. -/
def omitted : Yaml := scalar "" .plain none

/-- What is left to read, and the anchors named so far. A name keeps its first place. -/
structure Remainder where
  tokens : List Token
  anchors : List (String × Nat) := []

namespace Remainder

def drop (r : Remainder) (n : Nat := 1) : Remainder := { r with tokens := r.tokens.drop n }

/-- Gives a name the next number; that counts the different names before it. -/
def name (r : Remainder) (anchor : String) : Nat × Remainder :=
  let n := r.anchors.length
  (n, { r with anchors := (anchor, n) :: r.anchors.filter (·.1 != anchor) })

end Remainder

/-- A node that was read; nothing is left to read behind a fault. -/
abbrev Part := Yaml × Option Remainder

/-- The parts of a collection, and whether its end was reached. -/
abbrev Parts (α : Type) := List α × Bool × Option Remainder

def part (node : Yaml) (r : Remainder) : Part := (node, some r)

def broken : Part := (cut, none)

/-- What the prefixes of tags stand for. -/
abbrev TagPrefixes := List (String × String)

/-- The anchor and the tag before a node, in either order. -/
def properties : List Token → Option String × Option (String × String) × List Token
  | .anchor a :: .tag handle suffix :: rest => (some a, some (handle, suffix), rest)
  | .tag handle suffix :: .anchor a :: rest => (some a, some (handle, suffix), rest)
  | .anchor a :: rest => (some a, none, rest)
  | .tag handle suffix :: rest => (none, some (handle, suffix), rest)
  | rest => (none, none, rest)

/-- A tag in full. A tag without handle is in full already. -/
def fullTag? (tags : TagPrefixes) : String × String → Option String
  | (handle, suffix) =>
    if handle = "" then some suffix else (tags.lookup handle).map (· ++ suffix)

/-- Reads a node, unless a word comes that shows that it is left out. -/
def orOmitted (ends : Token → Bool) (read : Remainder → Part) (r : Remainder) : Part :=
  match r.tokens with
  | [] => broken
  | token :: _ => if ends token then part omitted r else read r

/-- Puts an item in front of the items behind it. -/
def item (p : Part) (more : Remainder → Parts Yaml) : Parts Yaml :=
  match p with
  | (cut, _) => ([], false, none)
  | (node, none) => ([node], false, none)
  | (node, some r) =>
    let (items, rest) := more r
    (node :: items, rest)

/-- Puts an entry in front of the entries behind it. -/
def entry (key : Part) (value : Remainder → Part) (more : Remainder → Parts (Yaml × Yaml)) :
    Parts (Yaml × Yaml) :=
  match key with
  | (cut, _) => ([], false, none)
  | (k, none) => ([(k, cut)], false, none)
  | (k, some r) =>
    match value r with
    | (v, none) => ([(k, v)], false, none)
    | (v, some r) =>
      let (entries, rest) := more r
      ((k, v) :: entries, rest)

/-- How the words of a sequence are laid out. -/
inductive SequenceForm where
  | block
  /-- Entries at the column of the mapping around them. -/
  | unindented
  | flow
deriving DecidableEq

def endsEntry (form : SequenceForm) (t : Token) : Bool :=
  t == .blockEntry || t == .blockEnd || (form == .unindented && (t == .key || t == .value))

def endsBlockPart (t : Token) : Bool := t == .key || t == .value || t == .blockEnd

def endsFlowItem (t : Token) : Bool := t == .flowEntry || t == .flowSequenceEnd

def endsFlowPart (t : Token) : Bool := t == .flowEntry || t == .flowMappingEnd

/-- Reads the value of an entry, which its indicator announces. -/
def announced (ends : Token → Bool) (read : Remainder → Part) (r : Remainder) : Part :=
  match r.tokens with
  | [] => broken
  | .value :: _ => orOmitted ends read r.drop
  | _ => part omitted r

mutual

/-- Reads a node. Indentation opens collections only outside of brackets. -/
def readNode (tags : TagPrefixes) (form : SequenceForm) : Nat → Remainder → Part
  | 0, _ => broken
  | fuel + 1, r =>
    match r.tokens with
    | .repeated name :: rest =>
      match r.anchors.lookup name with
      | some n => part (repeated n) { r with tokens := rest }
      | none => broken
    | tokens =>
      let (anchor, tag, rest) := properties tokens
      match tag.mapM (fullTag? tags) with
      | none => broken
      | some tag =>
        let bare := { r with tokens := rest }
        let (named, r) : (Yaml → Yaml) × Remainder :=
          match anchor with
          | some a => let (n, r) := bare.name a; (anchored n, r)
          | none => (id, bare)
        let sequence (p : Parts Yaml) : Part := (named (.sequence p.1 p.2.1), p.2.2)
        let mapping (p : Parts (Yaml × Yaml)) : Part := (named (.mapping p.1 p.2.1), p.2.2)
        match rest with
        | [] => broken
        | .scalar text style :: _ =>
          let tag := if tag = some "!" then none else tag
          part (named (scalar text style tag)) r.drop
        | .flowSequenceStart :: _ => sequence (readFlowItems tags fuel true r.drop)
        | .flowMappingStart :: _ => mapping (readFlowEntries tags fuel true r.drop)
        | token :: _ =>
          if form = .unindented ∧ token = .blockEntry then
            sequence (readBlockItems tags .unindented fuel r)
          else if form ≠ .flow ∧ token = .blockSequenceStart then
            sequence (readBlockItems tags .block fuel r.drop)
          else if form ≠ .flow ∧ token = .blockMappingStart then
            mapping (readBlockEntries tags fuel r.drop)
          else if anchor.isSome || tag.isSome then part (named (scalar "" .plain tag)) r
          else broken

def readBlockItems (tags : TagPrefixes) (form : SequenceForm) : Nat → Remainder → Parts Yaml
  | 0, _ => ([], false, none)
  | fuel + 1, r =>
    match r.tokens with
    | [] => ([], false, none)
    | .blockEntry :: _ =>
      item (orOmitted (endsEntry form) (readNode tags .block fuel) r.drop)
        (readBlockItems tags form fuel)
    | token :: _ =>
      if form = .unindented then ([], true, some r)
      else if token = .blockEnd then ([], true, some r.drop)
      else ([], false, none)

def readBlockEntries (tags : TagPrefixes) : Nat → Remainder → Parts (Yaml × Yaml)
  | 0, _ => ([], false, none)
  | fuel + 1, r =>
    match r.tokens with
    | .key :: _ =>
      let read := orOmitted endsBlockPart (readNode tags .unindented fuel)
      entry (read r.drop) (announced endsBlockPart (readNode tags .unindented fuel))
        (readBlockEntries tags fuel)
    | .blockEnd :: _ => ([], true, some r.drop)
    | _ => ([], false, none)

/-- Reads the items between brackets. An entry among them is a mapping of its own; a key that is
left out takes the word behind it along. -/
def readFlowItems (tags : TagPrefixes) : Nat → Bool → Remainder → Parts Yaml
  | 0, _, _ => ([], false, none)
  | fuel + 1, first, r =>
    let here (r : Remainder) : Parts Yaml :=
      match r.tokens with
      | [] => ([], false, none)
      | .flowSequenceEnd :: _ => ([], true, some r.drop)
      | .key :: _ =>
        let key : Part :=
          match r.drop.tokens with
          | [] => broken
          | token :: _ =>
            if token = .value || endsFlowItem token then part omitted (r.drop 2)
            else readNode tags .flow fuel r.drop
        let (entries, closed, r) := entry key (announced endsFlowItem (readNode tags .flow fuel))
          fun r => if r.tokens.isEmpty then ([], false, none) else ([], true, some r)
        item (.mapping entries closed, r) (readFlowItems tags fuel false)
      | _ => item (readNode tags .flow fuel r) (readFlowItems tags fuel false)
    match first, r.tokens with
    | true, _ | false, .flowSequenceEnd :: _ => here r
    | false, .flowEntry :: _ => here r.drop
    | false, _ => ([], false, none)

/-- Reads the entries between braces. A node alone is a key without value. -/
def readFlowEntries (tags : TagPrefixes) : Nat → Bool → Remainder → Parts (Yaml × Yaml)
  | 0, _, _ => ([], false, none)
  | fuel + 1, first, r =>
    let node := readNode tags .flow fuel
    let here (r : Remainder) : Parts (Yaml × Yaml) :=
      match r.tokens with
      | [] => ([], false, none)
      | .flowMappingEnd :: _ => ([], true, some r.drop)
      | .key :: _ =>
        entry (orOmitted (fun t => t == .value || endsFlowPart t) node r.drop)
          (announced endsFlowPart node) (readFlowEntries tags fuel false)
      | _ => entry (node r) (orOmitted (fun _ => true) node) (readFlowEntries tags fuel false)
    match first, r.tokens with
    | true, _ | false, .flowMappingEnd :: _ => here r
    | false, .flowEntry :: _ => here r.drop
    | false, _ => ([], false, none)

end

/-! ### Documents -/

def defaultPrefixes : TagPrefixes := [("!", "!"), ("!!", "tag:yaml.org,2002:")]

/-- Reads the directives before a document: at most one of the version, and one for every prefix. -/
def readDirectives : List Token → Bool → TagPrefixes → Option (TagPrefixes × List Token)
  | .version major minor :: rest, seen, tags =>
    if seen || major ≠ 1 || (minor ≠ 1 && minor ≠ 2) then none else readDirectives rest true tags
  | .tagPrefix handle start :: rest, seen, tags =>
    if (tags.lookup handle).isSome then none
    else readDirectives rest seen ((handle, start) :: tags)
  | rest, _, tags => some (tags, rest)

def endsDocument (t : Token) : Bool :=
  match t with
  | .version .. | .tagPrefix .. | .documentStart | .documentEnd | .streamEnd => true
  | _ => false

/-- The root of a document, and what is left behind it. -/
def readRoot (tokens : List Token) : Part :=
  let fuel := 2 * tokens.length + 4
  match tokens with
  | [] => broken
  | .streamEnd :: rest => part absent ⟨rest, []⟩
  | .version .. :: _ | .tagPrefix .. :: _ | .documentStart :: _ =>
    match readDirectives tokens false [] with
    | some (tags, .documentStart :: rest) =>
      orOmitted endsDocument (readNode (tags ++ defaultPrefixes) .block fuel) ⟨rest, []⟩
    | _ => broken
  | _ => readNode defaultPrefixes .block fuel ⟨tokens, []⟩

/-- A document and whether its text is faultless and holds nothing else. -/
structure Document where
  root : Yaml
  alone : Bool
deriving Repr

/-- Reads the one document of a text. -/
def parse (s : List Char) : Document :=
  let (root, rest) := readRoot (tokens s)
  let alone :=
    match root, rest with
    | absent, _ => true
    | _, some r => r.tokens.dropWhile (· == .documentEnd) == [.streamEnd]
    | _, none => false
  ⟨root, alone⟩

end Yaml

end Vigil
