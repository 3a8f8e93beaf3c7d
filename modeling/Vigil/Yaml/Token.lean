import Vigil.Text.Letters
import Vigil.Yaml.Cursor

/-!
The words of a YAML text, and how those are read that hold text: scalars in five styles, names, tags
and directives.
-/

namespace Vigil.Yaml

inductive Style where
  | plain
  | singleQuoted
  | doubleQuoted
  | literal
  | folded
deriving DecidableEq, Repr

inductive Token where
  | streamEnd
  | version (major minor : Nat)
  | tagPrefix (handle start : String)
  | documentStart
  | documentEnd
  | blockSequenceStart
  | blockMappingStart
  | blockEnd
  | flowSequenceStart
  | flowSequenceEnd
  | flowMappingStart
  | flowMappingEnd
  | blockEntry
  | flowEntry
  | key
  | value
  | repeated (name : String)
  | anchor (name : String)
  | tag (handle suffix : String)
  | scalar (text : String) (style : Style)
deriving DecidableEq, Repr

/-! ### Folding of white space -/

/-- White space inside a scalar: blanks within a line, or line breaks. -/
structure Gap where
  /-- The blanks before the first line break, the last one first. -/
  blanks : List Char := []
  first : List Char := []
  /-- The line breaks after the first one, the last one first. -/
  others : List Char := []
  broken : Bool := false

namespace Gap

/-- What a gap stands for: a single line break is a space. -/
def text (g : Gap) : List Char :=
  if g.broken then
    if g.first = ['\n'] then (if g.others.isEmpty then [' '] else g.others.reverse)
    else g.first ++ g.others.reverse
  else g.blanks.reverse

/-- Reads white space. Where an indentation is given, no tab may stand in for it. -/
def read (indent : Option Int) : Nat → Gap → Cursor → Option (Gap × Cursor)
  | 0, g, c => some (g, c)
  | fuel + 1, g, c =>
    match c.peek with
    | none => some (g, c)
    | some x =>
      if isBlank x then
        if g.broken && x == '\t' && indent.any ((c.column : Int) < ·) then none
        else
          let g := if g.broken then g else { g with blanks := x :: g.blanks }
          read indent fuel g c.skip
      else if isBreak x then
        let (taken, c) := c.takeBreak
        let g :=
          if g.broken then { g with others := taken.reverse ++ g.others }
          else { g with blanks := [], first := taken, broken := true }
        read indent fuel g c
      else some (g, c)

end Gap

/-! ### Quoted scalars -/

def scalarValue? (n : Nat) : Option Char :=
  if (0xd800 ≤ n ∧ n ≤ 0xdfff) ∨ n > 0x10ffff then none else some (Char.ofNat n)

/-- The characters that a letter after a backslash stands for. -/
def simpleEscape? : Char → Option Char
  | '0' => some '\x00'
  | 'a' => some '\x07'
  | 'b' => some '\x08'
  | 't' | '\t' => some '\t'
  | 'n' => some '\n'
  | 'v' => some '\x0b'
  | 'f' => some '\x0c'
  | 'r' => some '\r'
  | 'e' => some '\x1b'
  | ' ' => some ' '
  | '"' => some '"'
  | '/' => some '/'
  | '\\' => some '\\'
  | 'N' => some '\u0085'
  | '_' => some '\u00a0'
  | 'L' => some '\u2028'
  | 'P' => some '\u2029'
  | _ => none

/-- How many hexadecimal digits follow a letter after a backslash. -/
def escapeDigits? : Char → Option Nat
  | 'x' => some 2
  | 'u' => some 4
  | 'U' => some 8
  | _ => none

/-- The character of an escape after its backslash, and where it ends. -/
def readEscape (c : Cursor) : Option (Char × Cursor) := do
  let letter ← c.peek
  match simpleEscape? letter with
  | some x => return (x, c.skip)
  | none =>
    let n ← escapeDigits? letter
    let digits := c.skip.rest.take n
    if digits.length < n then none
    else return (← scalarValue? (← Text.number? 16 digits), c.skip (n + 1))

/-- Where a run of characters in a quoted scalar ends. -/
inductive RunEnd where
  | quote
  | space
  | escapedBreak

/-- Reads a quoted scalar up to its end or to white space, the last character first. -/
def readQuotedRun (single : Bool) : Nat → List Char → Cursor → Option (List Char × RunEnd × Cursor)
  | 0, _, _ => none
  | fuel + 1, text, c =>
    match c.rest with
    | [] => some (text, .space, c)
    | '\'' :: rest =>
      if single then
        if rest.head? = some '\'' then readQuotedRun single fuel ('\'' :: text) (c.skip 2)
        else some (text, .quote, c)
      else readQuotedRun single fuel ('\'' :: text) c.skip
    | '"' :: _ =>
      if single then readQuotedRun single fuel ('"' :: text) c.skip else some (text, .quote, c)
    | '\\' :: rest =>
      if single then readQuotedRun single fuel ('\\' :: text) c.skip
      else if rest.head?.any isBreak then some (text, .escapedBreak, c.skip.takeBreak.2)
      else
        match readEscape c.skip with
        | some (x, c) => readQuotedRun single fuel (x :: text) c
        | none => none
    | x :: _ =>
      if isSpace x then some (text, .space, c) else readQuotedRun single fuel (x :: text) c.skip

/-- Reads a quoted scalar after its opening quote. -/
def readQuoted (single : Bool) : Nat → List Char → Cursor → Option (List Char × Cursor)
  | 0, _, _ => none
  | fuel + 1, text, c =>
    if c.atDocumentMark || c.rest.isEmpty then none
    else
      match readQuotedRun single (c.rest.length + 1) text c with
      | none => none
      | some (text, .quote, c) => some (text.reverse, c.skip)
      | some (text, ending, c) =>
        let closes := c.sees (if single then '\'' else '"')
        match ending, closes with
        | .escapedBreak, true => some (text.reverse, c.skip)
        | ending, _ =>
          let start : Gap := match ending with
            | .escapedBreak => { broken := true }
            | _ => {}
          match Gap.read none (c.rest.length + 1) start c with
          | none => none
          | some (gap, c) => readQuoted single fuel (gap.text.reverse ++ text) c

/-! ### Plain scalars -/

/-- Whether a character ends plain text inside brackets. -/
def isFlowIndicator (c : Char) : Bool := c = ',' ∨ c = '[' ∨ c = ']' ∨ c = '\x7b' ∨ c = '\x7d'

/-- Reads plain text up to white space or to what ends it, the last character first. -/
def readPlainRun (flow : Bool) : Nat → List Char → Cursor → Option (List Char × Cursor)
  | 0, text, c => some (text, c)
  | fuel + 1, text, c =>
    match c.peek with
    | none => some (text, c)
    | some x =>
      if isSpace x then some (text, c)
      else if flow && x == ':' && (c.peekAt 1).any (fun y => isFlowIndicator y || y == '?') then
        none
      else if (x == ':' && c.spaceAt 1) || (flow && isFlowIndicator x) then some (text, c)
      else readPlainRun flow fuel (x :: text) c.skip

/-- Reads a plain scalar. Also tells whether it ends behind a line break. -/
def readPlain (flow : Bool) (indent : Int) :
    Nat → List Char → Gap → Cursor → Option (List Char × Bool × Cursor)
  | 0, text, gap, c => some (text.reverse, gap.broken, c)
  | fuel + 1, text, gap, c =>
    let done := some (text.reverse, gap.broken, c)
    if c.atDocumentMark || c.sees '#' then done
    else
      match readPlainRun flow (c.rest.length + 1) [] c with
      | none => none
      | some (run, c) =>
        let (text, gap) :=
          if run.isEmpty then (text, gap) else (run ++ gap.text.reverse ++ text, {})
        if !c.seesBlank && !c.seesBreak then some (text.reverse, gap.broken, c)
        else
          match Gap.read (some indent) (c.rest.length + 1) gap c with
          | none => none
          | some (gap, c) =>
            if !flow && (c.column : Int) < indent then some (text.reverse, gap.broken, c)
            else readPlain flow indent fuel text gap c

/-! ### Block scalars -/

/-- What happens to the line breaks at the end of a block scalar. -/
inductive Chomping where
  | clip
  | strip
  | keep
deriving DecidableEq

def chomping? : Char → Option Chomping
  | '+' => some .keep
  | '-' => some .strip
  | _ => none

/-- Reads the indicators after the start of a block scalar: how it ends, and how deep it is
indented; in either order. Zero is no depth. -/
def readBlockHeader (c : Cursor) : Option (Chomping × Option Nat × Cursor) :=
  let digit? (c : Cursor) : Option (Option Nat × Cursor) :=
    match c.peek with
    | some x =>
      if x = '0' then none
      else if x.isDigit then some (some (x.toNat - '0'.toNat), c.skip)
      else some (none, c)
    | none => some (none, c)
  match c.peek.bind chomping? with
  | some ending => (digit? c.skip).map fun (depth, c) => (ending, depth, c)
  | none =>
    match digit? c with
    | none => none
    | some (none, c) => some (.clip, none, c)
    | some (some depth, c) =>
      match c.peek.bind chomping? with
      | some ending => some (ending, some depth, c.skip)
      | none => some (.clip, some depth, c)

/-- Reads the blank lines and the indentation before a line of a block scalar. The first such
place finds the indentation, if none is given: the deepest one, but deeper than `around`. -/
def readBlockBreaks (around : Int) (indent : Option Nat) :
    Nat → Nat → List Char → Cursor → Option (List Char × Nat × Cursor)
  | 0, _, _, _ => none
  | fuel + 1, deepest, breaks, c =>
    let within (c : Cursor) : Bool := indent.all (c.column < ·)
    let spaces := (c.rest.takeWhile (· = ' ')).length
    let c := c.skip (match indent with
      | some n => min spaces (n - c.column)
      | none => spaces)
    let deepest := max deepest c.column
    if within c && c.sees '\t' then none
    else if c.seesBreak then
      let (taken, c) := c.takeBreak
      readBlockBreaks around indent fuel deepest (taken.reverse ++ breaks) c
    else
      let found := max (max (deepest : Int) (around + 1)) 1
      some (breaks, indent.getD found.toNat, c)

/-- Reads the lines of a block scalar. `leading` is the line break before the line that is next,
and `breaks` are those after it, the last one first. -/
def readBlockLines (literal : Bool) (around : Int) (indent : Nat) :
    Nat → List Char → List Char → List Char → Bool → Cursor →
      Option (List Char × List Char × List Char × Cursor)
  | 0, _, _, _, _, _ => none
  | fuel + 1, text, leading, breaks, leadingBlank, c =>
    if c.column ≠ indent ∨ c.rest.isEmpty then some (text, leading, breaks, c)
    else
      let blank := c.seesBlank
      let joined :=
        if !literal && leading == ['\n'] && !leadingBlank && !blank then
          if breaks.isEmpty then [' '] else []
        else leading
      let (line, c) := c.takeWhile (!isBreak ·)
      let text := line.reverse ++ breaks ++ joined.reverse ++ text
      let (leading, c) := c.takeBreak
      match readBlockBreaks around (some indent) (c.rest.length + 1) 0 [] c with
      | none => none
      | some (breaks, _, c) => readBlockLines literal around indent fuel text leading breaks blank c

/-- Reads a block scalar after its first indicator, inside an indentation of `around`. -/
def readBlock (literal : Bool) (around : Int) (c : Cursor) : Option (List Char × Cursor) := do
  let (ending, depth, c) ← readBlockHeader c
  let c := (c.skipWhile isBlank).skipComment
  if !c.atLineEnd then none
  let c := c.takeBreak.2
  let given := depth.map fun n => (max around 0).toNat + n
  let fuel := c.rest.length + 1
  let (breaks, indent, c) ← readBlockBreaks around given fuel 0 [] c
  let (text, leading, breaks, c) ← readBlockLines literal around indent fuel [] [] breaks false c
  let text := match ending with
    | .strip => text
    | .clip => leading.reverse ++ text
    | .keep => breaks ++ leading.reverse ++ text
  return (text.reverse, c)

/-! ### Names, tags and directives -/

/-- Reads the name of an anchor or alias after its indicator. -/
def readName (c : Cursor) : Option (String × Cursor) :=
  let (name, c) := c.takeWhile isWord
  let ends := c.spaceAt 0 || c.peek.any fun x => "?:,]\x7d%@`".contains x
  if name.isEmpty || !ends then none else some (String.ofList name, c)

/-- Reads the bytes of one character, each as two hexadecimal digits after a percent sign. -/
def readUriEscape (c : Cursor) : Option (Char × Cursor) := do
  let byte? (c : Cursor) : Option Nat :=
    match c.rest with
    | '%' :: a :: b :: _ => Text.number? 16 [a, b]
    | _ => none
  let first ← byte? c
  let width ←
    if first < 0x80 then some 1
    else if first / 0x20 = 0x6 then some 2
    else if first / 0x10 = 0xe then some 3
    else if first / 0x8 = 0x1e then some 4
    else none
  let bytes ← (List.range width).mapM fun i => byte? (c.skip (3 * i))
  let text ← String.fromUTF8? ⟨(bytes.map UInt8.ofNat).toArray⟩
  return (← text.toList.head?, c.skip (3 * width))

/-- The characters of a tag; some only in one written in full. -/
def isUriChar (full : Bool) (c : Char) : Bool :=
  isWord c || ";/?:@&=+$.!~*'()".contains c || (full && ",[]".contains c)

def readUriOnto (full : Bool) : Nat → List Char → Cursor → Option (List Char × Cursor)
  | 0, text, c => some (text.reverse, c)
  | fuel + 1, text, c =>
    match c.peek with
    | none => some (text.reverse, c)
    | some x =>
      if x = '%' then
        match readUriEscape c with
        | some (y, c) => readUriOnto full fuel (y :: text) c
        | none => none
      else if isUriChar full x then readUriOnto full fuel (x :: text) c.skip
      else some (text.reverse, c)

/-- Reads a part of a tag that goes on from what its handle holds. -/
def readUri (full : Bool) (head : List Char) (c : Cursor) : Option (String × Cursor) := do
  let (text, next) ← readUriOnto full (c.rest.length + 1) [] c
  if head.isEmpty && text.isEmpty then none
  else return (String.ofList (head.drop 1 ++ text), next)

/-- Reads the handle of a tag: a name between exclamation marks, or what starts like one. -/
def readHandle (directive : Bool) (c : Cursor) : Option (List Char × Cursor) :=
  if !c.sees '!' then none
  else
    let (name, c) := c.skip.takeWhile isWord
    if c.sees '!' then some ('!' :: name ++ ['!'], c.skip)
    else if directive && !name.isEmpty then none
    else some ('!' :: name, c)

def readTag (flow : Bool) (c : Cursor) : Option (Token × Cursor) := do
  let (token, c) ←
    if c.peekAt 1 = some '<' then do
      let (suffix, c) ← readUri true [] (c.skip 2)
      if c.sees '>' then some (Token.tag "" suffix, c.skip) else none
    else do
      let (handle, c) ← readHandle false c
      if handle.length > 1 && handle.getLast? == some '!' then do
        let (suffix, c) ← readUri false [] c
        some (Token.tag (String.ofList handle) suffix, c)
      else do
        let (suffix, c) ← readUri false handle c
        some (if suffix.isEmpty then Token.tag "" "!" else Token.tag "!" suffix, c)
  if (flow && c.sees ',') || c.spaceAt 0 then some (token, c) else none

/-- Reads a part of a version number; ten digits are too many. -/
def readVersionPart (c : Cursor) : Option (Nat × Cursor) :=
  let (digits, c) := c.takeWhile Char.isDigit
  if digits.length > 9 then none else (Text.number? 10 digits).map (·, c)

def readVersion (c : Cursor) : Option (Token × Cursor) := do
  let (major, c) ← readVersionPart (c.skipWhile isBlank)
  if !c.sees '.' then none
  let (minor, c) ← readVersionPart c.skip
  return (.version major minor, c)

def readTagPrefix (c : Cursor) : Option (Token × Cursor) := do
  let (handle, c) ← readHandle true (c.skipWhile isBlank)
  if !c.seesBlank then none
  let (start, c) ← readUri true [] (c.skipWhile isBlank)
  if !c.spaceAt 0 then none
  return (.tagPrefix (String.ofList handle) start, c)

/-- Reads a directive, with the end of its line. -/
def readDirective (c : Cursor) : Option (Token × Cursor) := do
  let (name, c) := c.skip.takeWhile isWord
  if !c.spaceAt 0 then none
  let (token, c) ←
    match String.ofList name with
    | "YAML" => readVersion c
    | "TAG" => readTagPrefix c
    | _ => none
  let c := (c.skipWhile isBlank).skipComment
  if !c.atLineEnd then none
  return (token, c.takeBreak.2)

end Vigil.Yaml
