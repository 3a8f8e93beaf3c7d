import Vigil.Yaml.Token

/-!
The words of a text in their order, with the collections that indentation opens and closes.

A key is known as such only by the colon behind it. So the place of every word that could be a key
is kept until the colon comes or the key is out of reach, and the words behind that place wait.
-/

namespace Vigil.Yaml

/-- A place where a key may have started. -/
structure KeyStart where
  /-- Whether nothing but a key can stand there. -/
  required : Bool
  /-- The number of the word that would be the key. -/
  word : Nat
  index : Nat
  line : Nat
  column : Nat

structure Layout where
  cursor : Cursor
  /-- How many brackets are open. -/
  depth : Nat := 0
  /-- The column of the innermost collection that indentation opened, or -1. -/
  indent : Int := -1
  outerIndents : List Int := []
  /-- Whether a key may start here. -/
  keyAllowed : Bool := true
  /-- For every open bracket, and outside of all, the place of a key; the innermost one first. -/
  keys : List (Option KeyStart) := [none]
  /-- The words that are read and not yet passed on. -/
  waiting : List Token := []
  /-- How many words have been passed on. -/
  passed : Nat := 0
  ended : Bool := false

namespace Layout

def inBrackets (l : Layout) : Bool := l.depth > 0

def push (token : Token) (l : Layout) : Layout := { l with waiting := l.waiting ++ [token] }

/-- Puts a word in front of the word of some number. -/
def insertAt (word : Nat) (token : Token) (l : Layout) : Layout :=
  let n := word - l.passed
  { l with waiting := l.waiting.take n ++ token :: l.waiting.drop n }

/-! ### Indentation -/

/-- Opens a collection at a deeper column, by a word put at its place. -/
def openAt (column : Nat) (place : Token → Layout → Layout) (token : Token) (l : Layout) : Layout :=
  if !l.inBrackets && l.indent < column then
    place token { l with indent := column, outerIndents := l.indent :: l.outerIndents }
  else l

/-- How many of the open columns lie right of a column. -/
def closing (column : Int) : List Int → Nat
  | [] => 0
  | i :: rest => if column < i then closing column rest + 1 else 0

/-- Closes the collections that are indented deeper than a column. -/
def closeTo (column : Int) (l : Layout) : Layout :=
  if l.inBrackets then l
  else
    let columns := l.indent :: l.outerIndents
    let n := closing column columns
    let left := columns.drop n
    { l with
      waiting := l.waiting ++ List.replicate n .blockEnd
      indent := left.headD (-1)
      outerIndents := left.drop 1 }

/-! ### Keys -/

/-- A key stands on one line and has at most 1024 characters. -/
def KeyStart.isStale (k : KeyStart) (c : Cursor) : Bool :=
  k.line < c.line || k.index + 1024 < c.index

/-- Gives up the keys that can not be completed any more. -/
def dropStale (l : Layout) : Option Layout := do
  let keys ← l.keys.mapM fun
    | some k => if KeyStart.isStale k l.cursor then (if k.required then none else some none)
                else some (some k)
    | none => some none
  return { l with keys }

/-- Gives up the key that may have started in the innermost bracket. -/
def dropKey (l : Layout) : Option Layout :=
  match l.keys with
  | some k :: rest => if k.required then none else some { l with keys := none :: rest }
  | _ => some l

/-- Notes that a key may start with the next word. -/
def noteKey (l : Layout) : Option Layout :=
  if l.keyAllowed then do
    let l ← l.dropKey
    let c := l.cursor
    let start : KeyStart :=
      { required := !l.inBrackets && l.indent == c.column
        word := l.passed + l.waiting.length
        index := c.index, line := c.line, column := c.column }
    return { l with keys := some start :: l.keys.drop 1 }
  else some l

def allowKey (allowed : Bool) (l : Layout) : Layout := { l with keyAllowed := allowed }

/-! ### Single words -/

/-- Passes the indicator of a word. -/
def take (token : Token) (n : Nat) (l : Layout) : Layout :=
  { l with cursor := l.cursor.skip n }.push token

/-- Passes blanks, comments and line breaks. A tab counts as a blank where no key may start. -/
def skipSpace : Nat → Layout → Layout
  | 0, l => l
  | fuel + 1, l =>
    let c := l.cursor
    let c := if c.column == 0 && c.sees '\uFEFF' then c.skip else c
    let tabs := l.inBrackets || !l.keyAllowed
    let c := (c.skipWhile fun x => x == ' ' || (tabs && x == '\t')).skipComment
    if c.seesBreak then
      skipSpace fuel { l with cursor := c.takeBreak.2, keyAllowed := l.keyAllowed || !l.inBrackets }
    else { l with cursor := c }

/-- The end of the text, which also ends its last line. -/
def takeStreamEnd (l : Layout) : Option Layout := do
  let l ← (l.closeTo (-1)).dropKey
  let c := l.cursor
  let cursor := if c.column = 0 then c else { c with line := c.line + 1, column := 0 }
  return { l.push .streamEnd with cursor, ended := true, keyAllowed := false }

/-- A word that stands between documents, and ends all collections. -/
def takeBetween (read : Cursor → Option (Token × Cursor)) (l : Layout) : Option Layout := do
  let l ← (l.closeTo (-1)).dropKey
  let (token, cursor) ← read l.cursor
  return { l with cursor, keyAllowed := false }.push token

def takeBracket (token : Token) (l : Layout) : Option Layout := do
  let l ← l.noteKey
  return { l with depth := l.depth + 1, keys := none :: l.keys, keyAllowed := true }.take token 1

def takeClosingBracket (token : Token) (l : Layout) : Option Layout := do
  let l ← l.dropKey
  let keys := if l.inBrackets then l.keys.drop 1 else l.keys
  return { l with depth := l.depth - 1, keys, keyAllowed := false }.take token 1

def takeComma (l : Layout) : Option Layout := do
  let l ← l.dropKey
  return (l.allowKey true).take .flowEntry 1

/-- An indicator that opens a collection of its own, where a key may start. -/
def takeOpening (start token : Token) (l : Layout) : Option Layout :=
  if !l.inBrackets && !l.keyAllowed then none
  else (l.openAt l.cursor.column push start).dropKey.map (take token 1)

def takeEntry (l : Layout) : Option Layout :=
  (l.takeOpening .blockSequenceStart .blockEntry).map (allowKey true)

def takeKey (l : Layout) : Option Layout :=
  (l.takeOpening .blockMappingStart .key).map fun l => l.allowKey !l.inBrackets

/-- The colon behind a key: behind one that was noted, or behind one that has its own indicator. -/
def takeValue (l : Layout) : Option Layout :=
  match l.keys with
  | some k :: rest =>
    let l := l.insertAt k.word .key
    let l := l.openAt k.column (insertAt k.word) .blockMappingStart
    some ({ l with keys := none :: rest, keyAllowed := false }.take .value 1)
  | _ =>
    if !l.inBrackets && !l.keyAllowed then none
    else
      let l := l.openAt l.cursor.column push .blockMappingStart
      some ((l.allowKey !l.inBrackets).take .value 1)

/-- A word that may start a key. -/
def takeNoted (read : Cursor → Option (Token × Cursor)) (l : Layout) : Option Layout := do
  let l ← l.noteKey
  let (token, cursor) ← read l.cursor
  return { l with cursor, keyAllowed := false }.push token

def takeNamed (token : String → Token) (l : Layout) : Option Layout :=
  l.takeNoted fun c => (readName c.skip).map fun (name, c) => (token name, c)

def takeQuoted (single : Bool) (l : Layout) : Option Layout :=
  l.takeNoted fun c =>
    (readQuoted single (c.rest.length + 1) [] c.skip).map fun (text, c) =>
      (.scalar (String.ofList text) (if single then .singleQuoted else .doubleQuoted), c)

/-- Plain text. A key may follow it at once if it ends behind a line break. -/
def takePlain (l : Layout) : Option Layout := do
  let l ← l.noteKey
  let c := l.cursor
  let (text, broken, cursor) ← readPlain l.inBrackets (l.indent + 1) (c.rest.length + 1) [] {} c
  return { l with cursor, keyAllowed := broken }.push (.scalar (String.ofList text) .plain)

def takeBlock (literal : Bool) (l : Layout) : Option Layout := do
  let l ← l.dropKey
  let (text, cursor) ← readBlock literal l.indent l.cursor.skip
  let style := if literal then Style.literal else .folded
  return { l with cursor, keyAllowed := true }.push (.scalar (String.ofList text) style)

/-- Whether plain text starts here. -/
def startsPlain (l : Layout) (x : Char) : Bool :=
  let c := l.cursor
  !(isSpace x || "-?:,[]\x7b\x7d#&*!|>'\"%@`".toList.contains x) ||
    (x == '-' && !(c.peekAt 1).any isBlank) ||
    (!l.inBrackets && (x == '?' || x == ':') && !c.spaceAt 1)

/-- Reads the next word. -/
def next (l : Layout) : Option Layout := do
  let l ← (l.skipSpace (l.cursor.rest.length + 1)).dropStale
  let l := l.closeTo l.cursor.column
  let c := l.cursor
  let mark (token : Token) := l.takeBetween fun c => some (token, c.skip 3)
  match c.peek with
  | none => l.takeStreamEnd
  | some x =>
    if x == '%' && c.column == 0 then l.takeBetween readDirective
    else if c.seesMark '-' then mark .documentStart
    else if c.seesMark '.' then mark .documentEnd
    else if x == '[' then l.takeBracket .flowSequenceStart
    else if x == '\x7b' then l.takeBracket .flowMappingStart
    else if x == ']' then l.takeClosingBracket .flowSequenceEnd
    else if x == '\x7d' then l.takeClosingBracket .flowMappingEnd
    else if x == ',' then l.takeComma
    else if x == '-' && c.spaceAt 1 then l.takeEntry
    else if x == '?' && (l.inBrackets || c.spaceAt 1) then l.takeKey
    else if x == ':' && (l.inBrackets || c.spaceAt 1) then l.takeValue
    else if x == '*' then l.takeNamed .repeated
    else if x == '&' then l.takeNamed .anchor
    else if x == '!' then l.takeNoted (readTag l.inBrackets)
    else if x == '|' && !l.inBrackets then l.takeBlock true
    else if x == '>' && !l.inBrackets then l.takeBlock false
    else if x == '\'' then l.takeQuoted true
    else if x == '"' then l.takeQuoted false
    else if l.startsPlain x then l.takePlain
    else none

/-! ### All words -/

/-- Whether the first word that waits could still turn out to be a key. -/
def undecided (l : Layout) : Bool :=
  l.keys.any fun k => k.any (·.word == l.passed)

/-- Passes on the words of a text. Where the text breaks a rule, the words that wait are lost. -/
def tokens : Nat → Layout → List Token
  | 0, _ => []
  | fuel + 1, l =>
    match l.waiting with
    | [] => if l.ended then [] else (l.next.map (tokens fuel)).getD []
    | token :: rest =>
      match l.dropStale with
      | none => []
      | some l =>
        if l.undecided then (l.next.map (tokens fuel)).getD []
        else token :: tokens fuel { l with waiting := rest, passed := l.passed + 1 }

end Layout

/-- The characters that a text may hold. -/
def isAllowed (c : Char) : Bool :=
  c = '\t' ∨ c = '\n' ∨ c = '\r' ∨ (' ' ≤ c ∧ c ≤ '~') ∨ c = '\u0085' ∨
    ('\u00a0' ≤ c ∧ c ≤ '\ufffd') ∨ 0x10000 ≤ c.val

/-- The words of a text. They end with the end of the stream, or before a fault. -/
def tokens (s : List Char) : List Token :=
  let s := if s.head? = some '\uFEFF' then s.drop 1 else s
  if s.all isAllowed then Layout.tokens (8 * s.length + 32) { cursor := { rest := s } } else []

end Vigil.Yaml
