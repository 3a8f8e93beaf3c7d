/-!
A place in a text, with its index, line and column, and the classes of characters that structure a
document.
-/

namespace Vigil.Yaml

def isBreak (c : Char) : Bool :=
  c = '\r' ∨ c = '\n' ∨ c = '\u0085' ∨ c = '\u2028' ∨ c = '\u2029'

def isBlank (c : Char) : Bool := c = ' ' ∨ c = '\t'

def isSpace (c : Char) : Bool := isBlank c || isBreak c

/-- The characters of names. -/
def isWord (c : Char) : Bool := c.isAlphanum ∨ c = '_' ∨ c = '-'

structure Cursor where
  rest : List Char
  index : Nat := 0
  line : Nat := 0
  column : Nat := 0

namespace Cursor

def peek (c : Cursor) : Option Char := c.rest.head?

def peekAt (c : Cursor) (n : Nat) : Option Char := c.rest[n]?

def sees (c : Cursor) (x : Char) : Bool := c.rest.head? == some x

/-- Whether a blank, a line break or the end stands `n` characters ahead. -/
def spaceAt (c : Cursor) (n : Nat) : Bool := (c.peekAt n).all isSpace

/-- Whether a line break or the end is next. -/
def atLineEnd (c : Cursor) : Bool := c.peek.all isBreak

def seesBlank (c : Cursor) : Bool := c.peek.any isBlank

def seesBreak (c : Cursor) : Bool := c.peek.any isBreak

def skip (c : Cursor) (n : Nat := 1) : Cursor :=
  { c with rest := c.rest.drop n, index := c.index + n, column := c.column + n }

/-- Passes a line break, which may be two characters, and tells what it stands for. -/
def takeBreak (c : Cursor) : List Char × Cursor :=
  let next (n : Nat) : Cursor :=
    { rest := c.rest.drop n, index := c.index + n, line := c.line + 1, column := 0 }
  match c.rest with
  | '\r' :: '\n' :: _ => (['\n'], next 2)
  | x :: _ =>
    if x = '\u2028' ∨ x = '\u2029' then ([x], next 1)
    else if isBreak x then (['\n'], next 1)
    else ([], c)
  | [] => ([], c)

/-- Passes all characters of a class, which holds no line breaks. -/
def takeWhile (c : Cursor) (p : Char → Bool) : List Char × Cursor :=
  let (taken, rest) := c.rest.span p
  let n := taken.length
  (taken, { c with rest, index := c.index + n, column := c.column + n })

def skipWhile (c : Cursor) (p : Char → Bool) : Cursor := (c.takeWhile p).2

def skipComment (c : Cursor) : Cursor :=
  if c.sees '#' then c.skipWhile (!isBreak ·) else c

def seesMark (c : Cursor) (x : Char) : Bool :=
  c.column == 0 && c.rest.take 3 == [x, x, x] && c.spaceAt 3

/-- Whether a line starts here with the mark of the start or the end of a document. -/
def atDocumentMark (c : Cursor) : Bool := c.seesMark '-' || c.seesMark '.'

end Cursor

end Vigil.Yaml
