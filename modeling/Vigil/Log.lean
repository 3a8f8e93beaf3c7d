import Vigil.Json.Value
import Vigil.Notice
import Vigil.Text.Letters

/-!
Which records an operator sees, and how they are written. A filter is a list of directives, each a
level, the name of a part of the program, or both; the longest name that fits a record decides.
-/

namespace Vigil

/-- The least weight of the records that are let through; without one there are none. -/
abbrev Threshold := Option Level

/-- Reads the name or the number of a threshold. -/
def Threshold.parse? (s : String) : Option Threshold :=
  let all : List (String × Threshold) := [
    ("off", none), ("error", some .error), ("warn", some .warn), ("info", some .info),
    ("debug", some .debug), ("trace", some .trace)]
  match Text.number? 10 s.toList with
  | some n => (all[n]?).map (·.2)
  | none => all.lookup s.toLower

structure Directive where
  /-- How the names of the parts it is for start. -/
  part : Option String := none
  threshold : Threshold := some .trace
  /-- Whether it is only for records inside named spans; there are none of them. -/
  inSpan : Bool := false
deriving DecidableEq, Repr

/-- Why a directive can not be used. -/
inductive DirectiveError where
  | malformed
  | unknownLevel
deriving DecidableEq, Repr

def DirectiveError.text : DirectiveError → String
  | malformed => "invalid filter directive"
  | unknownLevel =>
    "error parsing level filter: expected one of \"off\", \"error\", \"warn\", " ++
      "\"info\", \"debug\", \"trace\", or a number 0-5"

namespace Directive

/-- The threshold behind an equals sign; everything is let through if nothing stands there. -/
def readThreshold (s : List Char) : Except DirectiveError Threshold :=
  if s.isEmpty then .ok (some .trace)
  else
    match Threshold.parse? (String.ofList s) with
    | some t => .ok t
    | none => .error .unknownLevel

/-- Reads what follows the opening bracket of a span. -/
def readSpan (part : Option String) (s : List Char) : Except DirectiveError Directive :=
  match (s.dropWhile (· ≠ ']')).drop 1 with
  | [] =>
    if s.contains ']' then .ok { part, inSpan := true } else .error .malformed
  | '=' :: level => do return { part, inSpan := true, threshold := ← readThreshold level }
  | _ => .error .malformed

def startsName (c : Char) : Bool := c.isAlphanum || c.val ≥ 0x80 || "-:_".contains c

def parse (text : String) : Except DirectiveError Directive :=
  let text := text.trimAscii.toString
  let s := text.toList
  match s with
  | [] => .error .malformed
  | '[' :: rest => readSpan none rest
  | c :: _ =>
    if !startsName c then .error .malformed
    else
      let name := s.takeWhile fun c => c ≠ '=' ∧ c ≠ '['
      let part := some (String.ofList name)
      match s.drop name.length with
      | '=' :: level => do return { part, threshold := ← readThreshold level }
      | '[' :: rest => readSpan part rest
      | _ =>
        match Threshold.parse? text with
        | some threshold => .ok { threshold }
        | none => .ok { part }

/-- How particular a directive is. -/
def weight (d : Directive) : Nat :=
  match d.part with
  | some name => name.utf8ByteSize + 1
  | none => 0

def fits (d : Directive) (origin : String) : Bool :=
  !d.inSpan && d.part.all fun name => origin.startsWith name

end Directive

/-- The directives of a filter; of two for the same part the last one counts. -/
abbrev LogFilter := List Directive

namespace LogFilter

/-- Without any directive, only failures are let through. -/
def ofDirectives (ds : List Directive) : LogFilter :=
  if ds.isEmpty then [{ threshold := some .error }] else ds

def words (s : String) : List String := (s.splitOn ",").filter (· ≠ "")

/-- Reads a filter of which every directive has to be usable. -/
def parse? (s : String) : Option LogFilter :=
  (((words s).mapM Directive.parse).toOption).map ofDirectives

/-- Reads a filter; also tells which directives are left out, and why. -/
def parseUsable (s : String) : LogFilter × List String :=
  let read := (words s).map fun word => (word, Directive.parse word)
  let usable := read.filterMap fun (_, d) => d.toOption
  let complaints := read.filterMap fun (word, d) =>
    match d with
    | .ok _ => none
    | .error e => some ("ignoring `" ++ word ++ "`: " ++ e.text)
  (ofDirectives usable, complaints)

/-- The directive that decides about a part of the program. -/
def deciding? (f : LogFilter) (origin : String) : Option Directive :=
  (f.filter (·.fits origin)).foldl
    (fun best d =>
      match best with
      | some b => if b.weight ≤ d.weight then some d else best
      | none => some d)
    none

def allows (f : LogFilter) (n : Notice) : Bool :=
  match f.deciding? n.origin with
  | some d => d.threshold.any fun least => least.rank ≤ n.level.rank
  | none => false

end LogFilter

/-- How records are written. -/
structure LogStyle where
  filter : LogFilter
  json : Bool

namespace LogStyle

def line (style : LogStyle) (n : Notice) : String :=
  if style.json then
    String.ofList (Json.record [
      ("level", .text n.level.text),
      ("fields", .record [("message", .text n.text)]),
      ("target", .text n.origin)]).render
  else n.level.text ++ " " ++ n.origin ++ ": " ++ n.text

/-- The lines of the records that are let through. -/
def lines (style : LogStyle) (ns : List Notice) : List String :=
  (ns.filter style.filter.allows).map style.line

end LogStyle

end Vigil
