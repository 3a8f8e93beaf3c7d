import Vigil.CommandLine
import Vigil.Config.Document
import Vigil.Log
import Vigil.Process

/-!
A program from its command line to its end: what it reads, writes and logs, and the status that it
ends with.
-/

namespace Vigil

/-- What a program that has ended leaves behind. -/
structure Ending where
  status : UInt32 := 0
  output : String := ""
  errors : String := ""
deriving DecidableEq, Repr

namespace Ending

/-- The end of a program that can not go on. -/
def failure (message : String) : Ending := { status := 1, errors := "Error: " ++ message ++ "\n" }

def ofUsage (e : UsageError) : Ending := { status := 2, errors := e.text }

end Ending

/-- Why nothing is bound to an address. -/
inductive BindError where
  | noPort
  | badPort
  /-- No host has such a name. -/
  | noHostName
  /-- Nobody can be asked which host it is. -/
  | hostNotFound
  | taken
  /-- It is not an address of this machine. -/
  | elsewhere
deriving DecidableEq, Repr

def BindError.text : BindError → String
  | noPort => "invalid socket address"
  | badPort => "invalid port value"
  | noHostName => "failed to lookup address information: Name or service not known"
  | hostNotFound => "failed to lookup address information: Temporary failure in name resolution"
  | taken => "Address already in use (os error 98)"
  | elsewhere => "Cannot assign requested address (os error 99)"

/-- An address to bind to: a host and a port. -/
structure BindAddress where
  host : String
  port : UInt16
deriving DecidableEq, Repr

namespace BindAddress

/-- The port is what follows the last colon. A host with colons may stand in brackets. -/
def parse (s : String) : Except BindError BindAddress := do
  let after := s.toList.reverse.takeWhile (· ≠ ':')
  if after.length = s.length then throw .noPort
  let digits :=
    match after.reverse with
    | '+' :: digits => digits
    | digits => digits
  let some port := (Text.number? 10 digits).filter (· < 65536) | throw .badPort
  let host := s.toList.take (s.length - after.length - 1)
  let host :=
    match host with
    | '[' :: rest => if rest.getLast? = some ']' then rest.dropLast else host
    | host => host
  return ⟨String.ofList host, .ofNat port⟩

/-- Whether the host is a numeric address of four bytes. -/
def isDotted (a : BindAddress) : Bool :=
  Http.Url.isNumericAddress (Http.Url.parts '.' a.host.toList)

/-- Whether the host is a numeric address of eight groups. -/
def isGrouped (a : BindAddress) : Bool := Http.Url.isGroupedAddress a.host.toList

/-- Whether the host can be a name. -/
def isNamed (a : BindAddress) : Bool :=
  a.host != "" && a.host.toList.all fun c => c.isAlphanum || "-_.".contains c

end BindAddress

/-- A program that has a usable configuration. -/
structure Program where
  config : Config
  style : LogStyle
  /-- The address to bind to, as it is given. -/
  address : String
  node : Process

namespace Program

/-- How records are written; an operator's own filter counts, if it is usable, in place of the
configured one. -/
def logStyle (c : LoggingConfig) (filter : Option String) : LogStyle × List String :=
  let (filter, complaints) :=
    match filter.bind LogFilter.parse? with
    | some filter => (filter, [])
    | none => LogFilter.parseUsable c.level
  (⟨filter, c.format = "json"⟩, complaints)

/-- What the start of a program has come to, with the lines that it has logged and its complaints
about the filter of its log. -/
structure Start where
  log : List String := []
  complaints : List String := []
  result : Except Ending Program

/-- Starts a program with the configuration in a file, up to where it binds. -/
def start (path : String) (file : Option ByteArray) (bind filter : Option String)
    (randomBytes : List UInt8) : Start :=
  match Config.load file with
  | .error e => { result := .error (.failure e.text) }
  | .ok config =>
    let (style, complaints) := logStyle config.logging filter
    match config.validate with
    | .error e =>
      { log := style.lines [.configLoaded path], complaints, result := .error (.failure e.text) }
    | .ok () =>
      let identity := Node.fresh config.cluster.nodeId config.advertiseAddress randomBytes
      let (node, notices, _) := (Process.start config identity).harvest
      let ready := if config.observability.metrics then [Notice.metricsReady] else []
      let host := config.server.host ++ ":" ++ toString config.server.port
      let log := [.configLoaded path] ++ ready ++
        [.starting identity config.cluster.name] ++ notices
      { log := style.lines log, complaints
        result := .ok { config, style, address := bind.getD host, node } }

/-- What is logged once the address is bound. -/
def listening (p : Program) : List String := p.style.lines [.listening p.address]

/-- What is logged of a signal to stop. -/
def signalled (p : Program) (signal : String) : List String := p.style.lines [.signalled signal]

/-- How long a program that stops waits for requests that are under way. -/
def patience (p : Program) : Duration := .ofSeconds p.config.server.shutdownTimeout.toNat

/-- What is logged at the end; `overdue` says that requests were still under way. -/
def stop (p : Program) (overdue : Bool) : List String :=
  let (_, notices, _) := p.node.stop.harvest
  p.style.lines ((if overdue then [.stopOverdue p.patience] else []) ++ notices ++ [.stopped])

end Program

end Vigil
