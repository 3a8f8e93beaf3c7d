import Std.Async.DNS
import Std.Async.Signal
import Std.Async.TCP
import Std.Async.Timer
import Std.Sync.Mutex
import Vigil.Program

/-!
The program: it reads its configuration, serves requests, makes the calls that its node asks for,
and stops at a signal. All that is decided is decided elsewhere.
-/

namespace Vigil

open Std.Async (Async)
open Std.Async.TCP (Socket.Client Socket.Server)

/-- Writes lines where they can be seen at once. -/
def write (lines : List String) : IO Unit := do
  lines.forM IO.println
  (← IO.getStdout).flush

/-- A program that is under way. -/
structure Running where
  program : Std.Mutex Program
  /-- The moment of the start, in milliseconds. -/
  origin : Nat
  /-- How many requests are under way. -/
  busy : IO.Ref Nat

/-- The addresses of a host. -/
def addresses (host : String) (port : UInt16) : Async (List Std.Net.SocketAddress) := do
  let found ← Std.Async.DNS.getAddrInfo host (toString port)
  return found.toList.map fun
    | .v4 addr => .v4 { addr, port }
    | .v6 addr => .v6 { addr, port }

/-- Tries one thing after the other until one succeeds. -/
def firstToSucceed {α β : Type} (act : α → Async β) : List α → Async β
  | [] => throw (IO.userError "no address")
  | [x] => act x
  | x :: rest => do try act x catch _ => firstToSucceed act rest

def pause (time : Duration) : Async Unit :=
  Std.Async.sleep (.ofNat time.millis)

/-- Receives until what has arrived is an answer. -/
def receiveAnswer (client : Socket.Client) (arrived : IO.Ref ByteArray) : Async Exchange := do
  repeat
    let more ← client.recv? 65536
    arrived.modify (· ++ more.getD .empty)
    if let some exchange := Exchange.ofBytes? (← arrived.get) more.isNone then
      return exchange
  return .timedOut

/-- Sends a call and waits for the answer. -/
def converse (call : OutgoingCall) (arrived : IO.Ref ByteArray) : Async Exchange := do
  let some endpoint := Http.Url.endpoint? call.url | return .failed "builder error"
  let client? ← try
      let client ← firstToSucceed
        (fun address => do
          let client ← Socket.Client.mk
          client.connect address
          return client)
        (← addresses endpoint.host endpoint.port)
      pure (some client)
    catch _ => pure none
  let some client := client? | return .unreachable "error sending request"
  try
    client.send (call.text endpoint.host endpoint.target).toUTF8
    receiveAnswer client arrived
  catch _ => return .failed "error sending request"

/-- Makes a call, and waits for its answer only so long. -/
def exchange (call : OutgoingCall) (limit : Duration) : Async Exchange := do
  let arrived ← IO.mkRef ByteArray.empty
  let late : Async (Option Exchange) := do
    pause (call.limit limit)
    return none
  match ← Async.race (some <$> converse call arrived) late with
  | some exchange => return exchange
  | none => return .ofLateBytes (← arrived.get)

namespace Running

/-- Lets the node do something, writes what is logged of it, and makes the calls that follow. -/
partial def act {α : Type} (r : Running) (f : Process → Process × α) : Async α := do
  let moment := (← IO.monoMsNow) - r.origin
  let (value, calls, limit) ← r.program.atomically do
    let p ← get
    let (node, value) := f (p.node.reach moment)
    let (node, notices, calls) := node.harvest
    set { p with node }
    write (p.style.lines notices)
    return (value, calls, p.config.cluster.connectTimeout)
  for (key, call) in calls do
    Std.Async.background do
      let e ← exchange call limit
      r.act fun p => (p.complete limit key e call, ())
  return value

/-- Receives a request, of which some bytes have arrived, and answers it. The bytes behind it are
left if another one may follow. -/
def attend (r : Running) (client : Socket.Client) (arrived : ByteArray) :
    Async (Option ByteArray) := do
  let mut bytes := arrived
  repeat
    match Http.Delivery.read bodyLimit bytes with
    | .whole delivery rest =>
      let response ← r.act fun p => p.serve delivery.request
      client.send (response.text delivery.persists).toUTF8
      return if delivery.persists then some rest else none
    | .malformed =>
      client.send (({ status := 400 } : Http.Response).text false).toUTF8
      return none
    | .incomplete =>
      let some more ← client.recv? 65536 | return none
      bytes := bytes ++ more
  return none

/-- Answers the requests of a connection, one after the other. -/
def host (r : Running) (client : Socket.Client) : Async Unit := do
  let mut bytes := ByteArray.empty
  repeat
    if bytes.isEmpty then
      let some more ← client.recv? 65536 | return
      bytes := more
    r.busy.modify (· + 1)
    let rest ← try r.attend client bytes finally r.busy.modify (· - 1)
    match rest with
    | some rest => bytes := rest
    | none => break
  client.shutdown

/-- Takes connections. -/
def accept (r : Running) (server : Socket.Server) : Async Unit := do
  repeat
    let client ← server.accept
    Std.Async.background (r.host client)

/-- Lets time pass for the node. -/
def live (r : Running) : Async Unit := do
  repeat
    pause (.ofMillis 5)
    r.act fun p => (p, ())

/-- Waits for the requests that are under way; tells whether they take longer than some
milliseconds. -/
def finish (r : Running) (limit : Nat) : Async Bool := do
  let deadline := (← IO.monoMsNow) + limit
  while (← r.busy.get) > 0 do
    if (← IO.monoMsNow) ≥ deadline then
      return true
    pause (.ofMillis 1)
  return false

end Running

/-- Waits for a signal to stop. -/
def signal : Async String := do
  let wait (kind : Std.Async.Signal) (name : String) : Async String := do
    let waiter ← Std.Async.Signal.Waiter.mk kind false
    let _ ← Std.Async.await (← waiter.wait)
    return name
  Async.race (wait .sigint "SIGINT") (wait .sigterm "SIGTERM")

/-- The message of an error that binding to an address came to. -/
def bindMessage : IO.Error → String
  | .resourceBusy .. => BindError.taken.text
  | .unsupportedOperation .. | .noSuchThing .. => BindError.elsewhere.text
  | e => toString e

/-- Waits for connections at an address. -/
def listen (address : String) : Async (Except String Socket.Server) := do
  match BindAddress.parse address with
  | .error e => return .error e.text
  | .ok a =>
    let found ← try some <$> addresses a.host a.port catch _ => pure none
    let some found := found
      | return .error (if a.isNamed then BindError.hostNotFound else BindError.noHostName).text
    try
      let server ← firstToSucceed
        (fun address => do
          let server ← Socket.Server.mk
          server.bind address
          server.listen 1024
          return server)
        found
      return .ok server
    catch e => return .error (bindMessage e)

/-- Runs a program to its end. -/
def Program.run (p : Program) : Async Ending := do
  match ← listen p.address with
  | .error message => return .failure message
  | .ok server =>
    write p.listening
    let r : Running := {
      program := ← Std.Mutex.new p, origin := ← IO.monoMsNow, busy := ← IO.mkRef 0 }
    r.act fun node => (node.discover, ())
    Std.Async.background (r.accept server)
    Std.Async.background r.live
    write (p.signalled (← signal))
    let overdue ← r.finish p.patience.millis
    r.program.atomically do write ((← get).stop overdue)
    return {}

def Ending.finish (e : Ending) : IO UInt32 := do
  IO.print e.output
  IO.eprint e.errors
  return e.status

end Vigil

open Vigil in
def main (arguments : List String) : IO UInt32 := do
  match CommandLine.read arguments with
  | .error e => (Ending.ofUsage e).finish
  | .ok .help => Ending.finish { output := CommandLine.helpText }
  | .ok .version => Ending.finish { output := CommandLine.versionText }
  | .ok (.run path bind) =>
    let file ← try some <$> IO.FS.readBinFile path catch _ => pure none
    let filter ← IO.getEnv "RUST_LOG"
    let start := Program.start path file bind filter (← IO.getRandomBytes 16).toList
    write start.log
    start.complaints.forM IO.eprintln
    match start.result with
    | .error e => e.finish
    | .ok p => (← p.run.block).finish
