import Vigil.Outgoing
import Vigil.Proofs.RoundTrip
import Vigil.Proofs.Session
import Vigil.Proofs.Verdict

/-!
A ping between two nodes. The request that a follower writes is read by the leader as the ping that
it carries, and from the response the follower learns exactly what the leader answered: it tries
again where the leader failed, and gives the leader up where it was turned away.
-/

namespace Vigil

open Http (Request Response)

variable {ω κ σ : Type}

/-- The request that carries a ping to a host, as it arrives there. -/
def PingRequest.posted (q : PingRequest) (host : String) : Request where
  method := "POST"
  path := Route.leaderPing.path
  headers := [
    ("host", host), ("content-type", "application/json"),
    ("content-length", toString q.toJson.toText.utf8ByteSize), ("connection", "close")]
  body := q.toJson.toText.toUTF8

/-- What a response means to the one who asked, where it comes over whole and in time. -/
def Http.Response.arrived (r : Response) : Exchange :=
  .answered r.status (.ok (Text.letters r.body.toUTF8))

/-- An answer as the one hears it who sent the ping to some node. -/
def heardFrom (target : Node) : Except PingError Unit → Except TransportError Unit
  | .ok () => .ok ()
  | .error (.rejected rejection) => .error (.rejected target.text rejection)
  | .error (.internal message) => .error (.remote target.text message)

/-- What came of a ping to some node says what was answered there, no more and no less. -/
structure Understood (target : Node) (answer : Except PingError Unit)
    (result : Except TransportError Unit) : Prop where
  acknowledged : result = .ok () ↔ answer = .ok ()
  rejected : ∀ rejection, result = .error (.rejected target.text rejection) ↔
    answer = .error (.rejected rejection)
  failed : ∀ message, result = .error (.remote target.text message) ↔
    answer = .error (.internal message)

/-- A session tries a leader again that failed to answer, as long as an attempt is left, and gives
a leader up at once that rejected its ping. -/
structure Detector.Heeds (d : Detector κ) (p : PingerId) (q : PingRequest) (target : Node)
    (answer : Except PingError Unit) (result : Except TransportError Unit) : Prop where
  retries : ∀ message, answer = .error (.internal message) →
    d.session.retryCount + 1 < d.settings.pingRetries →
    (d.pinged p q result).1 =
        { d with session := { d.session with retryCount := d.session.retryCount + 1 } } ∧
      requests (d.pinged p q result).2 = [.ping p q]
  usedUp : ∀ message, answer = .error (.internal message) →
    ¬ d.session.retryCount + 1 < d.settings.pingRetries →
    requests (d.pinged p q result).2 = [.dispatch d.listeners
      ⟨q.leader, some (.remote target.text message), usedUpReason d.settings⟩]
  bypasses : ∀ rejection, answer = .error (.rejected rejection) →
    (d.pinged p q result).1.session.leader = none ∧
      requests (d.pinged p q result).2 = [.dispatch d.listeners
        ⟨q.leader, some (.rejected target.text rejection), rejection.reason⟩]

theorem Text.letters_toUTF8 (s : String) : letters s.toUTF8 = s.toList.map some := by
  have valid : String.fromUTF8? s.toUTF8 = some s := dif_pos s.isValidUTF8
  rw [letters, valid]

theorem Text.toLower_eq (s : String) : s.toLower = String.ofList (s.toList.map Char.toLower) :=
  String.map_eq_internal

namespace Json.Conveys

variable {α : Type} {read : Json → Read α} {v : Json} {a : α}

theorem parse_letters (h : Conveys read v a) :
    (parse (Text.letters v.toText.toUTF8)).1 = v := by
  rw [Text.letters_toUTF8, toText, String.toList_ofList, parse_spells h.readable h.spells]

theorem bodyAs_letters (h : Conveys read v a) :
    Exchange.bodyAs read (.ok (Text.letters v.toText.toUTF8)) = .ok a := by
  have text : readText read (Text.letters v.toText.toUTF8) = .ok a := by
    rw [Text.letters_toUTF8]
    exact h.ofText_toText
  simp only [Exchange.bodyAs, text]
  rfl

end Json.Conveys

namespace Http

theorem isTokenChar_eq :
    isTokenChar = fun c => c.isAlphanum || "!#$%&'*+-.^_`|~".toList.contains c := by
  funext c
  rw [isTokenChar, String.contains_char_eq]
  simp

theorem MediaType.parse?_json :
    parse? "application/json" = some ⟨"application", "json", none⟩ := by
  have ascii : "application/json".any (· > '~') = false := by
    rw [String.any, String.contains_prop_eq]
    rfl
  have type : "application/json".toList.span isTokenChar =
      ("application".toList, '/' :: "json".toList) := by
    rw [isTokenChar_eq]
    rfl
  have subtype : "json".toList.span isTokenChar = ("json".toList, []) := by
    rw [isTokenChar_eq]
    rfl
  simp only [parse?, ascii, type, subtype]
  rfl

end Http

theorem readPing_eq {r : Request} {q : PingRequest} (json : r.hasJson = true)
    (small : r.body.size ≤ bodyLimit)
    (reads : PingRequest.ofJson (Json.parse (Text.letters r.body)).1 = .ok q) :
    readPing r = .ok q := by
  have fits : ¬ r.body.size > bodyLimit := Nat.not_lt.mpr small
  simp only [readPing, json, fits, reads, Bool.not_true, Bool.false_eq_true, if_false]

theorem demand_ping {r : Request} {q : PingRequest} (path : r.path = Route.leaderPing.path)
    (method : r.method = "POST") (reads : readPing r = .ok q) : demand r = .ping q := by
  have route : Route.ofPath? r.path = some .leaderPing := by
    rw [path]
    rfl
  have served : r.method ∈ Route.leaderPing.methods := by
    rw [method]
    exact List.mem_singleton.mpr rfl
  simp only [demand, route, served, reads, not_true, if_false]

namespace PingRequest

theorem posted_text (q : PingRequest) (host target : String) (limit : Duration) :
    OutgoingCall.text host target (.ping q limit) =
      Http.messageText ("POST " ++ target ++ " HTTP/1.1") (q.posted host).headers
        q.toJson.toText :=
  rfl

theorem posted_hasJson (q : PingRequest) (host : String) : (q.posted host).hasJson = true := by
  have type : Http.header? (q.posted host).headers "content-type" = some "application/json" := by
    have other : ("host".toLower == "content-type") = false := by
      rw [Text.toLower_eq]
      decide
    have same : ("content-type".toLower == "content-type") = true := by
      rw [Text.toLower_eq]
      decide
    simp only [posted, Http.header?, List.find?, other, same, Option.map_some]
  rw [Request.hasJson, type, Option.any_some, Http.MediaType.parse?_json]
  rfl

theorem demand_posted {q : PingRequest} (fits : q.toJson.toText.utf8ByteSize ≤ bodyLimit)
    (host : String) : demand (q.posted host) = .ping q := by
  have small : (q.posted host).body.size ≤ bodyLimit := by
    have size (s : String) : s.toUTF8.size = s.utf8ByteSize := rfl
    rw [posted, size]
    exact fits
  have reads : ofJson (Json.parse (Text.letters (q.posted host).body)).1 = .ok q := by
    rw [posted, q.conveys.parse_letters, q.conveys.reads]
  exact demand_ping rfl rfl (readPing_eq (q.posted_hasJson host) small reads)

end PingRequest

theorem Server.serve_posted {q : PingRequest} (fits : q.toJson.toText.utf8ByteSize ≤ bodyLimit)
    (s : Server ω) (who : ω) (host : String) {answer : Except PingError Unit}
    (asked : (s.leader.ask q who).2 = some answer) :
    (s.serve who (q.posted host)).2 = pingResponse answer := by
  have method : (q.posted host).method = "POST" := rfl
  have whole : "POST" ≠ "HEAD" := by decide
  rw [serve, PingRequest.demand_posted fits]
  simp only [perform, method, whole, if_false, asked, Option.getD_some]

theorem Connections.ping_arrived (c : Connections κ) (target : Node) (limit : Duration)
    (answer : Except PingError Unit) :
    (c.ping target limit (pingResponse answer).arrived).result =
      heardFrom target answer := by
  rcases answer with (rejection | message) | _
  · have body := (RejectionBody.conveys ⟨rejection⟩).bodyAs_letters
    have failed : Http.isSuccess 409 = false := rfl
    simp only [ping, pingResponse, Response.arrived, Response.json, PingError.status,
      PingError.body, failed, body, Bool.false_eq_true, if_false, if_true]
    rfl
  · have body := (ErrorBody.conveys ⟨message⟩).bodyAs_letters
    have failed : Http.isSuccess 500 = false := rfl
    have other : ¬ 500 = 409 := by decide
    simp only [ping, pingResponse, Response.arrived, Response.json, PingError.status,
      PingError.body, failed, body, other, Bool.false_eq_true, if_false]
    rfl
  · simp only [ping, pingResponse, Response.arrived, Response.json]
    have success : Http.isSuccess 200 = true := rfl
    rw [if_pos success, gain]
    split <;> rfl

theorem understood_heardFrom (target : Node) (answer : Except PingError Unit) :
    Understood target answer (heardFrom target answer) := by
  cases answer with
  | ok _ => constructor <;> simp [heardFrom]
  | error e => cases e <;> constructor <;> simp [heardFrom]

theorem Detector.Sound.heeds {d : Detector κ} (s : d.Sound) {p : PingerId} {q : PingRequest}
    (live : d.session.pinger = some p) (watched : d.session.leader = some q.leader)
    (target : Node) (answer : Except PingError Unit) :
    d.Heeds p q target answer (heardFrom target answer) := by
  have owns : d.owns p q.leader = true := (s.owns_iff p q.leader).mpr ⟨live, watched⟩
  obtain ⟨runs, _⟩ := owned_running owns
  constructor
  case retries =>
    intro message failed left
    subst failed
    simp only [heardFrom, pinged, runs, not_true, if_false, pingFailed, owns, attemptFailed,
      left, Bool.not_true, Bool.false_eq_true, if_true]
    exact ⟨trivial, rfl⟩
  case usedUp =>
    intro message failed last
    subst failed
    have told := s.notifies.attemptsUsedUp p q (.remote target.text message) owns
      (by intro n m same; cases same) (by intro n rejection same; cases same) last
    simp only [heardFrom, told]
    simp [failing, Effect.isRequest]
  case bypasses =>
    intro rejection turned
    subst turned
    have told := s.notifies.rejected p q target.text rejection owns
    simp only [heardFrom, told]
    simp [failing, endSession_eq, Effect.isRequest]

/-- A ping that fits is read by the leader as it was written, and answered in every state; whatever
the answer is, the follower understands it and heeds it. -/
theorem wire_agrees (s : Server ω) (who : ω) (q : PingRequest) (host : String)
    (fits : q.toJson.toText.utf8ByteSize ≤ bodyLimit) :
    (∀ target limit, OutgoingCall.text host target (.ping q limit) =
      Http.messageText ("POST " ++ target ++ " HTTP/1.1") (q.posted host).headers
        q.toJson.toText) ∧
    demand (q.posted host) = .ping q ∧
    (∃ answer, (s.leader.ask q who).2 = some answer ∧
      (s.serve who (q.posted host)).2 = pingResponse answer) ∧
    ∀ (answer : Except PingError Unit) (c : Connections κ) (target : Node) (limit : Duration),
      let result := (c.ping target limit (pingResponse answer).arrived).result
      Understood target answer result ∧
      ∀ (d : Detector σ) (p : PingerId), d.Sound → d.session.pinger = some p →
        d.session.leader = some q.leader → d.Heeds p q target answer result := by
  refine ⟨q.posted_text host, PingRequest.demand_posted fits host, ?_, ?_⟩
  · have asked := s.leader.ask_answer q who
    exact ⟨_, asked, s.serve_posted fits who host asked⟩
  · intro answer c target limit result
    have heard : result = heardFrom target answer := c.ping_arrived target limit answer
    rw [heard]
    exact ⟨understood_heardFrom target answer, fun d p sound live watched =>
      sound.heeds live watched target answer⟩

/-- A leader turns away a follower that it does not know, and whose id has to be escaped. -/
theorem quoted_stranger_given_up :
    let leader : Node := ⟨"a", "1", "http://a"⟩
    let stranger : Node := ⟨"b\"\n", "1", "http://b"⟩
    let q : PingRequest := ⟨stranger, leader, some "c"⟩
    let alone := (ClusterState.initial "c" leader).withLeader (some "a")
    let s : Server Unit := ⟨leader, { clusterName := "c", queue := { applied := alone } }, none⟩
    let d : Detector Unit := ((Detector.create {} "c").1.restart leader "elected").1
    let response := (s.serve () (q.posted "a")).2
    let result := (Connections.ping ({} : Connections Unit) leader ⟨0⟩ response.arrived).result
    let rejection := Rejection.unknownToLeader stranger.text
    q.toJson.toText.utf8ByteSize ≤ bodyLimit ∧ d.Sound ∧
      result = .error (.rejected leader.text rejection) ∧
      requests (d.pinged 0 q result).2 = [.dispatch [] ⟨leader,
        some (.rejected leader.text rejection), "do not exist on leader, act as leader failure"⟩] := by
  intro leader stranger q alone s d response result rejection
  have fits : q.toJson.toText.utf8ByteSize ≤ bodyLimit := by decide +kernel
  have sound : d.Sound :=
    (Detector.restart_outcome _ leader "elected").sound (Detector.create_sound {} "c")
  obtain ⟨_, _, ⟨answer, asked, served⟩, understood⟩ := wire_agrees s () q "a" fits
  have turned : answer = .error (.rejected rejection) := by
    have law : (s.leader.ask q ()).2 = some (.error (.rejected rejection)) := rfl
    exact Option.some.inj (asked.symm.trans law)
  obtain ⟨learned, heeds⟩ := understood answer ({} : Connections Unit) leader ⟨0⟩
  have same : result = _ := congrArg (fun r : Response =>
    (Connections.ping ({} : Connections Unit) leader ⟨0⟩ r.arrived).result) served
  rw [same]
  have told := (heeds d 0 sound rfl rfl).bypasses rejection turned
  exact ⟨fits, sound, (learned.rejected rejection).mpr turned, told.2⟩

end Vigil
