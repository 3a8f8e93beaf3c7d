import Vigil.Proofs.Cardinality
import Vigil.Proofs.Conversation

/-!
Which requests are pings. A request reaches the leader's judgement if it passes all that stands
before it: its path, its method, the type and the size of its body, and what the body says. Whatever
fails one of these is answered without the leader, and is the fault of the one who asked.
-/

namespace Vigil

open Http (Request Response MediaType)

/-- A request that carries a ping. -/
structure Http.Request.Carries (r : Request) (q : PingRequest) : Prop where
  path : r.path = "/internal/leader_ping"
  method : r.method = "POST"
  type : ∃ header media, Http.header? r.headers "content-type" = some header ∧
    MediaType.parse? header = some media ∧ media.type = "application" ∧
    (media.subtype = "json" ∨ media.suffix = some "json")
  size : r.body.size ≤ 2 * 1024 * 1024
  reads : PingRequest.ofJson (Json.parse (Text.letters r.body)).1 = .ok q

theorem Http.Request.hasJson_iff (r : Request) : r.hasJson = true ↔
    ∃ header media, Http.header? r.headers "content-type" = some header ∧
      MediaType.parse? header = some media ∧ media.type = "application" ∧
      (media.subtype = "json" ∨ media.suffix = some "json") := by
  simp only [hasJson, Option.any_eq_true, MediaType.isJson, decide_eq_true_eq]
  constructor
  · rintro ⟨header, named, media, parsed, json⟩
    exact ⟨header, media, named, parsed, json⟩
  · rintro ⟨header, media, named, parsed, json⟩
    exact ⟨header, named, media, parsed, json⟩

theorem Route.ofPath?_leaderPing {path : String} :
    ofPath? path = some leaderPing ↔ path = "/internal/leader_ping" := by
  constructor
  · intro found
    have same : leaderPing.path = path := by simpa using List.find?_some found
    exact same.symm
  · rintro rfl
    rfl

theorem readPing_ok {r : Request} {q : PingRequest} : readPing r = .ok q ↔
    r.hasJson = true ∧ r.body.size ≤ bodyLimit ∧
      PingRequest.ofJson (Json.parse (Text.letters r.body)).1 = .ok q := by
  refine ⟨fun read => ?_, fun ⟨json, small, reads⟩ => readPing_eq json small reads⟩
  unfold readPing at read
  split at read
  · cases read
  · next json =>
    split at read
    · cases read
    · next small =>
      split at read
      · next ping reads =>
        obtain rfl := Except.ok.inj read
        exact ⟨by simpa using json, Nat.le_of_not_lt small, reads⟩
      · cases read
      · cases read

/-- Of all requests just those that carry a ping ask for one to be answered. -/
theorem demand_ping_iff {r : Request} {q : PingRequest} : demand r = .ping q ↔ r.Carries q := by
  constructor
  · intro asks
    unfold demand at asks
    cases found : Route.ofPath? r.path with
    | none => simp [found] at asks
    | some route =>
      simp only [found] at asks
      split at asks
      · cases asks
      · next served =>
        cases route with
        | health | metrics | identity => cases asks
        | leaderPing =>
          have method : r.method = "POST" := by simpa [Route.methods] using served
          cases read : readPing r with
          | error response => simp [read] at asks
          | ok ping =>
            simp only [read, Demand.ping.injEq] at asks
            subst asks
            obtain ⟨json, small, reads⟩ := readPing_ok.mp read
            exact ⟨Route.ofPath?_leaderPing.mp found, method, r.hasJson_iff.mp json, small, reads⟩
  · intro carries
    exact demand_ping carries.path carries.method <|
      readPing_ok.mpr ⟨r.hasJson_iff.mpr carries.type, carries.size, carries.reads⟩

namespace Server

variable {ω : Type}

theorem countRequest_spares (s : Server ω) (r : Request) (status : Nat) :
    (s.countRequest r status).leader.queue = s.leader.queue ∧
      (s.countRequest r status).leader.notices = s.leader.notices ∧
      ∀ outcome, (s.countRequest r status).leader.metrics.get (.pingsHandled outcome) =
        s.leader.metrics.get (.pingsHandled outcome) := by
  unfold countRequest
  split
  · exact ⟨rfl, rfl, fun _ => rfl⟩
  · exact ⟨rfl, rfl, fun _ => by simp [Metrics.get_count]⟩

theorem perform_ping (s : Server ω) (who : ω) (q : PingRequest) :
    (s.perform who (.ping q)).1 = { s with leader := (s.leader.ask q who).1 } := rfl

/-- What does not ask for a ping leaves the leader out. -/
theorem perform_other (s : Server ω) (who : ω) {d : Demand} (other : ∀ q, d ≠ .ping q) :
    (s.perform who d).1 = s := by
  cases d with
  | ping q => exact absurd rfl (other q)
  | _ => rfl

theorem refused_status (s : Server ω) (who : ω) {r : Request} (other : ∀ q, demand r ≠ .ping q)
    (path : r.path = Route.leaderPing.path) :
    (s.perform who (demand r)).2.status ∈ [400, 405, 413, 415, 422] := by
  have found : Route.ofPath? r.path = some .leaderPing := Route.ofPath?_leaderPing.mpr path
  unfold demand at other ⊢
  simp only [found] at other ⊢
  split
  · simp [perform]
  · next served =>
    cases read : readPing r with
    | ok q => simp [served, read] at other
    | error response =>
      have faults : [400, 413, 415, 422] ⊆ [400, 405, 413, 415, 422] := by decide
      exact faults (readPing_status read)

/-- A node takes up a ping, once, for just those requests that carry one, and its answer is what the
response says. All other requests leave its queue, its records and its count of pings as they are;
those for the path of pings are answered that they are at fault. -/
theorem pings_taken_up (s : Server ω) (who : ω) (r : Request) :
    let s' := (s.serve who r).1
    let response := (s.serve who r).2
    (∀ q, demand r = .ping q ↔ r.Carries q) ∧
      (∀ q, r.Carries q → ∃ answer, (s.leader.ask q who).2 = some answer ∧
        s' = { s with leader := (s.leader.ask q who).1 }.countRequest r response.status ∧
        (answer = .ok () → response = .json 200 "\x7b\x7d") ∧
        (∀ rejection, answer = .error (.rejected rejection) →
          response = .json 409 (RejectionBody.toJson ⟨rejection⟩).toText) ∧
        ∀ message, answer = .error (.internal message) →
          response = .json 500 (ErrorBody.toJson ⟨message⟩).toText) ∧
      ((∀ q, ¬ r.Carries q) →
        s' = s.countRequest r response.status ∧ s'.leader.queue = s.leader.queue ∧
          s'.leader.notices = s.leader.notices ∧
          (∀ outcome, s'.leader.metrics.get (.pingsHandled outcome) =
            s.leader.metrics.get (.pingsHandled outcome)) ∧
          (r.path = "/internal/leader_ping" →
            response.status ∈ [400, 405, 413, 415, 422])) := by
  intro s' response
  refine ⟨fun q => demand_ping_iff, fun q carries => ?_, fun none => ?_⟩
  · have asks : demand r = .ping q := demand_ping_iff.mpr carries
    obtain ⟨answer, asked⟩ : ∃ answer, (s.leader.ask q who).2 = some answer :=
      ⟨_, s.leader.ask_answer q who⟩
    have whole : ¬ r.method = "HEAD" := by
      rw [carries.method]
      decide
    have served : response = pingResponse answer := by
      simp only [response, serve, whole, if_false, asks, perform, asked, Option.getD_some]
    have taken : s' =
        { s with leader := (s.leader.ask q who).1 }.countRequest r response.status := by
      rw [← s.perform_ping who q, ← asks]
      exact s.serve_eq who r
    refine ⟨answer, asked, taken, ?_, ?_, ?_⟩
    · rintro rfl
      exact served
    · rintro rejection rfl
      exact served
    · rintro message rfl
      exact served
  · have other (q : PingRequest) : demand r ≠ .ping q := mt demand_ping_iff.mp (none q)
    have alone : s' = s.countRequest r response.status := by
      rw [← s.perform_other who other]
      exact s.serve_eq who r
    obtain ⟨queue, notices, handled⟩ := s.countRequest_spares r response.status
    rw [← alone] at queue notices handled
    refine ⟨alone, queue, notices, handled, fun path => ?_⟩
    have status : response.status = (s.perform who (demand r)).2.status := s.serve_status who r
    rw [status]
    exact s.refused_status who other path

/-- The ping of a member is acknowledged; one that differs from it in its method is refused. -/
theorem posted_ping_acknowledged :
    let leader : Node := ⟨"a", "1", "http://a"⟩
    let follower : Node := ⟨"b", "1", "http://b"⟩
    let q : PingRequest := ⟨follower, leader, some "c"⟩
    let state := ((ClusterState.initial "c" leader).add follower).withLeader (some "a")
    let s : Server Unit := ⟨leader, { clusterName := "c", queue := { applied := state } }, none⟩
    let r := q.posted "a"
    let read : Request := { r with method := "GET" }
    r.Carries q ∧ (s.serve () r).2 = .json 200 "\x7b\x7d" ∧
      (∀ q, ¬ read.Carries q) ∧ (s.serve () read).2.status ∈ [400, 405, 413, 415, 422] := by
  intro leader follower q state s r read
  have fits : q.toJson.toText.utf8ByteSize ≤ bodyLimit := by decide +kernel
  have carries : r.Carries q := demand_ping_iff.mp (PingRequest.demand_posted fits "a")
  have none (q : PingRequest) : ¬ read.Carries q := fun carries =>
    absurd carries.method (by decide)
  obtain ⟨_, taken, _⟩ := s.pings_taken_up () r
  obtain ⟨_, _, refused⟩ := s.pings_taken_up () read
  obtain ⟨answer, asked, _, acknowledged, _⟩ := taken q carries
  have member : (s.leader.ask q ()).2 = some (.ok ()) := by decide
  obtain ⟨_, _, _, _, fault⟩ := refused none
  exact ⟨carries, acknowledged (Option.some.inj (asked.symm.trans member)), none, fault rfl⟩

end Server

end Vigil
