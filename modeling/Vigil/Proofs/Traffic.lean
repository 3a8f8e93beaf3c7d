import Vigil.Exposition
import Vigil.Proofs.Endpoint
import Vigil.Proofs.Tally

/-!
The traffic of a server. Every request but those for the metrics is counted once, under its method,
its path and the status of its answer, however it is answered; and what is scraped are the counts of
the requests that were served before.
-/

namespace Vigil

open Http (Request Response)

variable {ω : Type}

namespace Series

def isRequest : Series → Bool
  | requests .. => true
  | _ => false

def isTime : Series → Bool
  | requestTimes .. => true
  | _ => false

end Series

theorem Series.line_requests (method label : String) (status k : Nat) :
    (requests method label status).line k =
      "leaderwatch_http_requests_total\x7bmethod=\"" ++ method ++ "\",path=\"" ++ label ++
        "\",status=\"" ++ toString status ++ "\"\x7d " ++ toString k := by
  have opened : "leaderwatch_http_requests_total\x7bmethod=\"" =
      "leaderwatch_http_requests_total" ++ "\x7b" ++ "method" ++ "=\"" := rfl
  have second : "\",path=\"" = "\"" ++ "," ++ "path" ++ "=\"" := rfl
  have third : "\",status=\"" = "\"" ++ "," ++ "status" ++ "=\"" := rfl
  have closed : "\"\x7d " = "\"" ++ "\x7d " := rfl
  have listed (a b c : String) : ",".intercalate [a, b, c] = a ++ "," ++ b ++ "," ++ c := rfl
  simp only [line, labels, counterName, family, List.map_cons, List.map_nil, Series.label, listed,
    opened, second, third, closed, String.append_assoc]

theorem Series.line_times (method label : String) (k : Nat) :
    (requestTimes method label).line k =
      "leaderwatch_http_request_duration_seconds_count\x7bmethod=\"" ++ method ++ "\",path=\"" ++
        label ++ "\"\x7d " ++ toString k := by
  have opened : "leaderwatch_http_request_duration_seconds_count\x7bmethod=\"" =
      "leaderwatch_http_request_duration_seconds" ++ "_count" ++ "\x7b" ++ "method" ++ "=\"" := rfl
  have second : "\",path=\"" = "\"" ++ "," ++ "path" ++ "=\"" := rfl
  have closed : "\"\x7d " = "\"" ++ "\x7d " := rfl
  have listed (a b : String) : ",".intercalate [a, b] = a ++ "," ++ b := rfl
  simp only [line, labels, counterName, family, List.map_cons, List.map_nil, Series.label, listed,
    opened, second, closed, String.append_assoc]

namespace Metrics

/-- Every series that was counted has one counter, which has moved. -/
structure Tidy (m : Metrics) : Prop where
  keys : (m.counts.map (·.1)).Nodup
  positive : ∀ e ∈ m.counts, 0 < e.2

theorem countEntry_nodup (s : Series) {es : List (Series × Nat)} (keys : (es.map (·.1)).Nodup) :
    ((countEntry s es).map (·.1)).Nodup := by
  induction es with
  | nil => simp [countEntry]
  | cons e es ih =>
    obtain ⟨k, n⟩ := e
    rw [List.map_cons, List.nodup_cons] at keys
    rw [countEntry]
    split
    · exact List.nodup_cons.mpr keys
    · next other =>
      refine List.nodup_cons.mpr ⟨fun again => ?_, ih keys.2⟩
      rcases (mem_countEntry s k es).mp again with same | there
      · exact other same
      · exact keys.1 there

theorem countEntry_positive (s : Series) {es : List (Series × Nat)} (positive : ∀ e ∈ es, 0 < e.2) :
    ∀ e ∈ countEntry s es, 0 < e.2 := by
  induction es with
  | nil => simp [countEntry]
  | cons e es ih =>
    obtain ⟨k, n⟩ := e
    rw [List.forall_mem_cons] at positive
    rw [countEntry]
    split
    · exact List.forall_mem_cons.mpr ⟨Nat.succ_pos n, positive.2⟩
    · exact List.forall_mem_cons.mpr ⟨positive.1, ih positive.2⟩

theorem Tidy.count {m : Metrics} (t : m.Tidy) (s : Series) : (m.count s).Tidy :=
  ⟨countEntry_nodup s t.keys, countEntry_positive s t.positive⟩

theorem Tidy.countAll {m : Metrics} (t : m.Tidy) (ss : List Series) : (m.countAll ss).Tidy := by
  induction ss generalizing m with
  | nil => exact t
  | cons s ss ih => exact ih (t.count s)

/-- A counter has an entry just if it has moved. -/
theorem Tidy.mem_counts {m : Metrics} (t : m.Tidy) {x : Series} {k : Nat} :
    (x, k) ∈ m.counts ↔ k = m.get x ∧ 0 < k := by
  have entry {n : Nat} (there : (x, n) ∈ m.counts) : m.get x = n := by
    obtain ⟨l₁, l₂, split⟩ := List.append_of_mem there
    have apart := t.keys
    rw [split, List.map_append, List.map_cons, List.nodup_append] at apart
    have found : m.counts.lookup x = some n :=
      List.lookup_eq_some_iff.mpr ⟨l₁, l₂, split, fun e he => by
        simpa using Ne.symm (apart.2.2 e.1 (List.mem_map_of_mem he) x List.mem_cons_self)⟩
    rw [get, found, Option.getD_some]
  constructor
  · exact fun there => ⟨(entry there).symm, t.positive _ there⟩
  · rintro ⟨rfl, moved⟩
    cases found : m.counts.lookup x with
    | none => simp [get, found] at moved
    | some n =>
      obtain ⟨l₁, l₂, split, _⟩ := List.lookup_eq_some_iff.mp found
      rw [get, found, split]
      exact List.mem_append_right _ List.mem_cons_self

/-- Whether a line of a scrape tells a count. Others are blank, or comments, or tell which times
were measured. -/
def tells (line : String) : Bool :=
  match line.toList with
  | [] | '#' :: _ => false
  | letters =>
    !"leaderwatch_http_request_duration_seconds\x7b".toList.isPrefixOf letters &&
      !"leaderwatch_http_request_duration_seconds_sum".toList.isPrefixOf letters

theorem tells_line (x : Series) (k : Nat) : tells (x.line k) = true := by
  cases x <;> simp only [tells, Series.line, Series.labels, Series.counterName, Series.family,
    String.append_assoc, String.toList_append] <;> rfl

/-- A text that tells some counts: of its lines those that tell a count are one for each series that
was counted. -/
def Exposes (m : Metrics) (body : String) : Prop :=
  ∃ lines : List String, body = String.join (lines.map (· ++ "\n")) ∧
    (lines.filter tells).Perm (m.counts.map fun (x, k) => x.line k)

/-- A recorder that writes one line for each counter tells the counts, whatever else it writes. -/
theorem exposes_lines (m : Metrics) (described : Bool) {more : List String}
    (silent : ∀ line ∈ more, tells line = false) :
    m.Exposes (String.join ((m.lines described ++ more).map (· ++ "\n"))) := by
  have comments (word : String) (what : Series → String) :
      (m.counts.map fun (s, _) => "#" ++ (word ++ s.family ++ " " ++ what s)).eraseDups.filter
        tells = [] := by
    rw [List.filter_eq_nil_iff]
    intro line there
    obtain ⟨e, _, rfl⟩ := List.mem_map.mp (List.mem_eraseDups.mp there)
    rw [tells, String.toList_append]
    exact Bool.false_ne_true
  have families := comments " TYPE " Series.type
  have help := comments " HELP " Series.help
  simp only [← String.append_assoc] at families help
  refine ⟨_, rfl, ?_⟩
  have none : more.filter tells = [] := List.filter_eq_nil_iff.mpr fun line there => by
    simp [silent line there]
  have series : (m.counts.map fun (s, k) => s.line k).filter tells =
      m.counts.map fun (s, k) => s.line k := by
    rw [List.filter_eq_self]
    intro line there
    obtain ⟨e, _, rfl⟩ := List.mem_map.mp there
    exact tells_line e.1 e.2
  rw [List.filter_append, none, List.append_nil]
  refine ((List.mergeSort_perm _ _).filter tells).trans ?_
  rw [List.filter_append, List.filter_append, series]
  have described : (if described then (m.counts.map fun (s, _) =>
      "# HELP " ++ s.family ++ " " ++ s.help).eraseDups else []).filter tells = [] := by
    cases described with
    | true => exact help
    | false => rfl
  have typed : (m.counts.map fun (s, _) => "# TYPE " ++ s.family ++ " " ++ s.type).eraseDups.filter
      tells = [] := families
  rw [described, typed]
  exact .refl _

end Metrics

theorem Route.label_eq (path : String) : label path =
    if path ∈ ["/health", "/metrics", "/internal/node", "/internal/leader_ping"] then path
    else "/other" := by
  have served : ["/health", "/metrics", "/internal/node", "/internal/leader_ping"] =
      all.map Route.path := rfl
  rw [label, served]
  cases found : ofPath? path with
  | none =>
    rw [if_neg]
    · rfl
    · intro there
      obtain ⟨route, known, rfl⟩ := List.mem_map.mp there
      simpa using List.find?_eq_none.mp found route known
  | some route =>
    have same : route.path = path := by simpa using List.find?_some found
    subst same
    exact (if_pos (List.mem_map_of_mem (List.mem_of_find?_eq_some found))).symm

namespace Server

/-- The series in which a request is counted that was answered with some status. -/
def counted (e : Request × Nat) : List Series :=
  if e.1.path = Route.metrics.path then []
  else [.requests e.1.method (Route.label e.1.path) e.2,
    .requestTimes e.1.method (Route.label e.1.path)]

/-- The requests that are served in a run, each with the status of its answer. -/
def log (s : Server ω) : List (Move ω) → List (Request × Nat)
  | [] => []
  | .serve who r :: moves => (r, (s.serve who r).2.status) :: log (s.serve who r).1 moves
  | .become queue frozen :: moves => log (s.step (.become queue frozen)) moves

/-- From one state of the counters to another, requests were counted in `requests`, one after the
other, and whatever else was counted is no request. -/
def Tallied (before : Metrics) (requests : List Series) (after : Metrics) : Prop :=
  ∃ all, after = before.countAll all ∧ all.filter Series.isHttp = requests

theorem Tallied.trans {a b c : Metrics} {xs ys : List Series} (h : Tallied a xs b)
    (h' : Tallied b ys c) : Tallied a (xs ++ ys) c := by
  obtain ⟨all, rfl, only⟩ := h
  obtain ⟨all', rfl, only'⟩ := h'
  exact ⟨all ++ all', (a.countAll_append all all').symm, by rw [List.filter_append, only, only']⟩

theorem countRequest_metrics (s : Server ω) (r : Request) (status : Nat) :
    (s.countRequest r status).leader.metrics = s.leader.metrics.countAll (counted (r, status)) := by
  unfold countRequest counted
  split <;> rfl

theorem serve_tallied (s : Server ω) (who : ω) (r : Request) :
    Tallied s.leader.metrics (counted (r, (s.serve who r).2.status))
      (s.serve who r).1.leader.metrics := by
  have performed : Tallied s.leader.metrics [] (s.perform who (demand r)).1.leader.metrics := by
    cases demand r with
    | ping q =>
      obtain ⟨outcomes, counted⟩ := s.leader.ask_metrics q who
      exact ⟨_, counted, List.filter_eq_nil_iff.mpr (by simp [Series.isHttp])⟩
    | _ => exact ⟨[], rfl, rfl⟩
  have own : (counted (r, (s.serve who r).2.status)).filter Series.isHttp =
      counted (r, (s.serve who r).2.status) := by
    unfold counted
    split <;> rfl
  refine performed.trans ⟨_, ?_, own⟩
  rw [s.serve_eq, countRequest_metrics]

theorem run_tallied (s : Server ω) (moves : List (Move ω)) :
    Tallied s.leader.metrics ((s.log moves).flatMap counted) (s.run moves).leader.metrics := by
  induction moves generalizing s with
  | nil => exact ⟨[], rfl, rfl⟩
  | cons m moves ih =>
    cases m with
    | serve who r => exact (s.serve_tallied who r).trans (ih _)
    | become queue frozen => exact ih (s.step (.become queue frozen))

/-- A request for the metrics, with whatever method, changes nothing. -/
theorem serve_metrics (s : Server ω) (who : ω) {r : Request} (path : r.path = "/metrics") :
    (s.serve who r).1 = s := by
  have other (q : PingRequest) : demand r ≠ .ping q := fun asks => by
    have elsewhere := (demand_ping_iff.mp asks).path
    rw [path] at elsewhere
    exact absurd elsewhere (by decide)
  rw [s.serve_eq, s.perform_other who other]
  exact if_pos path

/-- How often a series that counts requests moved in a run. -/
theorem Tallied.get {before after : Metrics} {requests : List Series}
    (h : Tallied before requests after) {x : Series} (http : x.isHttp = true) :
    after.get x = before.get x + requests.count x := by
  obtain ⟨all, rfl, rfl⟩ := h
  rw [Metrics.get_countAll, List.count_filter http]

theorem Tallied.total {before after : Metrics} {requests : List Series}
    (h : Tallied before requests after) {kind : Series → Bool}
    (http : ∀ x, kind x = true → x.isHttp = true) :
    after.total kind = before.total kind + requests.countP kind := by
  obtain ⟨all, rfl, rfl⟩ := h
  rw [Metrics.total_countAll, List.countP_filter]
  congr 2
  funext x
  cases is : kind x with
  | false => rfl
  | true => exact (http x is).symm

/-- The requests that count: all but those for the metrics. -/
def counting (log : List (Request × Nat)) : List (Request × Nat) :=
  log.filter fun e => e.1.path ≠ "/metrics"

theorem counted_countP {kind : Series → Bool} {picks : Request × Nat → Bool}
    (once : ∀ e : Request × Nat, e.1.path ≠ "/metrics" →
      (counted e).countP kind = if picks e then 1 else 0) (log : List (Request × Nat)) :
    (log.flatMap counted).countP kind = (counting log).countP picks := by
  induction log with
  | nil => rfl
  | cons e log ih =>
    rw [List.flatMap_cons, List.countP_append, ih]
    by_cases scrape : e.1.path = "/metrics"
    · have none : counted e = [] := if_pos scrape
      have left : counting (e :: log) = counting log :=
        List.filter_cons_of_neg (by simp [scrape])
      rw [none, left]
      exact Nat.zero_add _
    · have kept : counting (e :: log) = e :: counting log :=
        List.filter_cons_of_pos (by simp [scrape])
      rw [once e scrape, kept, List.countP_cons, Nat.add_comm]

theorem counted_eq {e : Request × Nat} (counts : e.1.path ≠ "/metrics") :
    counted e = [.requests e.1.method (Route.label e.1.path) e.2,
      .requestTimes e.1.method (Route.label e.1.path)] :=
  if_neg counts

theorem counted_count {e : Request × Nat} (counts : e.1.path ≠ "/metrics") (x : Series) :
    (counted e).count x =
      if x = .requests e.1.method (Route.label e.1.path) e.2 ∨
        x = .requestTimes e.1.method (Route.label e.1.path) then 1 else 0 := by
  rw [counted_eq counts, List.count_cons, List.count_singleton]
  by_cases requested : x = .requests e.1.method (Route.label e.1.path) e.2
  · simp [requested]
  · by_cases timed : x = .requestTimes e.1.method (Route.label e.1.path)
    · simp [timed]
    · simp [requested, timed, Ne.symm requested, Ne.symm timed]

/-- What a run of a server counts: each request that counts in one series of requests and in one of
times, those of its own method, path and status; and nothing else in any of these. -/
structure Tally (m : Metrics) (served : List (Request × Nat)) : Prop where
  requests : m.total Series.isRequest = served.length
  times : m.total Series.isTime = served.length
  request : ∀ method label status, m.get (.requests method label status) =
    served.countP fun e => e.1.method = method ∧ Route.label e.1.path = label ∧ e.2 = status
  time : ∀ method label, m.get (.requestTimes method label) =
    served.countP fun e => e.1.method = method ∧ Route.label e.1.path = label

theorem Tallied.tally {log : List (Request × Nat)} {m : Metrics}
    (h : Tallied {} (log.flatMap counted) m) : Tally m (counting log) := by
  have all (kind : Series → Bool) (http : ∀ x, kind x = true → x.isHttp = true)
      (once : ∀ method label status,
        [Series.requests method label status, .requestTimes method label].countP kind = 1) :
      m.total kind = (counting log).length := by
    rw [h.total http, counted_countP (fun e counts => ?_) log, List.countP_true]
    · exact Nat.zero_add _
    · rw [counted_eq counts, once]
      rfl
  constructor
  case requests =>
    exact all _ (fun x is => by cases x <;> first | rfl | cases is) fun _ _ _ => rfl
  case times =>
    exact all _ (fun x is => by cases x <;> first | rfl | cases is) fun _ _ _ => rfl
  case request =>
    intro method label status
    rw [h.get rfl, List.count, counted_countP (fun e counts => ?_) log]
    · exact Nat.zero_add _
    · rw [counted_eq counts]
      simp [List.countP_cons]
  case time =>
    intro method label
    rw [h.get rfl, List.count, counted_countP (fun e counts => ?_) log]
    · exact Nat.zero_add _
    · rw [counted_eq counts]
      simp [List.countP_cons]

theorem Tallied.tidy {m : Metrics} {requests : List Series} (h : Tallied {} requests m) :
    m.Tidy := by
  obtain ⟨all, rfl, _⟩ := h
  have none : ({} : Metrics).Tidy := ⟨List.nodup_nil, by simp⟩
  exact none.countAll all

theorem perform_recorder (s : Server ω) (who : ω) (d : Demand) :
    (s.perform who d).1.recorder = s.recorder := by
  cases d <;> rfl

theorem step_recorder (s : Server ω) (m : Move ω) : (s.step m).recorder = s.recorder := by
  cases m with
  | become queue frozen => rfl
  | serve who r =>
    rw [step, serve_eq, ← s.perform_recorder who (demand r)]
    unfold countRequest
    split <;> rfl

theorem run_recorder (s : Server ω) (moves : List (Move ω)) :
    (s.run moves).recorder = s.recorder := by
  induction moves generalizing s with
  | nil => rfl
  | cons m moves ih => exact (ih (s.step m)).trans (s.step_recorder m)

/-- A response that shows some counters: of its lines those that tell a count are one for each
series that was counted, with its count. -/
structure Shows (m : Metrics) (response : Response) : Prop where
  status : response.status = 200
  body : ∃ (lines : List String) (entries : List (Series × Nat)),
    response.body = String.join (lines.map (· ++ "\n")) ∧
    (lines.filter Metrics.tells).Perm (entries.map fun (x, k) => x.line k) ∧
    (entries.map (·.1)).Nodup ∧ ∀ x k, (x, k) ∈ entries ↔ k = m.get x ∧ 0 < k

theorem serve_shows (s : Server ω) (who : ω) {r : Request} (path : r.path = "/metrics")
    (method : r.method = "GET") {write : Metrics → String} (installed : s.recorder = some write)
    (exposes : s.leader.metrics.Exposes (write s.leader.metrics)) (tidy : s.leader.metrics.Tidy) :
    Shows s.leader.metrics (s.serve who r).2 := by
  have asks : demand r = .metrics := by
    have found : Route.ofPath? r.path = some .metrics := by
      rw [path]
      rfl
    have served : r.method ∈ Route.metrics.methods := by
      rw [method]
      decide
    simp only [demand, found, served, not_true, if_false]
  have whole : ¬ r.method = "HEAD" := by
    rw [method]
    decide
  have answered : (s.serve who r).2 = s.metricsResponse := by
    simp only [serve, whole, if_false, asks, perform]
  obtain ⟨lines, body, told⟩ := exposes
  rw [answered, metricsResponse, installed]
  exact ⟨rfl, lines, s.leader.metrics.counts, body, told, tidy.keys, fun _ _ => tidy.mem_counts⟩

/-- Whatever a server is asked from its start on, each request but those for the metrics is counted
once: in one series of requests and in one of times, those of its own method, its path as it is
counted and the status that it was answered with. It moves no other series of the two kinds. A
request for the metrics changes nothing, and what it shows are the counts of those before it, if
the recorder writes the counts it has. -/
theorem requests_counted_once (s : Server ω) (write : Metrics → String) (moves : List (Move ω)) :
    let start : Server ω :=
      { s with leader := { s.leader with metrics := {} }, recorder := some write }
    let v := start.run moves
    (∀ path, Route.label path =
      if path ∈ ["/health", "/metrics", "/internal/node", "/internal/leader_ping"] then path
      else "/other") ∧
    (∀ method label status k, (Series.requests method label status).line k =
      "leaderwatch_http_requests_total\x7bmethod=\"" ++ method ++ "\",path=\"" ++ label ++
        "\",status=\"" ++ toString status ++ "\"\x7d " ++ toString k) ∧
    (∀ method label k, (Series.requestTimes method label).line k =
      "leaderwatch_http_request_duration_seconds_count\x7bmethod=\"" ++ method ++ "\",path=\"" ++
        label ++ "\"\x7d " ++ toString k) ∧
    Tally v.leader.metrics (counting (start.log moves)) ∧
    ∀ who r,
      let after := (v.serve who r).1
      let response := (v.serve who r).2
      (r.path ≠ "/metrics" → ∀ x : Series, x.isHttp = true →
        after.leader.metrics.get x = v.leader.metrics.get x +
          if x = .requests r.method (Route.label r.path) response.status ∨
            x = .requestTimes r.method (Route.label r.path) then 1 else 0) ∧
      (r.path = "/metrics" → after = v) ∧
      (r.path = "/metrics" → r.method = "GET" →
        v.leader.metrics.Exposes (write v.leader.metrics) → Shows v.leader.metrics response) := by
  intro start v
  have tallied : Tallied {} ((start.log moves).flatMap counted) v.leader.metrics :=
    start.run_tallied moves
  refine ⟨Route.label_eq, Series.line_requests, Series.line_times, tallied.tally,
    fun who r => ⟨fun counts x http => ?_, ?_, ?_⟩⟩
  · have moved := (v.serve_tallied who r).get http
    rw [moved, counted_count counts]
  · exact v.serve_metrics who
  · exact fun path method exposes =>
      v.serve_shows who path method (start.run_recorder moves) exposes tallied.tidy

/-- Two requests are refused, each in its own way, and one is for the metrics. The recorder also
writes which times it measured. -/
theorem refusals_counted :
    let a : Node := ⟨"a", "1", "http://a"⟩
    let leader : Leader Unit := { clusterName := "c", queue := { applied := .initial "c" a } }
    let times := [
      "leaderwatch_http_request_duration_seconds\x7bmethod=\"GET\",path=\"/other\"," ++
        "quantile=\"0.5\"\x7d 0.0004",
      "leaderwatch_http_request_duration_seconds_sum\x7bmethod=\"GET\",path=\"/other\"\x7d 0.0004",
      ""]
    let write (m : Metrics) : String := String.join ((m.lines true ++ times).map (· ++ "\n"))
    let s : Server Unit := { identity := a, leader, recorder := some write }
    let get (path : String) : Request := { method := "GET", path }
    let v := s.run [.serve () (get "/nowhere"), .serve () (get "/metrics"),
      .serve () (get "/internal/leader_ping")]
    let m := v.leader.metrics
    m.total Series.isRequest = 2 ∧ m.get (.requests "GET" "/other" 404) = 1 ∧
      ((get "/health").path ≠ "/metrics" ∧
        (v.serve () (get "/health")).1.leader.metrics.get (.requests "GET" "/other" 404) = 1) ∧
      (v.serve () (get "/metrics")).1 = v ∧ m.Exposes (write m) ∧
      ∃ lines : List String,
        (v.serve () (get "/metrics")).2.body = String.join (lines.map (· ++ "\n")) ∧
        "leaderwatch_http_requests_total\x7bmethod=\"GET\",path=\"/other\",status=\"404\"\x7d 1" ∈
          lines := by
  intro a leader times write s get v m
  obtain ⟨_, spelled, _, tally, each⟩ := s.requests_counted_once write
    [.serve () (get "/nowhere"), .serve () (get "/metrics"),
      .serve () (get "/internal/leader_ping")]
  have other : (get "/health").path ≠ "/metrics" := by decide
  have refused : m.get (.requests "GET" "/other" 404) = 1 := by
    rw [tally.request]
    decide
  have moved := (each () (get "/health")).1 other (.requests "GET" "/other" 404) rfl
  have exposes : m.Exposes (write m) := m.exposes_lines true (by decide)
  have scrape := (each () (get "/metrics")).2
  obtain ⟨_, lines, entries, body, told, _, shown⟩ := scrape.2 rfl rfl exposes
  refine ⟨tally.requests, refused, ⟨other, ?_⟩, scrape.1 rfl, exposes, lines, body, ?_⟩
  · rw [moved, refused]
    decide
  · have entry : (Series.requests "GET" "/other" 404, 1) ∈ entries :=
      (shown _ 1).mpr ⟨refused.symm, Nat.one_pos⟩
    have told := told.mem_iff.mpr (List.mem_map_of_mem entry)
    have line := (List.mem_filter.mp told).1
    have text : (Series.requests "GET" "/other" 404).line 1 =
        "leaderwatch_http_requests_total\x7bmethod=\"GET\",path=\"/other\",status=\"404\"\x7d 1" := by
      rw [spelled]
      decide
    exact text ▸ line

end Server

end Vigil
