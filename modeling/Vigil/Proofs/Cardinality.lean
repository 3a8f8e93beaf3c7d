import Mathlib.Algebra.Order.BigOperators.Group.Finset
import Mathlib.Data.Finset.Card
import Vigil.Exposition
import Vigil.Proofs.Tally
import Vigil.Server

/-!
How many series a server that answers any requests comes to have of them. Paths and statuses are
counted under labels of a fixed list; methods are counted under their own names. So there are at
most seventeen series for each method, and as many methods as those who ask make up.
-/

namespace Vigil

open Http (Request Response)

variable {ω : Type}

namespace Series

/-- Whether requests are counted in a series. -/
def isHttp : Series → Bool
  | requests .. | requestTimes .. => true
  | _ => false

/-- The method of the requests that are counted in a series. -/
def method : Series → String
  | requests method .. | requestTimes method _ => method
  | _ => ""

end Series

namespace Metrics

/-- All series in which any requests were counted. -/
def http (m : Metrics) : Finset Series := (m.counts.map (·.1)).toFinset.filter (·.isHttp)

theorem mem_countEntry (s t : Series) (es : List (Series × Nat)) :
    t ∈ (countEntry s es).map (·.1) ↔ t = s ∨ t ∈ es.map (·.1) := by
  induction es with
  | nil => simp [countEntry]
  | cons e es ih =>
    obtain ⟨k, n⟩ := e
    simp only [countEntry]
    split
    · next same =>
      subst same
      simp
    · simp only [List.map_cons, List.mem_cons, ih]
      exact or_left_comm

theorem http_count (m : Metrics) (s : Series) :
    (m.count s).http = if s.isHttp then insert s m.http else m.http := by
  have counted : ((m.count s).counts.map (·.1)).toFinset =
      insert s (m.counts.map (·.1)).toFinset := by
    ext t
    rw [List.mem_toFinset, Finset.mem_insert, List.mem_toFinset]
    exact mem_countEntry s t m.counts
  rw [http, counted, Finset.filter_insert]
  rfl

end Metrics

/-- Answers to pings are counted, but not as requests. -/
theorem Leader.http_ask (l : Leader ω) (r : PingRequest) (who : ω) :
    (l.ask r who).1.metrics.http = l.metrics.http := by
  obtain ⟨outcomes, counted⟩ := l.ask_metrics r who
  rw [counted]
  clear counted
  generalize l.metrics = m
  induction outcomes generalizing m with
  | nil => rfl
  | cons outcome outcomes ih =>
    refine (ih (m.count (.pingsHandled outcome))).trans ?_
    rw [Metrics.http_count, if_neg (by simp [Series.isHttp])]

/-- The statuses with which requests for a path can be answered. -/
def Route.statuses : Option Route → List Nat
  | none => [404]
  | some leaderPing => [200, 400, 405, 409, 413, 415, 422, 500]
  | some metrics => [200, 405, 503]
  | some health | some identity => [200, 405]

theorem pingResponse_status (answer : Except PingError Unit) :
    (pingResponse answer).status ∈ [200, 409, 500] := by
  rcases answer with (rejection | message) | _ <;>
    simp [pingResponse, Response.json, PingError.status]

theorem readPing_status {r : Request} {response : Response} (h : readPing r = .error response) :
    response.status ∈ [400, 413, 415, 422] := by
  unfold readPing at h
  split at h
  · cases h
    decide
  · split at h
    · cases h
      decide
    · split at h <;> cases h <;> simp [Response.plain]

namespace Server

theorem metricsResponse_status (s : Server ω) : s.metricsResponse.status ∈ [200, 503] := by
  unfold metricsResponse
  split <;> simp [Response.plain]

theorem perform_status (s : Server ω) (who : ω) (r : Request) :
    (s.perform who (demand r)).2.status ∈ Route.statuses (Route.ofPath? r.path) := by
  unfold demand
  cases Route.ofPath? r.path with
  | none => simp [perform, Route.statuses]
  | some route =>
    by_cases served : r.method ∈ route.methods
    · simp only [served, not_true, if_false]
      cases route with
      | health | identity => simp [perform, Route.statuses, Response.json]
      | metrics =>
        have here : [200, 503] ⊆ Route.statuses (some .metrics) := by decide
        exact here s.metricsResponse_status
      | leaderPing =>
        cases read : readPing r with
        | ok ping =>
          have here : [200, 409, 500] ⊆ Route.statuses (some .leaderPing) := by decide
          exact here (pingResponse_status _)
        | error response =>
          have here : [400, 413, 415, 422] ⊆ Route.statuses (some .leaderPing) := by decide
          exact here (readPing_status read)
    · simp only [served, not_false_eq_true, if_true, perform]
      cases route <;> decide

theorem http_perform (s : Server ω) (who : ω) (d : Demand) :
    (s.perform who d).1.leader.metrics.http = s.leader.metrics.http := by
  cases d with
  | ping request => exact s.leader.http_ask request who
  | _ => rfl

/-- All series in which the requests of one method can be counted. -/
def series (method : String) : List Series :=
  [none, some Route.health, some .identity, some .leaderPing].flatMap fun route =>
    let label := (route.map Route.path).getD "/other"
    .requestTimes method label :: (Route.statuses route).map (.requests method label)

theorem serve_eq (s : Server ω) (who : ω) (r : Request) :
    (s.serve who r).1 =
      (s.perform who (demand r)).1.countRequest r (s.serve who r).2.status := rfl

theorem serve_status (s : Server ω) (who : ω) (r : Request) :
    (s.serve who r).2.status = (s.perform who (demand r)).2.status := by
  unfold serve
  dsimp only
  split <;> rfl

/-- Reading the metrics does not count. -/
theorem serve_scrape (s : Server ω) (who : ω) {r : Request} (scrape : r.path = Route.metrics.path) :
    (s.serve who r).1.leader.metrics.http = s.leader.metrics.http := by
  unfold serve
  dsimp only
  rw [countRequest, if_pos scrape, http_perform]

/-- A request that counts does so in two series of its method. -/
theorem serve_series (s : Server ω) (who : ω) {r : Request}
    (counts : r.path ≠ Route.metrics.path) :
    let label := Route.label r.path
    ∃ status, .requestTimes r.method label ∈ series r.method ∧
      .requests r.method label status ∈ series r.method ∧
      (s.serve who r).1.leader.metrics.http =
        insert (.requestTimes r.method label)
          (insert (.requests r.method label status) s.leader.metrics.http) := by
  intro label
  let status := (s.perform who (demand r)).2.status
  have possible : status ∈ Route.statuses (Route.ofPath? r.path) := s.perform_status who r
  -- The only path without series is the one that does not count.
  have known : Route.ofPath? r.path ∈
      [none, some Route.health, some .identity, some .leaderPing] := by
    cases found : Route.ofPath? r.path with
    | none => decide
    | some route =>
      have path : route.path = r.path := by simpa using List.find?_some found
      cases route with
      | metrics => exact absurd path.symm counts
      | _ => decide
  have within (x : Series) (here : x ∈ .requestTimes r.method label ::
      (Route.statuses (Route.ofPath? r.path)).map (.requests r.method label)) :
      x ∈ series r.method := List.mem_flatMap.mpr ⟨_, known, here⟩
  refine ⟨status, within _ List.mem_cons_self,
    within _ (List.mem_cons_of_mem _ (List.mem_map_of_mem possible)), ?_⟩
  have same : (s.serve who r).1 = (s.perform who (demand r)).1.countRequest r status := by
    rw [s.serve_eq, s.serve_status]
  rw [same]
  simp only [countRequest, counts, if_false, Metrics.http_count, Series.isHttp, if_true,
    http_perform, label]

inductive Move (ω : Type) where
  | serve (who : ω) (r : Request)
  /-- Anything else becomes of the state that pings are answered from. -/
  | become (queue : StateQueue (Asker ω)) (frozen : Option ClusterState)

/-- The method of a request, if that counts. -/
def Move.methods : Move ω → Finset String
  | serve _ r => if r.path = Route.metrics.path then ∅ else {r.method}
  | become .. => ∅

def step (s : Server ω) : Move ω → Server ω
  | .serve who r => (s.serve who r).1
  | .become queue frozen => { s with leader := { s.leader with queue, frozen } }

def run (s : Server ω) (moves : List (Move ω)) : Server ω := moves.foldl step s

def methods : List (Move ω) → Finset String
  | [] => ∅
  | m :: moves => m.methods ∪ methods moves

/-- No series is lost, all that are new are of some methods, and each of these has one. -/
structure Grows (methods : Finset String) (before after : Finset Series) : Prop where
  kept : before ⊆ after
  within : after ⊆ before ∪ methods.biUnion fun method => (series method).toFinset
  counted : ∀ method ∈ methods, ∃ label, .requestTimes method label ∈ after

theorem Grows.refl (xs : Finset Series) : Grows ∅ xs xs where
  kept := subset_rfl
  within := Finset.subset_union_left
  counted := by simp

theorem Grows.trans {ms ms' : Finset String} {xs ys zs : Finset Series} (h : Grows ms xs ys)
    (h' : Grows ms' ys zs) : Grows (ms ∪ ms') xs zs where
  kept := h.kept.trans h'.kept
  within := by
    rw [Finset.union_biUnion, ← Finset.union_assoc]
    exact h'.within.trans (Finset.union_subset_union_left h.within)
  counted := by
    intro method here
    rcases Finset.mem_union.mp here with old | new
    · obtain ⟨label, timed⟩ := h.counted method old
      exact ⟨label, h'.kept timed⟩
    · exact h'.counted method new

theorem step_grows (s : Server ω) (m : Move ω) :
    Grows m.methods s.leader.metrics.http (s.step m).leader.metrics.http := by
  cases m with
  | become queue frozen => exact .refl _
  | serve who r =>
    by_cases scrape : r.path = Route.metrics.path
    · have same : (s.step (.serve who r)).leader.metrics.http = s.leader.metrics.http :=
        s.serve_scrape who scrape
      simp only [Move.methods, scrape, if_true, same]
      exact .refl _
    · obtain ⟨status, timed, requested, grown⟩ := s.serve_series who scrape
      have after : (s.step (.serve who r)).leader.metrics.http = _ := grown
      simp only [Move.methods, scrape, if_false, after]
      refine ⟨fun x old => ?_, ?_, ?_⟩
      · exact Finset.mem_insert_of_mem (Finset.mem_insert_of_mem old)
      · intro x here
        rw [Finset.singleton_biUnion, Finset.mem_union, List.mem_toFinset]
        rcases Finset.mem_insert.mp here with rfl | here
        · exact .inr timed
        · rcases Finset.mem_insert.mp here with rfl | old
          · exact .inr requested
          · exact .inl old
      · intro method here
        rw [Finset.mem_singleton.mp here]
        exact ⟨_, Finset.mem_insert_self _ _⟩

theorem run_grows (s : Server ω) (moves : List (Move ω)) :
    Grows (methods moves) s.leader.metrics.http (s.run moves).leader.metrics.http := by
  induction moves generalizing s with
  | nil => exact .refl _
  | cons m moves ih => exact (s.step_grows m).trans (ih (s.step m))

/-- Each of the methods has a series of its own. -/
theorem Grows.card_methods {ms : Finset String} {xs ys : Finset Series} (h : Grows ms xs ys) :
    ms.card ≤ ys.card := by
  have found : ms ⊆ ys.image Series.method := by
    intro method here
    obtain ⟨label, timed⟩ := h.counted method here
    exact Finset.mem_image.mpr ⟨_, timed, rfl⟩
  exact (Finset.card_le_card found).trans Finset.card_image_le

theorem Grows.card_le {ms : Finset String} {xs ys : Finset Series} (h : Grows ms xs ys) :
    ys.card ≤ xs.card + ms.card * 17 := by
  have few (method : String) : (series method).toFinset.card ≤ 17 := List.toFinset_card_le _
  calc ys.card
    _ ≤ (xs ∪ ms.biUnion fun method => (series method).toFinset).card :=
        Finset.card_le_card h.within
    _ ≤ xs.card + (ms.biUnion fun method => (series method).toFinset).card :=
        Finset.card_union_le _ _
    _ ≤ xs.card + ms.card * 17 :=
        Nat.add_le_add_left (Finset.card_biUnion_le_card_mul _ _ _ fun m _ => few m) _

/-- Whatever is asked, all series that are new are of a method that was asked with, at most
seventeen of each; and each of these methods has one. -/
theorem series_per_method (s : Server ω) (moves : List (Move ω)) :
    let before := s.leader.metrics.http
    let after := (s.run moves).leader.metrics.http
    (∀ x ∈ after, x ∈ before ∨ ∃ method ∈ methods moves, x ∈ series method) ∧
      (methods moves).card ≤ after.card ∧
      after.card ≤ before.card + (methods moves).card * 17 := by
  intro before after
  have grows : Grows (methods moves) before after := s.run_grows moves
  refine ⟨fun x here => ?_, grows.card_methods, grows.card_le⟩
  simpa using grows.within here

theorem mem_methods {who : ω} {r : Request} {moves : List (Move ω)} (here : .serve who r ∈ moves)
    (counts : r.path ≠ Route.metrics.path) : r.method ∈ methods moves := by
  induction moves with
  | nil => cases here
  | cons m moves ih =>
    refine Finset.mem_union.mpr ?_
    rcases List.mem_cons.mp here with rfl | later
    · simp [Move.methods, counts]
    · exact .inr (ih later)

end Server

namespace Http

theorem targetPath?_root : targetPath? "/" = some "/" := by
  have slash : isPathChar '/' = true := by
    rw [isPathChar, String.contains_char_eq]
    decide
  have short : ¬ "/".utf8ByteSize > longestTarget := by decide
  have split : ['/'].span isPathChar = (['/'], []) := by simp [List.span, List.span.loop, slash]
  simp only [targetPath?, short, if_false]
  change path? ['/'] = _
  simp only [path?, split]
  rfl

namespace Request

/-- Some target leads to the request, and all its parts are well-formed. -/
def Admitted (r : Request) : Prop := ∃ target, build? r.method target r.headers r.body = some r

/-- Requests with methods that nobody has heard of, each with another one. -/
def invented (i : Nat) : Request where
  method := String.ofList (List.replicate (i + 1) 'X')
  path := "/"

theorem invented_admitted (i : Nat) : (invented i).Admitted := by
  have letter : isTokenChar 'X' = true := by decide
  have token : isToken (invented i).method = true := by simp [isToken, invented, letter]
  refine ⟨"/", ?_⟩
  simp only [build?, token, targetPath?_root]
  rfl

theorem invented_counts (i : Nat) : (invented i).path ≠ Route.metrics.path := by
  change "/" ≠ "/metrics"
  decide

theorem invented_injective : Function.Injective fun i => (invented i).method := by
  intro i j same
  have letters := congrArg (fun s : String => s.toList.length) same
  simpa [invented] using letters

end Request

end Http

namespace Server

/-- Methods that no one has heard of make any number of series. -/
theorem series_unbounded :
    let a : Node := ⟨"a", "1", "http://a"⟩
    let leader : Leader Unit := { clusterName := "c", queue := { applied := .initial "c" a } }
    let s : Server Unit := { identity := a, leader, recorder := some (·.text true) }
    ¬ ∃ bound, ∀ requests : List Request, (∀ r ∈ requests, r.Admitted) →
      (s.run (requests.map (.serve ()))).leader.metrics.http.card ≤ bound := by
  rintro a leader s ⟨bound, bounded⟩
  let requests := (List.range (bound + 1)).map Request.invented
  have few := bounded requests fun r here => by
    obtain ⟨i, _, rfl⟩ := List.mem_map.mp here
    exact Request.invented_admitted i
  have asked : (Finset.range (bound + 1)).image (fun i => (Request.invented i).method) ⊆
      methods (requests.map (.serve () : Request → Move Unit)) := by
    intro method here
    obtain ⟨i, small, rfl⟩ := Finset.mem_image.mp here
    have sent : Request.invented i ∈ requests :=
      List.mem_map_of_mem (List.mem_range.mpr (Finset.mem_range.mp small))
    exact mem_methods (List.mem_map_of_mem sent) (Request.invented_counts i)
  have many := (Finset.card_le_card asked).trans (s.run_grows _).card_methods
  rw [Finset.card_image_of_injective _ Request.invented_injective, Finset.card_range] at many
  omega

end Server

end Vigil
