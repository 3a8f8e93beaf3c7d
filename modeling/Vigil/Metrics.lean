/-!
Counters of a node, and the line in which each of them is scraped.
-/

namespace Vigil

/-- What is counted, with the labels that tell apart the series of one family. -/
inductive Series where
  | pingsSent
  | pingFailures (kind : String)
  | leaderFailures
  | pingsHandled (outcome : String)
  | requests (method path : String) (status : Nat)
  | requestTimes (method path : String)
deriving DecidableEq, Repr

namespace Series

def family : Series → String
  | pingsSent => "leaderwatch_pings_sent_total"
  | pingFailures _ => "leaderwatch_ping_failures_total"
  | leaderFailures => "leaderwatch_leader_failures_total"
  | pingsHandled _ => "leaderwatch_pings_handled_total"
  | requests .. => "leaderwatch_http_requests_total"
  | requestTimes .. => "leaderwatch_http_request_duration_seconds"

def labels : Series → List (String × String)
  | pingsSent | leaderFailures => []
  | pingFailures kind => [("kind", kind)]
  | pingsHandled outcome => [("outcome", outcome)]
  | requests method path status =>
    [("method", method), ("path", path), ("status", toString status)]
  | requestTimes method path => [("method", method), ("path", path)]

/-- The name under which the number of observations is scraped. -/
def counterName : Series → String
  | s@(requestTimes ..) => s.family ++ "_count"
  | s => s.family

/-- A label as it is scraped. No value holds what would have to be escaped. -/
def label : String × String → String
  | (name, value) => name ++ "=\"" ++ value ++ "\""

/-- The line that tells how often a series was counted. -/
def line (s : Series) (count : Nat) : String :=
  match s.labels with
  | [] => s.counterName ++ " " ++ toString count
  | labels =>
    s.counterName ++ "\x7b" ++ ",".intercalate (labels.map label) ++ "\x7d " ++ toString count

end Series

/-- The number of observations of each series, in the order in which they first occurred. -/
structure Metrics where
  counts : List (Series × Nat) := []
deriving DecidableEq, Repr

namespace Metrics

def countEntry (s : Series) : List (Series × Nat) → List (Series × Nat)
  | [] => [(s, 1)]
  | (k, n) :: rest => if k = s then (k, n + 1) :: rest else (k, n) :: countEntry s rest

def count (m : Metrics) (s : Series) : Metrics :=
  ⟨countEntry s m.counts⟩

def get (m : Metrics) (s : Series) : Nat :=
  (m.counts.lookup s).getD 0

theorem lookup_countEntry (s t : Series) (es : List (Series × Nat)) :
    (countEntry s es).lookup t =
      if t = s then some ((es.lookup s).getD 0 + 1) else es.lookup t := by
  induction es with
  | nil => grind [countEntry]
  | cons e rest ih => grind [countEntry]

theorem get_count (m : Metrics) (s t : Series) :
    (m.count s).get t = if t = s then m.get s + 1 else m.get t := by
  simp only [get, count, lookup_countEntry]
  split <;> rfl

end Metrics

end Vigil
