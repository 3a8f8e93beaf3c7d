import Vigil.Metrics

/-!
A recorder for the program to run with: a line for each series that was ever counted, under lines
with the type of its family and with what it means. It tells how many times were measured, and not
which. Servers take any recorder, and what is stated of them holds with any that tells the counts.
-/

namespace Vigil

namespace Series

def help : Series → String
  | pingsSent => "Leader pings sent, retries included"
  | pingFailures _ => "Failed leader ping attempts by kind"
  | leaderFailures => "Leader failure events raised"
  | pingsHandled _ => "Leader pings answered by outcome"
  | requests .. => "Total HTTP requests"
  | requestTimes .. => "HTTP request duration in seconds"

def type : Series → String
  | requestTimes .. => "summary"
  | _ => "counter"

end Series

namespace Metrics

/-- The lines of the scrape, sorted; `described` adds what each family means. -/
def lines (m : Metrics) (described : Bool) : List String :=
  let families := (m.counts.map fun (s, _) => "# TYPE " ++ s.family ++ " " ++ s.type).eraseDups
  let help :=
    if described then (m.counts.map fun (s, _) => "# HELP " ++ s.family ++ " " ++ s.help).eraseDups
    else []
  let series := m.counts.map fun (s, n) => s.line n
  (help ++ families ++ series).mergeSort fun a b => a ≤ b

/-- All lines of the scrape. -/
def text (m : Metrics) (described : Bool) : String :=
  String.join ((m.lines described).map (· ++ "\n"))

end Metrics

end Vigil
