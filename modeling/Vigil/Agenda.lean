/-!
What is to be done on a clock: work that is ready, oldest first, and work that waits for a moment.
Time moves only to the next such moment, and only when nothing is ready.
-/

namespace Vigil

structure Agenda (α : Type) where
  now : Nat := 0
  ready : List α := []
  /-- Work that waits, each with its moment; the earliest first, and of one moment the oldest. -/
  timers : List (Nat × α) := []
deriving Repr

namespace Agenda

variable {α : Type}

/-- Puts work behind all that is ready. -/
def push (a : Agenda α) (x : α) : Agenda α := { a with ready := a.ready ++ [x] }

/-- Puts work before all that is ready: it goes on without a turn of the others. -/
def pushFront (a : Agenda α) (x : α) : Agenda α := { a with ready := x :: a.ready }

def insertTimer (due : Nat) (x : α) : List (Nat × α) → List (Nat × α)
  | [] => [(due, x)]
  | (d, y) :: rest =>
    if due < d then (due, x) :: (d, y) :: rest else (d, y) :: insertTimer due x rest

/-- Lets work wait for some time from now. -/
def wait (a : Agenda α) (time : Nat) (x : α) : Agenda α :=
  { a with timers := insertTimer (a.now + time) x a.timers }

/-- Takes the oldest ready work. -/
def pop (a : Agenda α) : Option (α × Agenda α) :=
  match a.ready with
  | [] => none
  | x :: rest => some (x, { a with ready := rest })

/-- Moves the clock to the next moment that some work waits for, if that is not after `limit`, and
makes all work of that moment ready. -/
def wake (a : Agenda α) (limit : Nat) : Option (Agenda α) :=
  match a.timers with
  | [] => none
  | (due, _) :: _ =>
    if due > limit then none
    else
      let moment := max a.now due
      some {
        now := moment
        ready := a.ready ++ (a.timers.filter (·.1 ≤ moment)).map (·.2)
        timers := a.timers.filter (¬ ·.1 ≤ moment) }

/-- Moves the clock forward when nothing waits for a moment before. -/
def reach (a : Agenda α) (moment : Nat) : Agenda α := { a with now := max a.now moment }

end Agenda

end Vigil
