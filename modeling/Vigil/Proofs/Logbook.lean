import Mathlib.Algebra.Ring.Nat
import Mathlib.Data.List.Nodup
import Vigil.Proofs.Agenda
import Vigil.Scheduler

/-!
What becomes of the jobs that a scheduler takes. Beside the scheduler a book is kept, in which every
job that is taken has a number of its own; apart from these numbers the book is the scheduler.
Whatever is handed over, from outside or by jobs that run, and however the time is cut: a job that
was taken runs once, at the very moment at which its delay is over, and one that was refused never.
-/

namespace Vigil

theorem Job.size_eq (job : Job) : job.size = 1 + sizes job.hands := by
  cases job
  simp only [size, hands]

namespace Scheduler

/-- What is done to a scheduler from outside. -/
inductive Operation where
  | schedule (delay : Nat) (job : Job)
  | execute (job : Job)
  | close
  | advance (time : Nat)
  | settle

/-- Hands over a job. One that is refused changes nothing. -/
def offer (s : Scheduler) (delay : Option Nat) (job : Job) : Scheduler :=
  match s.submit delay job with
  | .ok next => next
  | .error _ => s

def apply (s : Scheduler) : Operation → Scheduler
  | .schedule delay job => s.offer (some delay) job
  | .execute job => s.offer none job
  | .close => s.close
  | .advance time => s.advance time
  | .settle => s.settle

/-- A scheduler after some operations. -/
def after (ops : List Operation) : Scheduler := ops.foldl apply {}

/-! ### The steps come to an end -/

/-- Bounds the turns that all jobs still take that an agenda holds. -/
def load (a : Agenda Taken) : Nat :=
  (a.ready.map Taken.weight).sum + (a.timers.map (·.2.weight)).sum

/-- Falls with every step: between two moments of the clock there is a turn. -/
def rank (s : Scheduler) : Nat :=
  2 * load s.agenda + if s.agenda.ready.isEmpty then 1 else 0

theorem fuel_eq (s : Scheduler) : s.fuel = 2 * load s.agenda + 1 := by
  simp only [fuel, load, ← List.sum_eq_foldl, List.sum_append]

theorem weight_pos (t : Taken) : 0 < t.weight := by
  cases t with
  | arrived delay job => simp only [Taken.weight, job.size_eq]; omega
  | due job => simp only [Taken.weight, job.size_eq]; omega

theorem load_push (a : Agenda Taken) (t : Taken) : load (a.push t) = load a + t.weight := by
  simp only [load, Agenda.push, List.map_append, List.sum_append, List.map_cons, List.map_nil,
    List.sum_cons, List.sum_nil]
  omega

theorem load_wait (a : Agenda Taken) (time : Nat) (t : Taken) :
    load (a.wait time t) = load a + t.weight := by
  have waiting := ((Agenda.insertTimer_perm (a.now + time) t a.timers).map (·.2.weight)).sum_nat
  simp only [List.map_cons, List.sum_cons] at waiting
  simp only [load, Agenda.wait, waiting]
  omega

theorem load_submitAll (s : Scheduler) (hands : List (Option Nat × Job)) :
    load (s.submitAll hands).agenda ≤ load s.agenda + 3 * Job.sizes hands := by
  induction hands generalizing s with
  | nil => exact Nat.le_add_right ..
  | cons hand rest ih =>
    obtain ⟨delay, job⟩ := hand
    rw [Job.sizes, submitAll, submit]
    split
    · next next taken =>
      split at taken
      · cases taken
      · cases taken
        refine Nat.le_trans (ih _) ?_
        simp only [record, load_push, Taken.weight]
        omega
    · refine Nat.le_trans (ih _) ?_
      simp only [record]
      omega

theorem load_run (s : Scheduler) (job : Job) :
    load (s.run job).agenda + 3 ≤ load s.agenda + 3 * job.size := by
  have handed := load_submitAll (s.record (.ran job.name s.agenda.now)) job.hands
  simp only [record] at handed
  rw [job.size_eq, run, record]
  omega

/-- A turn of a job is one turn less to take. -/
theorem load_turn (s : Scheduler) (t : Taken) :
    load (s.turn t).agenda + 1 ≤ load s.agenda + t.weight := by
  cases t with
  | due job =>
    have ran := s.load_run job
    have size := job.size_eq
    simp only [turn, Taken.weight]
    omega
  | arrived delay job =>
    have ran := s.load_run job
    have size := job.size_eq
    cases delay with
    | zero => simp only [turn, Taken.weight]; omega
    | succ delay => simp only [turn, load_wait, Taken.weight]; omega

/-- Waking work up changes nothing but the place that it is at. -/
theorem load_wake {a awake : Agenda Taken} {limit : Nat} (wakes : a.wake limit = some awake) :
    load awake = load a ∧ awake.ready ≠ [] := by
  obtain ⟨first, early, -, mem, -, -, ready, parts, -⟩ := Agenda.wake_parts wakes
  have weights := (parts.map (·.2.weight)).sum_nat
  rw [List.map_append, List.sum_append] at weights
  constructor
  · simp only [load, ready, List.map_append, List.sum_append, List.map_map, ← weights]
    exact Nat.add_assoc ..
  · rw [ready]
    exact List.append_ne_nil_of_right_ne_nil _ (List.ne_nil_of_mem (List.mem_map_of_mem mem))

theorem step_rank {s next : Scheduler} {limit : Nat} (step : s.step limit = some next) :
    next.rank < s.rank := by
  obtain ⟨closed, ⟨now, ready, timers⟩, history⟩ := s
  cases ready with
  | cons t ready =>
    cases step
    have turned := load_turn ⟨closed, ⟨now, ready, timers⟩, history⟩ t
    simp only [rank, load, List.map_cons, List.sum_cons, List.isEmpty_cons] at turned ⊢
    split <;> simp <;> omega
  | nil =>
    obtain ⟨awake, wakes, rfl⟩ := Option.map_eq_some_iff.mp step
    obtain ⟨same, some⟩ := load_wake wakes
    have filled : awake.ready.isEmpty = false := List.isEmpty_eq_false_iff.mpr some
    simp [rank, same, filled]

theorem rank_pos (s : Scheduler) : 0 < s.rank := by
  obtain ⟨closed, ⟨now, ready, timers⟩, history⟩ := s
  cases ready with
  | nil => simp [rank]
  | cons t ready =>
    have weight := weight_pos t
    simp only [rank, load, List.map_cons, List.sum_cons]
    omega

/-- With steps enough, all that is due comes to an end. -/
theorem runFor_ends {limit fuel : Nat} {s : Scheduler} (enough : s.rank ≤ fuel) :
    (runFor limit fuel s).step limit = none := by
  induction fuel generalizing s with
  | zero => exact absurd s.rank_pos (by omega)
  | succ fuel ih =>
    rw [runFor]
    cases step : s.step limit with
    | none => exact step
    | some next => exact ih (by have := step_rank step; omega)

theorem rank_le_fuel (s : Scheduler) : s.rank ≤ s.fuel := by
  rw [rank, fuel_eq]
  split <;> omega

/-! ### The book -/

/-- What is noted of a job that is taken. -/
structure Slip where
  number : Nat
  /-- When it was handed over. -/
  since : Nat
  delay : Nat
  job : Job

/-- The moment at which the delay of a job is over. -/
def Slip.due (t : Slip) : Nat := t.since + t.delay

/-- A job on the agenda, with its slip. -/
inductive Held where
  | arrived (t : Slip)
  | due (t : Slip)

namespace Held

def slip : Held → Slip
  | arrived t => t
  | due t => t

def taken : Held → Taken
  | arrived t => .arrived t.delay t.job
  | due t => .due t.job

end Held

/-- What happens. A job that runs hands over others under its own number. -/
inductive Entry where
  | closed (time : Nat)
  | accepted (giver : Option Nat) (t : Slip)
  | refused (giver : Option Nat) (job : Job) (time : Nat)
  | ran (t : Slip) (time : Nat)

namespace Entry

def accepted? : Entry → Option Slip
  | accepted _ t => some t
  | _ => none

def ran? : Entry → Option Slip
  | ran t _ => some t
  | _ => none

/-- What the scheduler records of it: the runs, and what jobs that run hand over. -/
def event? : Entry → Option SchedulerEvent
  | ran t time => some (.ran t.job.name time)
  | accepted (some _) t => some (.handed (.ok ()) t.since)
  | refused (some _) _ time => some (.handed (.error .closed) time)
  | _ => none

end Entry

/-- A scheduler with slips on its jobs, and all that happened to them, the oldest first. -/
structure Book where
  closed : Bool := false
  agenda : Agenda Held := {}
  /-- How many jobs have been taken. -/
  given : Nat := 0
  log : List Entry := []

namespace Book

/-- The scheduler that a book is about. -/
def scheduler (b : Book) : Scheduler where
  closed := b.closed
  agenda := b.agenda.map Held.taken
  history := (b.log.filterMap Entry.event?).reverse

def note (b : Book) (e : Entry) : Book := { b with log := b.log ++ [e] }

def submit (b : Book) (giver delay : Option Nat) (job : Job) : Book :=
  if b.closed then b.note (.refused giver job b.agenda.now)
  else
    let t : Slip := ⟨b.given, b.agenda.now, delay.getD 0, job⟩
    { b with agenda := b.agenda.push (.arrived t), given := b.given + 1 }.note (.accepted giver t)

def close (b : Book) : Book := { b with closed := true }.note (.closed b.agenda.now)

def submitAll (giver : Nat) (b : Book) : List (Option Nat × Job) → Book
  | [] => b
  | (delay, job) :: rest => submitAll giver (b.submit (some giver) delay job) rest

def run (b : Book) (t : Slip) : Book :=
  submitAll t.number (b.note (.ran t b.agenda.now)) t.job.hands

def turn (b : Book) : Held → Book
  | .due t => b.run t
  | .arrived t =>
    if t.delay = 0 then b.run t else { b with agenda := b.agenda.wait t.delay (.due t) }

def step (b : Book) (limit : Nat) : Option Book :=
  match b.agenda.pop with
  | some (held, agenda) => some ({ b with agenda }.turn held)
  | none => (b.agenda.wake limit).map fun agenda => { b with agenda }

def runFor (limit : Nat) : Nat → Book → Book
  | 0, b => b
  | fuel + 1, b =>
    match b.step limit with
    | some next => runFor limit fuel next
    | none => b

/-- Runs all that is due until some moment. -/
def runUntil (limit : Nat) (b : Book) : Book := b.runFor limit b.scheduler.fuel

def apply (b : Book) : Operation → Book
  | .schedule delay job => b.submit none (some delay) job
  | .execute job => b.submit none none job
  | .close => b.close
  | .advance time =>
    let limit := b.agenda.now + time
    let next := b.runUntil limit
    { next with agenda := next.agenda.reach limit }
  | .settle => b.runUntil b.agenda.now

/-- The book after some operations. -/
def after (ops : List Operation) : Book := ops.foldl apply {}

/-! ### The book is the scheduler -/

theorem note_scheduler (b : Book) (e : Entry) :
    (b.note e).scheduler = e.event?.elim b.scheduler b.scheduler.record := by
  cases event : e.event? with
  | none => simp [scheduler, note, event]
  | some v => simp [scheduler, note, record, event]

theorem submit_scheduler (b : Book) (delay : Option Nat) (job : Job) :
    (b.submit none delay job).scheduler = b.scheduler.offer delay job := by
  unfold submit offer Scheduler.submit
  have same : b.scheduler.closed = b.closed := rfl
  rw [same]
  cases b.closed with
  | true => exact b.note_scheduler _
  | false =>
    refine (note_scheduler _ _).trans ?_
    simp only [scheduler, Entry.event?, Option.elim_none, Agenda.map_push]
    rfl

theorem submitAll_scheduler (giver : Nat) (hands : List (Option Nat × Job)) (b : Book) :
    (b.submitAll giver hands).scheduler = b.scheduler.submitAll hands := by
  induction hands generalizing b with
  | nil => rfl
  | cons hand rest ih =>
    obtain ⟨delay, job⟩ := hand
    have same : b.scheduler.closed = b.closed := rfl
    rw [submitAll, Scheduler.submitAll, ih, submit, Scheduler.submit, same]
    cases b.closed with
    | true => exact congrArg (Scheduler.submitAll · rest) (b.note_scheduler _)
    | false =>
      refine congrArg (Scheduler.submitAll · rest) ((note_scheduler _ _).trans ?_)
      simp only [scheduler, Entry.event?, Option.elim_some, Agenda.map_push]
      rfl

theorem run_scheduler (b : Book) (t : Slip) :
    (b.run t).scheduler = b.scheduler.run t.job := by
  rw [run, submitAll_scheduler, note_scheduler]
  rfl

theorem turn_scheduler (b : Book) (h : Held) :
    (b.turn h).scheduler = b.scheduler.turn h.taken := by
  cases h with
  | due t => exact b.run_scheduler t
  | arrived t =>
    obtain ⟨number, since, delay, job⟩ := t
    cases delay with
    | zero => exact b.run_scheduler _
    | succ delay => simp [turn, Scheduler.turn, Held.taken, scheduler, Agenda.map_wait]

theorem step_scheduler (b : Book) (limit : Nat) :
    b.scheduler.step limit = (b.step limit).map scheduler := by
  have pop : b.scheduler.agenda.pop = b.agenda.pop.map fun (h, rest) =>
    (h.taken, rest.map Held.taken) := Agenda.map_pop ..
  have wake : b.scheduler.agenda.wake limit = (b.agenda.wake limit).map (Agenda.map Held.taken) :=
    Agenda.map_wake ..
  rw [step, Scheduler.step, pop, wake]
  cases b.agenda.pop with
  | none => cases b.agenda.wake limit <;> rfl
  | some first => exact congrArg some (turn_scheduler { b with agenda := first.2 } first.1).symm

theorem runFor_scheduler (limit fuel : Nat) (b : Book) :
    (b.runFor limit fuel).scheduler = Scheduler.runFor limit fuel b.scheduler := by
  induction fuel generalizing b with
  | zero => rfl
  | succ fuel ih =>
    rw [runFor, Scheduler.runFor, step_scheduler]
    cases b.step limit with
    | none => rfl
    | some next => exact ih next

theorem apply_scheduler (b : Book) (op : Operation) :
    (b.apply op).scheduler = b.scheduler.apply op := by
  cases op with
  | schedule delay job => exact b.submit_scheduler ..
  | execute job => exact b.submit_scheduler ..
  | close => exact note_scheduler ..
  | advance time =>
    have ran := b.runFor_scheduler (b.agenda.now + time) b.scheduler.fuel
    have now : b.scheduler.agenda.now = b.agenda.now := rfl
    rw [Scheduler.apply, Scheduler.advance, now, ← ran]
    rfl
  | settle => exact b.runFor_scheduler ..

/-- Apart from the slips the book is the scheduler. -/
theorem after_scheduler (ops : List Operation) :
    (after ops).scheduler = Scheduler.after ops := by
  have all (b : Book) : (ops.foldl apply b).scheduler = ops.foldl Scheduler.apply b.scheduler := by
    induction ops generalizing b with
    | nil => rfl
    | cons op ops ih => rw [List.foldl_cons, List.foldl_cons, ih, apply_scheduler]
  exact all {}

/-- All that is due until a moment comes to an end. -/
theorem runUntil_ends (b : Book) (limit : Nat) : (b.runUntil limit).step limit = none := by
  have ends : (Scheduler.runFor limit _ b.scheduler).step limit = none :=
    runFor_ends b.scheduler.rank_le_fuel
  rw [← runFor_scheduler, step_scheduler] at ends
  exact Option.map_eq_none_iff.mp ends

/-! ### What the book tells -/

def accepted (b : Book) : List Slip := b.log.filterMap Entry.accepted?

def ran (b : Book) : List Slip := b.log.filterMap Entry.ran?

/-- The jobs that are still to run. -/
def held (b : Book) : List Slip :=
  b.agenda.ready.map Held.slip ++ b.agenda.timers.map (·.2.slip)

end Book

/-- Whether a job that hands over others is the one that has its turn: none has begun since. -/
def InTurn (before : List Entry) (giver : Option Nat) : Prop :=
  ∀ number, giver = some number →
    ∃ t, (before.filterMap Entry.ran?).getLast? = some t ∧ t.number = number

/-- What comes from outside is handed over by no job. -/
theorem inTurn_none (before : List Entry) : InTurn before none := by
  rintro number ⟨⟩

/-- What holds of all that happens, in view of what happened before. -/
def Entry.Lawful (before : List Entry) : Entry → Prop
  | closed _ => True
  | accepted giver t =>
    (∀ time, closed time ∉ before) ∧ (∀ g u, accepted g u ∈ before → u.number ≠ t.number) ∧
      InTurn before giver
  | refused giver _ _ => (∃ time, closed time ∈ before) ∧ InTurn before giver
  | ran t time =>
    time = t.due ∧ (∃ giver, accepted giver t ∈ before) ∧ (∀ time, ran t time ∉ before) ∧
      ∀ giver u, accepted giver u ∈ before → u.due < t.due → ∃ time, ran u time ∈ before

/-- Everything that happened was lawful when it did. -/
def Lawful (log : List Entry) : Prop :=
  ∀ before e later, log = before ++ e :: later → e.Lawful before

theorem Lawful.concat {log : List Entry} {e : Entry} (lawful : Lawful log) (here : e.Lawful log) :
    Lawful (log ++ [e]) := by
  intro before x later same
  rcases List.eq_nil_or_concat later with rfl | ⟨later, y, rfl⟩
  · obtain ⟨rfl, last⟩ := List.append_inj' same rfl
    exact List.singleton_inj.mp last ▸ here
  · rw [List.concat_eq_append, ← List.cons_append, ← List.append_assoc] at same
    exact lawful before x later (List.append_inj' same rfl).1

/-- Whether a job may have its turn now: it has just come, or its delay is over now. -/
def Held.Ripe (now : Nat) : Held → Prop
  | arrived t => t.since = now
  | due t => t.due = now

namespace Book

theorem mem_accepted {b : Book} {t : Slip} :
    t ∈ b.accepted ↔ ∃ giver, .accepted giver t ∈ b.log := by
  simp only [accepted, List.mem_filterMap]
  constructor
  · rintro ⟨e, mem, same⟩
    cases e <;> cases same
    exact ⟨_, mem⟩
  · rintro ⟨giver, mem⟩
    exact ⟨_, mem, rfl⟩

theorem mem_ran {b : Book} {t : Slip} : t ∈ b.ran ↔ ∃ time, .ran t time ∈ b.log := by
  simp only [ran, List.mem_filterMap]
  constructor
  · rintro ⟨e, mem, same⟩
    cases e <;> cases same
    exact ⟨_, mem⟩
  · rintro ⟨time, mem⟩
    exact ⟨_, mem, rfl⟩

theorem accepted_note (b : Book) (e : Entry) :
    (b.note e).accepted = b.accepted ++ e.accepted?.toList := by
  rw [accepted, note, List.filterMap_append]
  cases e <;> rfl

theorem ran_note (b : Book) (e : Entry) : (b.note e).ran = b.ran ++ e.ran?.toList := by
  rw [ran, note, List.filterMap_append]
  cases e <;> rfl

/-- All jobs that were taken have run or are still held, and what is held is not overdue. -/
structure Sound (b : Book) : Prop where
  lawful : Lawful b.log
  numbers : b.accepted.map Slip.number = List.range b.given
  accounted : b.accepted.Perm (b.ran ++ b.held)
  shut : b.closed = true ↔ ∃ time, .closed time ∈ b.log
  ready : ∀ h ∈ b.agenda.ready, h.Ripe b.agenda.now
  waiting : ∀ x ∈ b.agenda.timers, ∃ t, x = (t.due, .due t) ∧ b.agenda.now < t.due
  sorted : b.agenda.timers.Pairwise (·.1 ≤ ·.1)

theorem Sound.start : ({} : Book).Sound where
  lawful before e later same := by simp at same
  numbers := rfl
  accounted := .refl _
  shut := by simp
  ready := nofun
  waiting := nofun
  sorted := .nil

variable {b : Book}

theorem Sound.distinct (h : b.Sound) : (b.ran ++ b.held).Nodup := by
  have numbers : (b.accepted.map Slip.number).Nodup := h.numbers ▸ List.nodup_range
  exact h.accounted.nodup_iff.mp numbers.of_map

theorem Sound.due_held (h : b.Sound) {t : Slip} (mem : t ∈ b.held) : b.agenda.now ≤ t.due := by
  rcases List.mem_append.mp mem with mem | mem
  · obtain ⟨x, hx, rfl⟩ := List.mem_map.mp mem
    have ripe := h.ready x hx
    cases x with
    | arrived t => exact ripe ▸ Nat.le_add_right ..
    | due t => exact Nat.le_of_eq ripe.symm
  · obtain ⟨x, hx, rfl⟩ := List.mem_map.mp mem
    obtain ⟨t, rfl, later⟩ := h.waiting x hx
    exact Nat.le_of_lt later

theorem Sound.submit (h : b.Sound) {giver : Option Nat} (turn : InTurn b.log giver)
    (delay : Option Nat) (job : Job) : (b.submit giver delay job).Sound := by
  rw [Book.submit]
  split
  · next closed =>
    have same : (b.note (.refused giver job b.agenda.now)).accepted = b.accepted := by
      simp [accepted_note, Entry.accepted?]
    have still : (b.note (.refused giver job b.agenda.now)).ran = b.ran := by
      simp [ran_note, Entry.ran?]
    exact { h with
      lawful := h.lawful.concat ⟨h.shut.mp closed, turn⟩
      numbers := same ▸ h.numbers
      accounted := by rw [same, still]; exact h.accounted
      shut := by simpa [note] using h.shut }
  · next opened =>
    have unshut : ∀ time, Entry.closed time ∉ b.log := by simpa [h.shut] using opened
    have fresh (g : Option Nat) (u : Slip) (mem : .accepted g u ∈ b.log) : u.number ≠ b.given := by
      have number := List.mem_map_of_mem (f := Slip.number) (mem_accepted.mpr ⟨g, mem⟩)
      rw [h.numbers, List.mem_range] at number
      exact Nat.ne_of_lt number
    refine ⟨h.lawful.concat ⟨unshut, fresh, turn⟩, ?_, ?_, by simpa [note] using h.shut, ?_,
      h.waiting, h.sorted⟩
    · have numbers := h.numbers
      rw [accepted_note, List.map_append]
      exact (congrArg (· ++ _) numbers).trans List.range_succ.symm
    · rw [accepted_note, ran_note]
      refine (h.accounted.append_right _).trans ?_
      simp only [Entry.accepted?, Entry.ran?, Option.toList_some, Option.toList_none, held, note,
        Agenda.push, List.map_append, List.append_assoc, List.append_nil,
        List.perm_append_left_iff, ran]
      exact List.perm_append_comm
    · intro x mem
      rcases List.mem_append.mp mem with old | new
      · exact h.ready x old
      · obtain rfl := List.mem_singleton.mp new
        rfl

theorem inTurn_submit (b : Book) {number : Nat} (turn : InTurn b.log (some number))
    (delay : Option Nat) (job : Job) :
    InTurn (b.submit (some number) delay job).log (some number) := by
  have still : (b.submit (some number) delay job).ran = b.ran := by
    unfold Book.submit
    split
    · simp [ran_note, Entry.ran?]
    · exact (ran_note ..).trans (List.append_nil _)
  intro k same
  obtain ⟨t, last, own⟩ := turn k same
  exact ⟨t, (congrArg List.getLast? still).trans last, own⟩

theorem Sound.submitAll {b : Book} (h : b.Sound) {number : Nat}
    (turn : InTurn b.log (some number)) (hands : List (Option Nat × Job)) :
    (b.submitAll number hands).Sound := by
  induction hands generalizing b with
  | nil => exact h
  | cons hand rest ih =>
    obtain ⟨delay, job⟩ := hand
    exact ih (h.submit turn delay job) (b.inTurn_submit turn delay job)

/-- A job whose moment has come leaves the agenda and runs: it has not run before, and whatever was
due earlier has. -/
theorem Sound.run {x : Held} {ready : List Held} (h : b.Sound) (first : b.agenda.ready = x :: ready)
    (due : x.slip.due = b.agenda.now) :
    ({ b with agenda := { b.agenda with ready } }.run x.slip).Sound := by
  have heldFirst : b.held = x.slip :: (ready.map Held.slip ++ b.agenda.timers.map (·.2.slip)) := by
    simp [held, first]
  have inHeld : x.slip ∈ b.held := heldFirst ▸ List.mem_cons_self
  have unrun : x.slip ∉ b.ran := fun mem => List.disjoint_of_nodup_append h.distinct mem inHeld
  have taken : x.slip ∈ b.accepted := h.accounted.mem_iff.mpr (List.mem_append_right _ inHeld)
  have lawful : Entry.Lawful b.log (.ran x.slip b.agenda.now) := by
    refine ⟨due.symm, mem_accepted.mp taken, fun time mem => unrun (mem_ran.mpr ⟨time, mem⟩), ?_⟩
    intro giver u mem earlier
    have known : u ∈ b.ran ++ b.held := h.accounted.mem_iff.mp (mem_accepted.mpr ⟨giver, mem⟩)
    rcases List.mem_append.mp known with run | still
    · exact mem_ran.mp run
    · exact absurd (h.due_held still) (by omega)
  let begun : Book := { b with agenda := { b.agenda with ready } }.note (.ran x.slip b.agenda.now)
  have same : begun.accepted = b.accepted := (accepted_note ..).trans (List.append_nil _)
  have more : begun.ran = b.ran ++ [x.slip] := ran_note ..
  have sound : begun.Sound := by
    refine ⟨h.lawful.concat lawful, same ▸ h.numbers, ?_, by simpa [begun, note] using h.shut,
      fun y mem => h.ready y (first ▸ List.mem_cons_of_mem _ mem), h.waiting, h.sorted⟩
    rw [same, more, List.append_assoc]
    exact h.accounted.trans (.of_eq (congrArg _ heldFirst))
  refine sound.submitAll ?_ _
  rintro number ⟨⟩
  refine ⟨x.slip, ?_, rfl⟩
  exact (congrArg List.getLast? more).trans List.getLast?_concat

/-- A job that has just come begins to wait. -/
theorem Sound.wait {t : Slip} {ready : List Held} (h : b.Sound)
    (first : b.agenda.ready = .arrived t :: ready) (delayed : t.delay ≠ 0) :
    ({ b with agenda := { b.agenda with ready }.wait t.delay (.due t) } : Book).Sound := by
  have moment : b.agenda.now + t.delay = t.due := by
    have came : t.since = b.agenda.now := h.ready (.arrived t) (first ▸ List.mem_cons_self)
    rw [← came]
    rfl
  have timers := Agenda.insertTimer_perm (b.agenda.now + t.delay) (.due t) b.agenda.timers
  refine { h with
    accounted := ?_
    ready := fun y mem => h.ready y (first ▸ List.mem_cons_of_mem _ mem)
    waiting := ?_
    sorted := Agenda.insertTimer_sorted h.sorted .. }
  · have moved := timers.map (·.2.slip)
    have accounted := h.accounted
    simp only [held, first, List.map_cons] at accounted
    refine accounted.trans (.append_left _ ?_)
    refine List.perm_middle.symm.trans ?_
    exact .append_left _ moved.symm
  · intro x mem
    rcases List.mem_cons.mp (timers.mem_iff.mp mem) with rfl | old
    · exact ⟨t, by rw [moment], moment ▸ Nat.lt_add_of_pos_right (Nat.pos_of_ne_zero delayed)⟩
    · exact h.waiting x old

theorem Sound.turn {x : Held} {ready : List Held} (h : b.Sound)
    (first : b.agenda.ready = x :: ready) :
    (({ b with agenda := { b.agenda with ready } } : Book).turn x).Sound := by
  have ripe : x.Ripe b.agenda.now := h.ready x (first ▸ List.mem_cons_self)
  cases x with
  | due t => exact h.run first ripe
  | arrived t =>
    rw [Book.turn]
    split
    · next none =>
      have now : t.due = b.agenda.now := by rw [Slip.due, none]; exact ripe
      exact h.run first now
    · next delayed => exact h.wait first delayed

/-- The clock moves to the moment at which the first of the delays are over. -/
theorem Sound.wake {limit : Nat} {awake : Agenda Held} (h : b.Sound)
    (idle : b.agenda.ready = []) (wakes : b.agenda.wake limit = some awake) :
    ({ b with agenda := awake } : Book).Sound := by
  obtain ⟨first, early, head, mem, -, now, ready, parts, sub, due, late⟩ := Agenda.wake_parts wakes
  obtain ⟨rest, timers⟩ := List.head?_eq_some_iff.mp head
  have sorted := h.sorted
  rw [timers] at sorted
  have least : ∀ x ∈ b.agenda.timers, first.1 ≤ x.1 :=
    timers ▸ List.forall_mem_cons.mpr ⟨Nat.le_refl _, (List.pairwise_cons.mp sorted).1⟩
  -- The first is due after now, so that its moment is the one that the clock moves to.
  have moment : awake.now = first.1 := by
    obtain ⟨t, rfl, later⟩ := h.waiting first (timers ▸ List.mem_cons_self)
    exact now.trans (Nat.max_eq_right (Nat.le_of_lt later))
  refine { h with accounted := ?_, ready := ?_, waiting := ?_, sorted := h.sorted.sublist sub }
  · refine h.accounted.trans (.append_left _ ?_)
    simpa [held, idle, ready, Function.comp_def] using (parts.map (·.2.slip)).symm
  · intro x mem
    rw [ready, idle, List.nil_append] at mem
    obtain ⟨y, early, rfl⟩ := List.mem_map.mp mem
    have waits : y ∈ b.agenda.timers := parts.subset (List.mem_append_left _ early)
    have exact : y.1 = awake.now := Nat.le_antisymm (due y early) (moment ▸ least y waits)
    obtain ⟨u, rfl, -⟩ := h.waiting y waits
    exact exact
  · intro x mem
    obtain ⟨u, rfl, -⟩ := h.waiting x (sub.subset mem)
    exact ⟨u, rfl, late _ mem⟩

theorem Sound.step {limit : Nat} {next : Book} (h : b.Sound) (step : b.step limit = some next) :
    next.Sound := by
  obtain ⟨closed, ⟨now, ready, timers⟩, given, log⟩ := b
  cases ready with
  | cons x ready =>
    cases step
    exact h.turn rfl
  | nil =>
    obtain ⟨awake, wakes, rfl⟩ := Option.map_eq_some_iff.mp step
    exact h.wake rfl wakes

theorem Sound.runFor (h : b.Sound) (limit fuel : Nat) : (b.runFor limit fuel).Sound := by
  induction fuel generalizing b with
  | zero => exact h
  | succ fuel ih =>
    rw [Book.runFor]
    cases step : b.step limit with
    | none => exact h
    | some next => exact ih (h.step step)

/-! ### The clock -/

theorem submit_now (b : Book) (giver delay : Option Nat) (job : Job) :
    (b.submit giver delay job).agenda.now = b.agenda.now := by
  unfold Book.submit
  split <;> rfl

theorem submitAll_now (b : Book) (giver : Nat) (hands : List (Option Nat × Job)) :
    (b.submitAll giver hands).agenda.now = b.agenda.now := by
  induction hands generalizing b with
  | nil => rfl
  | cons hand rest ih =>
    rw [Book.submitAll, ih, submit_now]

theorem turn_now (b : Book) (x : Held) : (b.turn x).agenda.now = b.agenda.now := by
  cases x with
  | due t => exact submitAll_now ..
  | arrived t =>
    rw [Book.turn]
    split
    · exact submitAll_now ..
    · rfl

theorem step_now {limit : Nat} {next : Book} (within : b.agenda.now ≤ limit)
    (step : b.step limit = some next) : next.agenda.now ≤ limit := by
  obtain ⟨closed, ⟨now, ready, timers⟩, given, log⟩ := b
  cases ready with
  | cons x ready =>
    cases step
    rw [turn_now]
    exact within
  | nil =>
    obtain ⟨awake, wakes, rfl⟩ := Option.map_eq_some_iff.mp step
    obtain ⟨first, -, -, -, reached, moment, -⟩ := Agenda.wake_parts wakes
    exact moment ▸ Nat.max_le.mpr ⟨within, reached⟩

theorem runFor_now {limit : Nat} (within : b.agenda.now ≤ limit) (fuel : Nat) :
    (b.runFor limit fuel).agenda.now ≤ limit := by
  induction fuel generalizing b with
  | zero => exact within
  | succ fuel ih =>
    rw [Book.runFor]
    cases step : b.step limit with
    | none => exact within
    | some next => exact ih (step_now within step)

/-- Where nothing is left to do until a moment, all that is held waits for a later one. -/
theorem Sound.rests {limit : Nat} (h : b.Sound) (rest : b.step limit = none) :
    b.agenda.ready = [] ∧ ∀ x ∈ b.agenda.timers, limit < x.1 := by
  obtain ⟨closed, ⟨now, ready, timers⟩, given, log⟩ := b
  cases ready with
  | cons x ready => cases rest
  | nil => exact ⟨rfl, Agenda.wake_none h.sorted (Option.map_eq_none_iff.mp rest)⟩

/-- Once the clock has been moved, nothing is held that is due by then. -/
theorem Sound.advance (h : b.Sound) (time : Nat) :
    (b.apply (.advance time)).Sound ∧
      (b.apply (.advance time)).agenda.now = b.agenda.now + time ∧
      ∀ t ∈ (b.apply (.advance time)).held, b.agenda.now + time < t.due := by
  let limit := b.agenda.now + time
  have sound : (b.runUntil limit).Sound := h.runFor ..
  obtain ⟨idle, beyond⟩ := sound.rests (b.runUntil_ends limit)
  have now : (b.apply (.advance time)).agenda.now = limit :=
    Nat.max_eq_right (runFor_now (Nat.le_add_right ..) _)
  have waiting : ∀ x ∈ (b.runUntil limit).agenda.timers,
      ∃ t, x = (t.due, .due t) ∧ limit < t.due := by
    intro x mem
    obtain ⟨t, rfl, -⟩ := sound.waiting x mem
    exact ⟨t, rfl, beyond _ mem⟩
  refine ⟨{ sound with ready := ?_, waiting := now.symm ▸ waiting }, now, ?_⟩
  · intro x mem
    exact absurd (idle ▸ mem) List.not_mem_nil
  · intro t mem
    rcases List.mem_append.mp mem with mem | mem
    · obtain ⟨x, mem, -⟩ := List.mem_map.mp mem
      exact absurd (idle ▸ mem) List.not_mem_nil
    · obtain ⟨x, waits, rfl⟩ := List.mem_map.mp mem
      obtain ⟨t, rfl, later⟩ := waiting x waits
      exact later

theorem Sound.apply (h : b.Sound) (op : Operation) : (b.apply op).Sound := by
  cases op with
  | schedule delay job => exact h.submit (inTurn_none _) ..
  | execute job => exact h.submit (inTurn_none _) ..
  | close =>
    have same : b.close.accepted = b.accepted := (accepted_note ..).trans (List.append_nil _)
    have still : b.close.ran = b.ran := (ran_note ..).trans (List.append_nil _)
    exact { h with
      lawful := h.lawful.concat trivial
      numbers := same ▸ h.numbers
      accounted := by
        change b.close.accepted.Perm (b.close.ran ++ b.held)
        rw [same, still]
        exact h.accounted
      shut := ⟨fun _ => ⟨_, List.mem_append_right _ List.mem_cons_self⟩, fun _ => rfl⟩ }
  | advance time => exact (h.advance time).1
  | settle => exact h.runFor ..

theorem after_sound (ops : List Operation) : (after ops).Sound := by
  have all {b : Book} (h : b.Sound) : (ops.foldl Book.apply b).Sound := by
    induction ops generalizing b with
    | nil => exact h
    | cons op ops ih => exact ih (h.apply op)
  exact all .start

end Book

/-! ### Acceptance -/

theorem submitAll_closed (s : Scheduler) (hands : List (Option Nat × Job)) :
    (s.submitAll hands).closed = s.closed := by
  induction hands generalizing s with
  | nil => rfl
  | cons hand rest ih =>
    obtain ⟨delay, job⟩ := hand
    rw [submitAll, submit]
    cases closed : s.closed with
    | true => exact (ih _).trans closed
    | false => exact ih _

theorem turn_closed (s : Scheduler) (t : Taken) : (s.turn t).closed = s.closed := by
  cases t with
  | due job => exact submitAll_closed ..
  | arrived delay job =>
    cases delay with
    | zero => exact submitAll_closed ..
    | succ delay => rfl

theorem runFor_closed (limit fuel : Nat) (s : Scheduler) :
    (runFor limit fuel s).closed = s.closed := by
  induction fuel generalizing s with
  | zero => rfl
  | succ fuel ih =>
    rw [runFor, step]
    split
    · next next stepped =>
      rw [ih]
      split at stepped
      · cases stepped
        exact turn_closed ..
      · obtain ⟨awake, -, rfl⟩ := Option.map_eq_some_iff.mp stepped
        rfl
    · rfl

theorem offer_closed (s : Scheduler) (delay : Option Nat) (job : Job) :
    (s.offer delay job).closed = s.closed := by
  unfold offer submit
  cases closed : s.closed <;> simp [closed]

theorem after_closed (ops : List Operation) : (after ops).closed = true ↔ .close ∈ ops := by
  have all (s : Scheduler) :
      (ops.foldl apply s).closed = true ↔ s.closed = true ∨ .close ∈ ops := by
    induction ops generalizing s with
    | nil => simp
    | cons op ops ih =>
      rw [List.foldl_cons, ih]
      cases op with
      | close => simp [apply, close]
      | schedule delay job => simp [apply, offer_closed]
      | execute job => simp [apply, offer_closed]
      | advance time => simp [apply, advance, runFor_closed]
      | settle => simp [apply, settle, runFor_closed]
  exact (all {}).trans (or_iff_right Bool.false_ne_true)

/-- Whatever is done to a scheduler, its book is a book of just that scheduler. A job handed over is
taken unless the scheduler has been closed, and does not run in that call. Everything in the book is
lawful: a job runs only if it was taken, once, at the moment at which its delay is over, after all
that were due earlier, and what it hands over meanwhile has its turn later. Once the clock has been
moved, all jobs that were taken and are due by then have run. -/
theorem taken_run_once (ops : List Operation) :
    let s := after ops
    let b := Book.after ops
    b.scheduler = s ∧
      (∀ delay job, (∃ next, s.submit delay job = .ok next) ↔ .close ∉ ops) ∧
      (∀ delay job next, s.submit delay job = .ok next → next.history = s.history) ∧
      (∀ before e later, b.log = before ++ e :: later → e.Lawful before) ∧
      ∀ time,
        let moved := Book.after (ops ++ [.advance time])
        moved.agenda.now = b.agenda.now + time ∧
          ∀ giver t, .accepted giver t ∈ moved.log → t.due ≤ moved.agenda.now →
            .ran t t.due ∈ moved.log := by
  intro s b
  have sound : b.Sound := Book.after_sound ops
  refine ⟨Book.after_scheduler ops, fun delay job => ?_, fun delay job next taken => ?_,
    sound.lawful, fun time => ?_⟩
  · rw [← after_closed ops, submit]
    cases closed : s.closed <;> simp [s, closed] at *
  · rw [submit] at taken
    split at taken
    · cases taken
    · cases taken
      rfl
  · have moved : Book.after (ops ++ [.advance time]) = b.apply (.advance time) := List.foldl_append
    obtain ⟨advanced, now, later⟩ := sound.advance time
    rw [moved]
    refine ⟨now, fun giver t taken due => ?_⟩
    have known := advanced.accounted.mem_iff.mp (Book.mem_accepted.mpr ⟨giver, taken⟩)
    rcases List.mem_append.mp known with run | held
    · obtain ⟨moment, run⟩ := Book.mem_ran.mp run
      obtain ⟨before, after, split⟩ := List.append_of_mem run
      obtain ⟨rfl, -⟩ := advanced.lawful before _ after split
      exact run
    · exact absurd (later t held) (by omega)

/-- What was taken before the scheduler was closed still runs, and what it hands over is refused. -/
example :
    (after [.schedule 5 (.mk "a" [(none, .mk "b" [])]), .close, .execute (.mk "c" []),
      .advance 4, .advance 4]).history = [.handed (.error .closed) 5, .ran "a" 5] := by
  rfl

end Scheduler

end Vigil
