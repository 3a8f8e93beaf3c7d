import Mathlib.Data.List.Basic
import Vigil.Proofs.Agenda
import Vigil.Proofs.Follower
import Vigil.Proofs.Pacing

/-!
A follower in a scripted network is a watch on a clock. As long as its scheduler is open, and time
only passes once all that is due has happened, whatever the operations make of a follower is made of
a watch by some moves, each at its time. So what holds of the times of every such watch holds of
those of the follower.
-/

namespace Vigil

/-- The chain that a task pings, and when, if the task has its turn at `now`. -/
def Task.pingsAt (now : Nat) : Task → Option (PingerId × Nat)
  | scheduled delay p => some (p, now + delay)
  | round p => some (p, now)
  | _ => none

/-- The chain that an activity pings, and when, if it was begun at `since`. -/
def Activity.pingsAt {κ : Type} (since : Nat) : Activity κ → Option (PingerId × Nat)
  | scheduled p delay => some (p, since + delay.millis)
  | _ => none

/-- The chain that is to be pinged by what an effect hands over, and when. -/
def Effect.pingsAt {κ : Type} (now : Nat) : Effect κ → Option (PingerId × Nat)
  | schedule p delay => some (p, now + delay.millis)
  | _ => none

theorem Task.errand_round {t : Task} (now : Nat) {p : PingerId} :
    t.errand = some (.round p) ↔ ∃ moment, t.pingsAt now = some (p, moment) := by
  cases t with
  | answered call result => cases call <;> simp [errand, Call.errand, pingsAt]
  | released call reply => cases call <;> simp [errand, Call.errand, pingsAt]
  | _ => simp [errand, pingsAt]

theorem Activity.errand_round {κ : Type} {a : Activity κ} (since : Nat) {p : PingerId} :
    a.errand = some (.round p) ↔ ∃ moment, a.pingsAt since = some (p, moment) := by
  cases a <;> simp [errand, pingsAt]

def Event.isPing : Event → Bool
  | ping .. => true
  | _ => false

theorem filterMap_cons_toList {α β : Type} (f : α → Option β) (x : α) (xs : List α) :
    (x :: xs).filterMap f = (f x).toList ++ xs.filterMap f := by
  rw [List.filterMap_eq_flatMap_toList, List.flatMap_cons, List.filterMap_eq_flatMap_toList]

namespace World

/-- The pings that wait, each with its moment. -/
def waiting (v : World) : List (PingerId × Nat) :=
  v.agenda.ready.filterMap (Task.pingsAt v.agenda.now) ++
    v.agenda.timers.filterMap fun x => x.2.pingsAt x.1

/-- When pings were sent, the oldest first. -/
def pingTimes (v : World) : List Nat := ((v.events.filter (·.2.isPing)).map (·.1)).reverse

/-- From `v` to `v'` no time passed. The pings `more` were put off, and the chains `pinged` were
pinged. -/
structure Sets (v v' : World) (more : List (PingerId × Nat)) (pinged : List PingerId) : Prop where
  now : v'.agenda.now = v.agenda.now
  closed : v'.schedulerClosed = v.schedulerClosed
  ordered : v.agenda.Ordered → v'.agenda.Ordered
  waiting : v'.waiting.Perm (more ++ v.waiting)
  pinged : v'.pingTimes = v.pingTimes ++ pinged.map fun _ => v.agenda.now

theorem sets_same {v v' : World} (agenda : v'.agenda = v.agenda)
    (closed : v'.schedulerClosed = v.schedulerClosed) (events : v'.events = v.events) :
    v.Sets v' [] [] where
  now := congrArg Agenda.now agenda
  closed := closed
  ordered := by rw [agenda]; exact id
  waiting := by
    rw [waiting, agenda]
    exact .refl _
  pinged := by
    rw [pingTimes, events]
    exact (List.append_nil _).symm

theorem Sets.refl (v : World) : v.Sets v [] [] := sets_same rfl rfl rfl

theorem Sets.trans {u v w : World} {more more' : List (PingerId × Nat)}
    {pinged pinged' : List PingerId} (h : u.Sets v more pinged) (h' : v.Sets w more' pinged') :
    u.Sets w (more ++ more') (pinged ++ pinged') where
  now := h'.now.trans h.now
  closed := h'.closed.trans h.closed
  ordered o := h'.ordered (h.ordered o)
  waiting := by
    have both := h'.waiting.trans (h.waiting.append_left more')
    refine both.trans ?_
    rw [List.append_assoc]
    exact List.perm_append_comm_assoc ..
  pinged := by
    rw [h'.pinged, h.pinged, h.now, List.map_append, List.append_assoc]

theorem sets_observe (v : World) {e : Event} (other : e.isPing = false) :
    v.Sets (v.observe e) [] [] where
  now := rfl
  closed := rfl
  ordered o := o
  waiting := .refl _
  pinged := by
    have same : (v.observe e).events.filter (·.2.isPing) = v.events.filter (·.2.isPing) :=
      List.filter_cons_of_neg (by simp [other])
    rw [pingTimes, same]
    exact (List.append_nil _).symm

theorem sets_tell (v : World) (n : Notice) : v.Sets (v.tell n) [] [] := v.sets_observe rfl

theorem sets_tellAll (v : World) (ns : List Notice) : v.Sets (v.tellAll ns) [] [] :=
  tellAll_preserves (P := (v.Sets · [] [])) ns (.refl v) fun u n sets => sets.trans (u.sets_tell n)

theorem sets_spawn (v : World) (t : Task) :
    v.Sets (v.spawn t) (t.pingsAt v.agenda.now).toList [] where
  now := rfl
  closed := rfl
  ordered o := ⟨o.unpassed, o.sorted⟩
  waiting := by
    rw [waiting, spawn, Agenda.push, List.filterMap_append, filterMap_cons_toList,
      List.filterMap_nil, List.append_nil, waiting, ← List.append_assoc]
    exact List.perm_append_comm.append_right _
  pinged := (List.append_nil _).symm

theorem sets_proceed (v : World) (t : Task) :
    v.Sets (v.proceed t) (t.pingsAt v.agenda.now).toList [] where
  now := rfl
  closed := rfl
  ordered o := ⟨o.unpassed, o.sorted⟩
  waiting := by
    rw [waiting, proceed, Agenda.pushFront, filterMap_cons_toList, waiting, List.append_assoc]
  pinged := (List.append_nil _).symm

theorem sets_after (v : World) (time : Nat) (t : Task) :
    v.Sets (v.after time t) (t.pingsAt (v.agenda.now + time)).toList [] := by
  unfold after
  split
  · next atOnce =>
    rw [atOnce]
    exact v.sets_proceed t
  · refine ⟨rfl, rfl, fun o => o.wait time t, ?_, (List.append_nil _).symm⟩
    have timers : ((Agenda.insertTimer (v.agenda.now + time) t v.agenda.timers).filterMap
        fun x => x.2.pingsAt x.1).Perm ((t.pingsAt (v.agenda.now + time)).toList ++
          v.agenda.timers.filterMap fun x => x.2.pingsAt x.1) := by
      refine ((Agenda.insertTimer_perm ..).filterMap _).trans ?_
      rw [filterMap_cons_toList]
    exact (timers.append_left _).trans (List.perm_append_comm_assoc ..)

theorem sets_hold (v : World) (key : String) (c : Call) : v.Sets (v.hold key c) [] [] :=
  sets_same rfl rfl rfl

theorem sets_call (v : World) (c : Call) (script : Script) : v.Sets (v.call c script) [] [] := by
  unfold call
  split
  · exact sets_same rfl rfl rfl
  · cases script with
    | reply r => exact v.sets_after _ (.answered c _)
    | hold key => exact v.sets_hold key c

theorem sets_submit (v : World) (task : StateTask) (waiter : Waiter) :
    v.Sets (v.submit task waiter) [] [] := by
  unfold submit
  split
  · exact v.sets_proceed (.finished waiter _)
  · next queue _ =>
    have queued : v.Sets { v with queue } [] [] := sets_same rfl rfl rfl
    dsimp only
    split
    · exact queued.trans (sets_spawn _ .work)
    · exact queued

theorem sets_handshaken (v : World) (peer : PeerConfig) (rest : List PeerConfig) (loop : Loop)
    (answer : Except TransportError Node) :
    v.Sets (v.handshaken peer rest loop answer) [] [] := by
  simp only [handshaken]
  split
  · exact (v.sets_tellAll _).trans (sets_submit _ _ _)
  · exact (v.sets_tellAll _).trans (sets_proceed _ (.discover rest loop))

theorem sets_finish (v : World) (waiter : Waiter) (result : Except StateTaskError Unit) :
    v.Sets (v.finish waiter result) [] [] := by
  cases waiter with
  | operator => exact sets_same rfl rfl rfl
  | forgetting =>
    cases result with
    | ok _ => exact .refl v
    | error e => exact v.sets_tell _
  | discovery peer rest loop =>
    cases result with
    | ok _ => exact v.sets_proceed (.discover rest loop)
    | error e => exact (v.sets_tell _).trans (sets_proceed _ (.discover rest loop))

theorem sets_work (v : World) : v.Sets v.work [] [] := by
  unfold work
  split
  · exact .refl v
  · next queue done _ =>
    have queued : v.Sets { v with queue } [] [] := sets_same rfl rfl rfl
    have told := queued.trans (sets_tellAll _ done.notices)
    have woken (u : World) :
        u.Sets (if u.queue.pending.isEmpty then u else u.proceed .work) [] [] := by
      split
      · exact .refl u
      · exact u.sets_proceed .work
    dsimp only
    cases done.waiter with
    | none => exact told.trans (woken _)
    | some waiter => exact (told.trans (sets_spawn _ (.finished waiter _))).trans (woken _)

theorem sets_lose {v : World} (taking : v.schedulerClosed = false) (node : Node) :
    v.Sets (v.lose node) [] [] := by
  unfold lose
  split
  · rw [if_neg (by simp [taking])]
    exact v.sets_spawn (.disconnected node false)
  · exact .refl v

theorem sets_loseAll {v : World} (taking : v.schedulerClosed = false) (nodes : List Node) :
    v.Sets (nodes.foldl lose v) [] [] := by
  induction nodes generalizing v with
  | nil => exact .refl v
  | cons node nodes ih =>
    have first := sets_lose taking node
    exact first.trans (ih (first.closed.trans taking))

theorem sets_perform {v : World} (taking : v.schedulerClosed = false) (keeps : Bool)
    (e : Effect Listener) :
    v.Sets (v.perform keeps e) (e.pingsAt v.agenda.now).toList e.pings.toList := by
  cases e with
  | tell notice => exact v.sets_tell notice
  | count series => exact sets_same rfl rfl rfl
  | schedule p delay =>
    rw [perform, if_neg (by simp [taking])]
    exact v.sets_spawn (.scheduled delay.millis p)
  | dispatch listeners failure =>
    rw [perform, if_neg (by simp [taking])]
    exact v.sets_spawn (.dispatch listeners failure)
  | ping p request =>
    let asked := v.observe (.ping request v.pingLimit)
    let left :=
      { asked with network := { v.network with pings := (Network.next v.network.pings).2 } }
    have observed : v.Sets asked [] [p] :=
      ⟨rfl, rfl, fun o => o, .refl _, by simp [asked, pingTimes, observe, Event.isPing]⟩
    have taken : asked.Sets left [] [] := sets_same rfl rfl rfl
    exact observed.trans (taken.trans (left.sets_call (.ping p request) _))
  | connect before leader =>
    let asked := v.observe (.connect leader)
    let left :=
      { asked with network := { v.network with connects := (Network.next v.network.connects).2 } }
    have observed : v.Sets asked [] [] := v.sets_observe rfl
    have taken : asked.Sets left [] [] := sets_same rfl rfl rfl
    exact observed.trans (taken.trans (left.sets_call (.connect before leader keeps) _))

theorem sets_update {v : World} (taking : v.schedulerClosed = false) (keeps : Bool)
    (r : Detector Listener × List (Effect Listener)) :
    v.Sets (v.update keeps r) (r.2.filterMap (Effect.pingsAt v.agenda.now))
      (r.2.filterMap Effect.pings) := by
  have all (es : List (Effect Listener)) (u : World) (taking : u.schedulerClosed = false) :
      u.Sets (es.foldl (perform keeps) u) (es.filterMap (Effect.pingsAt u.agenda.now))
        (es.filterMap Effect.pings) := by
    induction es generalizing u with
    | nil => exact .refl u
    | cons e es ih =>
      have first := sets_perform taking keeps e
      have rest := ih (u.perform keeps e) (first.closed.trans taking)
      rw [first.now] at rest
      rw [filterMap_cons_toList, filterMap_cons_toList]
      exact first.trans rest
  have replaced : v.Sets { v with detector := r.1 } [] [] := sets_same rfl rfl rfl
  exact replaced.trans (all r.2 { v with detector := r.1 } taking)

end World

namespace Watch

variable {κ : Type}

/-- The pings that wait, each with its moment, if `since` tells when each activity was begun. -/
def waiting (w : Watch κ) (since : Nat → Nat) : List (PingerId × Nat) :=
  w.activities.filterMap fun x => x.2.pingsAt (since x.1)

theorem waiting_spawn (w : Watch κ) (since : Nat → Nat) (a : Activity κ) :
    (w.spawn a).waiting since = w.waiting since ++ (a.pingsAt (since w.begun)).toList := by
  rw [waiting, spawn, List.filterMap_append, filterMap_cons_toList, List.filterMap_nil,
    List.append_nil, waiting]

theorem perform_waiting (cause : Option (Activity κ)) (w : Watch κ) (since : Nat → Nat)
    (e : Effect κ) :
    (perform cause true w e).waiting since =
      w.waiting since ++ (e.pingsAt (since w.begun)).toList := by
  cases e with
  | tell notice => exact (List.append_nil _).symm
  | count series => exact (List.append_nil _).symm
  | schedule p delay => exact (w.note _).waiting_spawn since (.scheduled p delay)
  | dispatch listeners failure =>
    exact ((w.note _).raise failure true).waiting_spawn since (.calling w.latest listeners failure)
  | ping p request => exact (w.note _).waiting_spawn since (.pinging p request _)
  | connect before leader => exact (w.note _).waiting_spawn since (.connecting _ before leader)

/-- What an event hands over is begun now. -/
theorem update_waiting (w : Watch κ) (cause : Option (Activity κ)) {since : Nat → Nat} {now : Nat}
    (new : ∀ id, w.begun ≤ id → since id = now) (r : Detector κ × List (Effect κ)) :
    (w.update cause true r).waiting since =
      w.waiting since ++ r.2.filterMap (Effect.pingsAt now) := by
  have all (es : List (Effect κ)) (u : Watch κ) (new : ∀ id, u.begun ≤ id → since id = now) :
      (es.foldl (perform cause true) u).waiting since =
        u.waiting since ++ es.filterMap (Effect.pingsAt now) := by
    induction es generalizing u with
    | nil => exact (List.append_nil _).symm
    | cons e es ih =>
      have later := ih (perform cause true u e) fun id hid =>
        new id (Nat.le_trans (begun_le_perform cause true u e) hid)
      rw [List.foldl_cons, later, perform_waiting, new _ (Nat.le_refl _), List.append_assoc,
        filterMap_cons_toList]
  exact all r.2 { w with detector := r.1 } new

/-- No run has a loss yet to handle. -/
def Settled (w : Watch κ) : Prop := ∀ x ∈ w.activities, ∀ p node, x.2 ≠ .lost (some p) node

theorem Settled.spawn {w : Watch κ} (s : w.Settled) {a : Activity κ}
    (other : ∀ p node, a ≠ .lost (some p) node) : (w.spawn a).Settled := by
  intro x hx
  rcases List.mem_append.mp hx with old | new
  · exact s x old
  · rw [List.mem_singleton.mp new]
    exact other

theorem Settled.submit {w : Watch κ} (s : w.Settled) {a : Activity κ}
    (other : ∀ p node, a ≠ .lost (some p) node) (takes : Bool) : (w.submit takes a).Settled := by
  cases takes with
  | true => exact s.spawn other
  | false => exact s

theorem Settled.without {w : Watch κ} (s : w.Settled) (id : Nat) : (w.without id).Settled :=
  fun x hx => s x (List.mem_filter.mp hx).1

/-- Where a loss is handled at once, none is left to be handled. -/
theorem Settled.update {w : Watch κ} (s : w.Settled) (cause : Option (Activity κ)) (takes : Bool)
    (r : Detector κ × List (Effect κ)) : (w.update cause takes r).Settled := by
  refine update_preserves (P := Settled) cause takes r s fun v e _ h => ?_
  have noted : (v.note e).Settled := h
  cases e with
  | tell notice => exact h
  | count series => exact h
  | schedule p delay => exact noted.submit (a := .scheduled p delay) nofun takes
  | dispatch listeners failure =>
    have raised : ((v.note (.dispatch listeners failure)).raise failure takes).Settled := h
    exact raised.submit (a := .calling _ listeners failure) nofun takes
  | ping p request => exact noted.spawn (a := .pinging p request _) nofun
  | connect before leader => exact noted.spawn (a := .connecting _ before leader) nofun

theorem Valid.waiting_without {w : Watch κ} (v : w.Valid) (since : Nat → Nat) {id : Nat}
    {a : Activity κ} (here : w.activities.lookup id = some a) :
    (w.waiting since).Perm ((a.pingsAt (since id)).toList ++ (w.without id).waiting since) := by
  obtain ⟨l₁, l₂, split, left⟩ := v.split here
  have moved : (l₁ ++ (id, a) :: l₂).Perm ((id, a) :: (l₁ ++ l₂)) := List.perm_middle
  have first := moved.filterMap fun x => x.2.pingsAt (since x.1)
  rwa [← split, ← left, filterMap_cons_toList] at first

end Watch

namespace Timed

/-- The pings that wait, each with its moment. -/
def waiting {κ : Type} (t : Timed κ) : List (PingerId × Nat) := t.watch.waiting t.since

/-- When pings were sent, the oldest first. -/
def pingTimes {κ : Type} (t : Timed κ) : List Nat :=
  (t.history.filter (·.mark == .ping)).map (·.time)

/-- A follower is as a watch has it; on the clocks of both it is the same time, the same pings wait
for the same moments, and pings were sent at the same times. -/
structure Matches (t : Timed Listener) (v : World) (ahead : List Event) : Prop where
  watch : t.watch.Matches v ahead
  taking : v.schedulerClosed = false
  now : t.now = v.agenda.now
  ordered : v.agenda.Ordered
  waiting : v.waiting.Perm t.waiting
  pinged : v.pingTimes = t.pingTimes
  settled : t.watch.Settled

variable {t : Timed Listener} {v : World} {ahead : List Event}

theorem Matches.quiet {v' : World} (m : t.Matches v ahead) (adds : v.Adds v' none)
    (sets : v.Sets v' [] []) : t.Matches v' ahead where
  watch := m.watch.quiet adds
  taking := sets.closed.trans m.taking
  now := m.now.trans sets.now.symm
  ordered := sets.ordered m.ordered
  waiting := sets.waiting.trans m.waiting
  pinged := by
    rw [sets.pinged, m.pinged]
    exact List.append_nil _
  settled := m.settled

theorem go_pingTimes (t : Timed Listener) (m : Move Listener) :
    (t.go m).pingTimes = t.pingTimes ++
      (t.watch.pingedSince (t.watch.step true m)).map fun _ => t.now := by
  have noted : ((t.entries m).filter (·.mark == .ping)).map (·.time) =
      (t.watch.pingedSince (t.watch.step true m)).map fun _ => t.now := by
    have causes (xs : List (Occasion × PingerId)) (f : Occasion × PingerId → Entry)
        (due : ∀ x, (f x).mark = .due x.1) : (xs.map f).filter (·.mark == .ping) = [] :=
      List.filter_eq_nil_iff.mpr fun e he => by
        obtain ⟨x, _, rfl⟩ := List.mem_map.mp he
        simp [due]
    rw [entries, List.filter_append, causes _ _ fun _ => rfl, List.nil_append,
      List.filter_eq_self.mpr, List.map_map]
    · rfl
    · intro e he
      obtain ⟨p, _, rfl⟩ := List.mem_map.mp he
      rfl
  rw [pingTimes, go, List.filter_append, List.map_append, noted]
  rfl

/-- What is left of a watch waits as before, whatever move is made. -/
theorem waiting_left {m : Move Listener} {u : Watch Listener} (valid : t.watch.Valid)
    (base : t.watch.Base m u) : u.waiting (t.go m).since = u.waiting t.since := by
  refine List.filterMap_congr fun x hx => ?_
  rw [base.activities] at hx
  have old := (Watch.others_mem hx).1
  rw [go_since_old valid m old]

/-- An event makes of a watch in a move what it makes of a follower. -/
theorem Matches.go {m : Move Listener} {u : Watch Listener} {cause : Option (Activity Listener)}
    {r : Detector Listener × List (Effect Listener)} (valid : t.watch.Valid)
    (base : t.watch.Base m u) (step : t.watch.step true m = u.update cause true r)
    (left : { t with watch := u }.Matches v ahead) (keeps : Bool) :
    (t.go m).Matches (v.update keeps r) ahead := by
  have sets := World.sets_update left.taking keeps r
  have new : ∀ id, u.begun ≤ id → (t.go m).since id = t.now := by
    intro id hid
    rw [base.begun] at hid
    exact if_neg (Nat.not_lt_of_le hid)
  constructor
  case watch =>
    have matched := left.watch.update keeps cause r
    rw [left.taking] at matched
    change (t.watch.step true m).Matches _ _
    rw [step]
    exact matched
  case taking => exact sets.closed.trans left.taking
  case now => exact left.now.trans sets.now.symm
  case ordered => exact sets.ordered left.ordered
  case waiting =>
    have later : (t.go m).waiting = u.waiting t.since ++ r.2.filterMap (Effect.pingsAt t.now) := by
      change (t.watch.step true m).waiting _ = _
      rw [step, u.update_waiting cause new r, waiting_left valid base]
    rw [later, left.now]
    exact sets.waiting.trans ((left.waiting.append_left _).trans List.perm_append_comm)
  case pinged =>
    have asked : (t.watch.step true m).asked = t.watch.asked ++ r.2 := by
      rw [step, Watch.update_asked, base.asked]
    rw [sets.pinged, go_pingTimes, Watch.pingedSince_of_asked asked, left.pinged, ← left.now]
    rfl
  case settled =>
    have kept := left.settled.update cause true r
    rwa [← step] at kept

/-- An activity whose moment has come goes on in a watch as in a follower. -/
theorem Matches.proceed (valid : t.watch.Valid) {id : Nat} {a : Activity Listener}
    (here : t.watch.activities.lookup id = some a) (come : (t.due id a).all (· ≤ t.now) = true)
    (left : { t with watch := t.watch.without id }.Matches v ahead) (keeps : Bool) (source : Node)
    (result : Except TransportError Unit) (silent : ∀ w : Watch Listener, w.deliver a = w) :
    (t.run [.move (.proceed id source result)]).Matches
      (v.update keeps (v.detector.goOn source result a)) ahead := by
  let m : Move Listener := .proceed id source result
  have permitted : t.permits m = true := by
    simp only [m, permits, Move.lets, here, come]
  have ran : t.run [.move m] = t.go m := if_pos permitted
  have step : t.watch.step true m =
      (t.watch.without id).update (some a) true (v.detector.goOn source result a) := by
    rw [Watch.step_proceed here, Watch.proceed, silent, ← left.watch.detector]
  rw [ran]
  exact Matches.go valid (t.watch.base_others m) step left keeps

/-- Whoever is yet to be called is called, and no time passes. -/
theorem Matches.calls {rest : List (Nat × Listener)} {failure : LeaderFailure} {session : Nat} :
    ∀ {t : Timed Listener} {id : Nat} {ahead : List Event}, t.Steady →
      t.watch.activities.lookup id = some (.calling session rest failure) →
      { t with watch := t.watch.without id }.Matches v ahead →
      ∃ ticks, (t.run ticks).Matches v
        (ahead ++ rest.filterMap fun l => Delivery.event ⟨session, l, failure⟩) := by
  induction rest with
  | nil =>
    intro t id ahead steady here left
    refine ⟨[.move (.proceed id failure.leader (.ok ()))], ?_⟩
    rw [List.filterMap_nil, List.append_nil]
    exact Matches.proceed steady.valid here rfl left false failure.leader (.ok ()) fun _ => rfl
  | cons listener rest ih =>
    intro t id ahead steady here left
    let m : Move Listener := .proceed id failure.leader (.ok ())
    let d : Delivery Listener := ⟨session, listener, failure⟩
    let called := (t.watch.without id).call d
    have valid : called.Valid :=
      have v := steady.valid.without id
      ⟨steady.valid.sound, v.fits, v.numbered, v.below⟩
    have step : t.watch.step true m = called.spawn (.calling session rest failure) :=
      Watch.step_proceed here true failure.leader (.ok ())
    have ran : t.step (.move m) = t.go m := if_pos (by simp only [m, permits, Move.lets, here]; rfl)
    have next : (t.go m).watch.activities.lookup t.watch.begun =
        some (.calling session rest failure) := by
      change (t.watch.step true m).activities.lookup _ = _
      rw [step]
      exact valid.lookup_spawn _
    have gone : (t.go m).watch.without t.watch.begun =
        { called with begun := t.watch.begun + 1 } := by
      change (t.watch.step true m).without _ = _
      rw [step]
      exact valid.without_spawn _
    have base : t.watch.Base m (t.watch.without id) := t.watch.base_others m
    have unpinged : t.watch.pingedSince (t.watch.step true m) = [] := by
      rw [step]
      exact Watch.pingedSince_same rfl
    have matched : { t.go m with watch := (t.go m).watch.without t.watch.begun }.Matches v
        (ahead ++ d.event.toList) := by
      rw [gone]
      refine ⟨⟨left.watch.detector, left.watch.metrics, ?_, left.watch.errands⟩, left.taking,
        left.now, left.ordered, ?_, ?_, left.settled⟩
      · have heard := left.watch.heard
        change _ = ((t.watch.without id).deliveries ++ [d]).filterMap Delivery.event
        rw [← List.append_assoc, heard, List.filterMap_append, filterMap_cons_toList,
          List.filterMap_nil, List.append_nil]
      · change v.waiting.Perm ((t.watch.without id).waiting (t.go m).since)
        rw [waiting_left steady.valid base]
        exact left.waiting
      · have same : (t.go m).pingTimes = t.pingTimes := by
          rw [go_pingTimes, unpinged]
          exact List.append_nil _
        exact left.pinged.trans same.symm
    obtain ⟨ticks, done⟩ := ih (steady.go m) next matched
    refine ⟨.move m :: ticks, ?_⟩
    rw [run, List.foldl_cons, ran, filterMap_cons_toList, ← List.append_assoc]
    exact done

end Timed

namespace World

/-- Whatever a watch on a clock has to do with one state of a follower, some of its moves, and the
time between them, lead it to the next. -/
def Guides (ahead : List Event) (v v' : World) : Prop :=
  ∀ t : Timed Listener, t.Steady → t.Matches v ahead → ∃ ticks, (t.run ticks).Matches v' ahead

variable {ahead : List Event}

theorem Guides.refl (v : World) : Guides ahead v v := fun _ _ m => ⟨[], m⟩

theorem Guides.trans {u v v' : World} (h : Guides ahead u v) (h' : Guides ahead v v') :
    Guides ahead u v' := by
  intro t steady m
  obtain ⟨first, m⟩ := h t steady m
  obtain ⟨second, m⟩ := h' _ (steady.run first) m
  refine ⟨first ++ second, ?_⟩
  rw [Timed.run, List.foldl_append]
  exact m

theorem guides_quiet {v v' : World} (adds : v.Adds v' none) (sets : v.Sets v' [] []) :
    Guides ahead v v' :=
  fun _ _ m => ⟨[], m.quiet adds sets⟩

/-- A move that is no activity's comes at any time. -/
theorem guides_event (v : World) (keeps : Bool) (m : Move Listener) (free : m.lets = none)
    (event : Detector Listener → Detector Listener × List (Effect Listener))
    (entered : Watch Listener → Watch Listener)
    (base : ∀ w : Watch Listener, w.Base m (entered w))
    (same : ∀ w : Watch Listener, w.Matches v ahead → (entered w).Matches v ahead)
    (step : ∀ w : Watch Listener, w.step true m = (entered w).update none true (event w.detector)) :
    Guides ahead v (v.update keeps (event v.detector)) := by
  intro t steady h
  have ran : t.run [.move m] = t.go m := if_pos (by simp only [Timed.permits, free])
  refine ⟨[.move m], ?_⟩
  rw [ran, ← h.watch.detector]
  refine Timed.Matches.go steady.valid (base t.watch) (step t.watch) ?_ keeps
  have waits : (entered t.watch).waiting t.since = t.waiting := by
    have others : t.watch.others m = t.watch := by simp only [Watch.others, free]
    rw [Watch.waiting, (base t.watch).activities, others]
    rfl
  have settled : (entered t.watch).Settled := by
    have others : t.watch.others m = t.watch := by simp only [Watch.others, free]
    rw [Watch.Settled, (base t.watch).activities, others]
    exact h.settled
  exact ⟨same _ h.watch, h.taking, h.now, h.ordered, h.waiting.trans (.of_eq waits.symm), h.pinged,
    settled⟩

theorem guides_restart (v : World) (keeps : Bool) (leader : Node) (reason : String) :
    Guides ahead v (v.update keeps (v.detector.restart leader reason)) := by
  refine v.guides_event keeps (.restart leader reason) rfl (·.restart leader reason)
    (·.enter leader) (·.base_enter leader reason) (fun w m => ?_) fun _ => rfl
  unfold Watch.enter
  split
  · exact m
  · exact ⟨m.detector, m.metrics, m.heard, m.errands⟩

theorem guides_stop (v : World) (keeps : Bool) (reason : String) :
    Guides ahead v (v.update keeps (v.detector.stop reason)) :=
  v.guides_event keeps (.stop reason) rfl (·.stop reason) id (·.base_others _) (fun _ m => m)
    fun _ => rfl

theorem guides_shutdown (v : World) (keeps : Bool) :
    Guides ahead v (v.update keeps v.detector.shutdown) :=
  v.guides_event keeps .shutdown rfl (·.shutdown) id (·.base_others _) (fun _ m => m) fun _ => rfl

theorem guides_disconnected (v : World) (keeps : Bool) (node : Node) :
    Guides ahead v (v.update keeps (v.detector.disconnected node)) :=
  v.guides_event keeps (.handle node) rfl (·.disconnected node) id (·.base_others _) (fun _ m => m)
    fun _ => rfl

theorem guides_giveUp (v : World) : Guides ahead v v.giveUp := by
  unfold giveUp
  split
  · exact .refl v
  · have ended : Guides ahead v { v with detector := v.detector.endSession } :=
      v.guides_event false .drop rfl (fun d => (d.endSession, [])) id (·.base_others _)
        (fun _ m => m) fun _ => rfl
    refine ended.trans (guides_quiet ?_ (sets_same rfl rfl rfl))
    exact ⟨rfl, rfl, rfl, fun _ => Nat.le_add_right ..⟩

theorem guides_addListener (v : World) (listener : Listener) (names : List (String × Nat)) :
    Guides ahead v { v with detector := (v.detector.addListener listener).1, names } := by
  have added : Guides ahead v { v with detector := (v.detector.addListener listener).1 } :=
    v.guides_event false (.addListener listener) rfl (fun d => ((d.addListener listener).1, [])) id
      (·.base_others _) (fun _ m => m) fun _ => rfl
  refine added.trans (guides_quiet ?_ (sets_same rfl rfl rfl))
  exact ⟨rfl, rfl, rfl, fun _ => Nat.le_add_right ..⟩

theorem guides_removeListener (v : World) (name : String) :
    Guides ahead v (v.removeListener name).1 := by
  unfold removeListener
  split
  · exact .refl v
  · next number _ =>
    exact v.guides_event false (.removeListener number) rfl
      (fun d => ((d.removeListener number).1, [])) id (·.base_others _) (fun _ m => m) fun _ => rfl

theorem guides_react (v : World) (reaction : Reaction) : Guides ahead v (v.react reaction) := by
  cases reaction with
  | restart leader => exact v.guides_restart false leader "listener"
  | stop => exact v.guides_stop false "listener"
  | shutdown => exact v.guides_shutdown false
  | remove name =>
    exact (v.guides_removeListener name).trans
      (guides_quiet (adds_observe _ rfl) (sets_observe _ rfl))

theorem observe_matches {v : World} {t : Timed Listener} {e : Event}
    (m : t.Matches v (e :: ahead)) (call : e.isCall = true) : t.Matches (v.observe e) ahead := by
  have other : e.isPing = false := by cases e <;> first | rfl | cases call
  have sets := v.sets_observe other
  refine ⟨matches_observe m.watch call, m.taking, m.now, m.ordered, m.waiting, ?_, m.settled⟩
  rw [sets.pinged, m.pinged]
  exact List.append_nil _

/-- The follower calls a listener that the watch has called. -/
theorem notify_matches {v : World} {t : Timed Listener} {d : Delivery Listener} (steady : t.Steady)
    (m : t.Matches v (d.event.toList ++ ahead)) :
    ∃ ticks, (t.run ticks).Matches (v.notify d.failure d.listener) ahead := by
  obtain ⟨session, ⟨id, listener⟩, failure⟩ := d
  cases listener with
  | forget =>
    have adds := (v.adds_tell (.leaderFailed failure.leader failure.reason)).trans
      (adds_spawn _ (.forget failure.leader))
    have sets := (v.sets_tell (.leaderFailed failure.leader failure.reason)).trans
      (sets_spawn _ (.forget failure.leader))
    exact guides_quiet adds sets t steady m
  | closure name => exact ⟨[], observe_matches m rfl⟩
  | named name reaction =>
    have observed := observe_matches m rfl
    cases reaction with
    | none => exact ⟨[], observed⟩
    | some reaction =>
      simp only [notify]
      split
      · exact guides_react _ reaction t steady observed
      · exact ⟨[], observed⟩

/-- A task that was ready is taken up. -/
structure TakesUp (v : World) (task : Task) (v' : World) : Prop where
  takes : Takes v v' task.errand
  now : v'.agenda.now = v.agenda.now
  closed : v'.schedulerClosed = v.schedulerClosed
  ordered : v.agenda.Ordered → v'.agenda.Ordered
  waiting : v.waiting = (task.pingsAt v.agenda.now).toList ++ v'.waiting
  pinged : v'.pingTimes = v.pingTimes

theorem takesUp_ready {v : World} {task : Task} {rest : List Task}
    (ready : v.agenda.ready = task :: rest) :
    v.TakesUp task { v with agenda := { v.agenda with ready := rest } } where
  takes := by
    refine ⟨rfl, rfl, rfl, fun e => ?_⟩
    simp only [errands, ready, List.countP_cons, beq_iff_eq]
    omega
  now := rfl
  closed := rfl
  ordered o := ⟨o.unpassed, o.sorted⟩
  waiting := by
    rw [waiting, ready, filterMap_cons_toList, List.append_assoc]
    rfl
  pinged := rfl

/-- Nothing has happened if what was taken up was put off again. -/
theorem TakesUp.sets {u v v' : World} {task : Task} (h : v.TakesUp task v')
    (sets : v'.Sets u (task.pingsAt v'.agenda.now).toList []) : v.Sets u [] [] where
  now := sets.now.trans h.now
  closed := sets.closed.trans h.closed
  ordered o := sets.ordered (h.ordered o)
  waiting := by
    rw [List.nil_append, h.waiting, ← h.now]
    exact sets.waiting
  pinged := by
    rw [sets.pinged, h.pinged]
    rfl

/-- What is taken up has an errand that an activity has whose moment has come, too. -/
theorem TakesUp.matches {v v' : World} {task : Task} (h : v.TakesUp task v') {e : Errand Listener}
    (errand : task.errand = some e)
    (come : ∀ x, task.pingsAt v.agenda.now = some x → x.2 = v.agenda.now) {t : Timed Listener}
    (steady : t.Steady) (m : t.Matches v ahead) :
    ∃ id a, t.watch.activities.lookup id = some a ∧ a.errand = some e ∧
      (t.due id a).all (· ≤ t.now) = true ∧
      { t with watch := t.watch.without id }.Matches v' ahead := by
  have takes := h.takes
  rw [errand] at takes
  have left {id : Nat} {a : Activity Listener} (found : t.watch.activities.lookup id = some a)
      (same : a.errand = some e) (as : a.pingsAt (t.since id) = task.pingsAt v.agenda.now) :
      { t with watch := t.watch.without id }.Matches v' ahead := by
    refine ⟨takes.left steady.valid m.watch found same, h.closed.trans m.taking,
      m.now.trans h.now.symm, h.ordered m.ordered, ?_, h.pinged.trans m.pinged,
      m.settled.without id⟩
    have both := m.waiting.trans (steady.valid.waiting_without t.since found)
    rw [h.waiting, as] at both
    exact (List.perm_append_left_iff _).mp both
  cases waits : task.pingsAt v.agenda.now with
  | none =>
    obtain ⟨id, a, found, same, _⟩ := takes.matches steady.valid m.watch
    have unscheduled : a.pingsAt (t.since id) = none ∧ t.due id a = none := by
      cases a with
      | scheduled p delay =>
        cases same
        obtain ⟨moment, scheduled⟩ := (Task.errand_round v.agenda.now).mp errand
        cases waits.symm.trans scheduled
      | lost run node => cases same
      | _ => exact ⟨rfl, rfl⟩
    refine ⟨id, a, found, same, ?_, left found same (unscheduled.1.trans waits.symm)⟩
    rw [unscheduled.2]
    rfl
  | some x =>
    obtain ⟨p, moment⟩ := x
    obtain rfl : moment = v.agenda.now := come _ waits
    have known : (p, v.agenda.now) ∈ t.waiting := by
      refine m.waiting.mem_iff.mp ?_
      rw [h.waiting, waits]
      exact List.mem_cons_self
    obtain ⟨⟨id, a⟩, here, as⟩ := List.mem_filterMap.mp known
    have found := steady.valid.lookup_of_mem here
    have same : a.errand = some e := by
      rw [(Activity.errand_round _).mpr ⟨_, as⟩, ← errand,
        (Task.errand_round v.agenda.now).mpr ⟨_, waits⟩]
    refine ⟨id, a, found, same, ?_, left found same (as.trans waits.symm)⟩
    cases a with
    | scheduled q delay =>
      have moment := (Prod.mk.inj (Option.some.inj as)).2
      rw [Timed.due, moment, m.now]
      simp
    | lost run node => cases same
    | _ => rfl

/-- A task that is taken up goes on in the follower as in the watch. -/
theorem guides_goOn {v v' : World} {task : Task} (h : v.TakesUp task v') {e : Errand Listener}
    (errand : task.errand = some e)
    (come : ∀ x, task.pingsAt v.agenda.now = some x → x.2 = v.agenda.now) (keeps : Bool)
    (r : Detector Listener → Detector Listener × List (Effect Listener)) (source : Node)
    (result : Except TransportError Unit)
    (same : ∀ a : Activity Listener, a.errand = some e →
      (∀ d : Detector Listener, d.goOn source result a = r d) ∧
      ∀ w : Watch Listener, w.deliver a = w) :
    Guides ahead v (v'.update keeps (r v'.detector)) := by
  intro t steady m
  obtain ⟨id, a, found, of, due, left⟩ := h.matches errand come steady m
  obtain ⟨outcome, silent⟩ := same a of
  refine ⟨[.move (.proceed id source result)], ?_⟩
  rw [← outcome]
  exact Timed.Matches.proceed steady.valid found due left keeps source result silent

theorem guides_beginRound {v v' : World} {task : Task} (h : v.TakesUp task v') {p : PingerId}
    (come : task.pingsAt v.agenda.now = some (p, v.agenda.now)) (source : Node) :
    Guides ahead v (v'.update false (v'.detector.beginRound p source)) := by
  have errand := (Task.errand_round v.agenda.now).mpr ⟨_, come⟩
  refine guides_goOn h errand (fun x hx => ?_) false (·.beginRound p source) source (.ok ())
    fun a same => ?_
  · rw [come] at hx
    rw [← Option.some.inj hx]
  · cases a <;> cases same
    exact ⟨fun _ => rfl, fun _ => rfl⟩

theorem guides_answer {v v' : World} {c : Call} {result : Except TransportError Unit}
    (h : v.TakesUp (.answered c result) v') : Guides ahead v (v'.answer c result) := by
  cases c with
  | ping p request =>
    refine guides_goOn h rfl (fun x hx => by cases hx) false (·.pinged p request result)
      request.source result fun a same => ?_
    cases a <;> cases same
    exact ⟨fun _ => rfl, fun _ => rfl⟩
  | connect before leader keeps =>
    refine guides_goOn h rfl (fun x hx => by cases hx) keeps (·.connected before leader result)
      leader result fun a same => ?_
    cases a <;> cases same
    exact ⟨fun _ => rfl, fun _ => rfl⟩
  | handshake peer rest loop found =>
    exact guides_quiet (h.takes.adds (v'.adds_handshaken peer rest loop _))
      (h.sets (v'.sets_handshaken peer rest loop _))

theorem guides_dispatch {v v' : World} {listeners : List (Nat × Listener)} {failure : LeaderFailure}
    (h : v.TakesUp (.dispatch listeners failure) v') :
    Guides [] v (listeners.foldl (notify failure) v') := by
  let event (l : Nat × Listener) : Option Event := Delivery.event ⟨0, l, failure⟩
  have reacts (listeners : List (Nat × Listener)) (v : World) (t : Timed Listener)
      (steady : t.Steady) (m : t.Matches v (listeners.filterMap event)) :
      ∃ ticks, (t.run ticks).Matches (listeners.foldl (notify failure) v) [] := by
    induction listeners generalizing v t with
    | nil => exact ⟨[], m⟩
    | cons l listeners ih =>
      rw [filterMap_cons_toList] at m
      obtain ⟨reaction, m⟩ := notify_matches steady m
      obtain ⟨others, m⟩ := ih _ _ (steady.run reaction) m
      refine ⟨reaction ++ others, ?_⟩
      rw [Timed.run, List.foldl_append]
      exact m
  intro t steady m
  obtain ⟨id, a, found, errand, _, left⟩ := h.matches rfl (fun x hx => by cases hx) steady m
  cases a <;> cases errand
  obtain ⟨called, told⟩ := Timed.Matches.calls steady found left
  obtain ⟨ticks, done⟩ := reacts listeners v' _ (steady.run called) told
  refine ⟨called ++ ticks, ?_⟩
  rw [Timed.run, List.foldl_append]
  exact done

theorem guides_reconcile (v : World) : Guides ahead v v.reconcile := by
  unfold reconcile
  split
  · exact .refl v
  · exact v.guides_stop true _
  · exact v.guides_restart true _ _

theorem guides_discover (v : World) (rest : List PeerConfig) (loop : Loop) :
    Guides ahead v (v.discover rest loop) := by
  cases rest with
  | nil =>
    refine v.guides_reconcile.trans ?_
    cases loop with
    | none => exact .refl _
    | some due => exact guides_quiet (adds_after _ _ (.tick due)) (sets_after _ _ (.tick due))
  | cons peer rest =>
    have observed : Guides ahead v (v.observe (.handshake peer.address)) :=
      guides_quiet (adds_observe _ rfl) (sets_observe _ rfl)
    refine observed.trans ?_
    simp only [discover]
    split
    · next served _ =>
      exact guides_quiet (adds_call _ (.handshake peer rest loop served.node) served.script)
        (sets_call _ _ _)
    · split
      · next live =>
        have emitted : Guides ahead (v.observe (.handshake peer.address))
            ((v.observe (.handshake peer.address)).call
              (.handshake peer rest loop ⟨"", "", peer.address⟩) (.hold "")) :=
          guides_quiet (adds_call ..) (sets_call ..)
        rwa [call, if_pos live] at emitted
      · exact guides_quiet (adds_proceed _ (.answered (.handshake peer rest loop _) _))
          (sets_proceed _ (.answered (.handshake peer rest loop _) _))

/-- A task that runs goes on as some activity of the watch, if it concerns the watch at all. -/
theorem guides_run {v v' : World} {task : Task} (h : v.TakesUp task v') :
    Guides [] v (v'.run task) := by
  have taken (unscheduled : task.pingsAt v'.agenda.now = none) (free : task.errand = none) :
      Guides [] v v' := by
    have takes := h.takes
    rw [free] at takes
    have sets := Sets.refl v'
    exact guides_quiet (takes.adds (.refl v')) (h.sets (by rwa [unscheduled]))
  cases task with
  | scheduled delay p =>
    cases delay with
    | zero => exact guides_beginRound h rfl _
    | succ delay =>
      exact guides_quiet (h.takes.adds (v'.adds_after (delay + 1) (.round p)))
        (h.sets (v'.sets_after (delay + 1) (.round p)))
  | round p => exact guides_beginRound h rfl _
  | answered c result => exact guides_answer h
  | released c reply =>
    exact guides_quiet (h.takes.adds (v'.adds_reply c reply))
      (h.sets (v'.sets_after _ (.answered c _)))
  | disconnected node keeps => exact (taken rfl rfl).trans (v'.guides_disconnected keeps node)
  | dispatch listeners failure => exact guides_dispatch h
  | forget leader =>
    exact (taken rfl rfl).trans (guides_quiet (v'.adds_submit _ _) (v'.sets_submit _ _))
  | discover rest loop => exact (taken rfl rfl).trans (v'.guides_discover rest loop)
  | looping =>
    refine (taken rfl rfl).trans ?_
    simp only [run]
    split
    · exact .refl v'
    · exact guides_quiet (v'.adds_proceed (.tick _)) (v'.sets_proceed (.tick _))
  | tick due =>
    exact (taken rfl rfl).trans
      (guides_quiet (v'.adds_proceed (.discover _ _)) (v'.sets_proceed (.discover _ _)))
  | work => exact (taken rfl rfl).trans (guides_quiet v'.adds_work v'.sets_work)
  | finished waiter result =>
    exact (taken rfl rfl).trans (guides_quiet (v'.adds_finish _ _) (v'.sets_finish _ _))

/-- Time passes in which nothing is due. -/
theorem guides_reach {v : World} (idle : v.agenda.ready = []) {moment : Nat}
    (later : ∀ x ∈ v.agenda.timers, moment ≤ x.1) :
    Guides ahead v { v with agenda := v.agenda.reach moment } := by
  intro t steady m
  have early : ∀ x ∈ v.agenda.timers, max v.agenda.now moment ≤ x.1 := fun x hx =>
    Nat.max_le.mpr ⟨m.ordered.unpassed x hx, later x hx⟩
  have waits : v.waiting = v.agenda.timers.filterMap fun x => x.2.pingsAt x.1 := by
    rw [waiting, idle]
    rfl
  let time := max v.agenda.now moment - v.agenda.now
  have sum : t.now + time = max v.agenda.now moment := by
    have bound := Nat.le_max_left v.agenda.now moment
    rw [m.now]
    omega
  have allowed : t.allows time = true := by
    refine List.all_eq_true.mpr fun x hx => ?_
    obtain ⟨id, a⟩ := x
    cases a with
    | scheduled p delay =>
      have known : (p, t.since id + delay.millis) ∈ t.waiting :=
        List.mem_filterMap.mpr ⟨_, hx, rfl⟩
      rw [← m.waiting.mem_iff, waits] at known
      obtain ⟨⟨due, task⟩, there, as⟩ := List.mem_filterMap.mp known
      have bound := early _ there
      have reached : due ≤ t.since id + delay.millis := by
        cases task with
        | scheduled delay q =>
          rw [← (Prod.mk.inj (Option.some.inj as)).2]
          exact Nat.le_add_right ..
        | round q => exact Nat.le_of_eq (Prod.mk.inj (Option.some.inj as)).2
        | _ => cases as
      simp only [Timed.due, Option.all_some, decide_eq_true_eq, sum]
      exact Nat.le_trans bound reached
    | lost run node =>
      cases run with
      | none => rfl
      | some p => exact absurd rfl (m.settled _ hx p node)
    | _ => rfl
  have ran : t.run [.pass time] = { t with now := t.now + time } := if_pos allowed
  refine ⟨[.pass time], ?_⟩
  rw [ran]
  refine ⟨⟨m.watch.detector, m.watch.metrics, m.watch.heard, m.watch.errands⟩, m.taking, sum,
    ⟨early, m.ordered.sorted⟩, ?_, m.pinged, m.settled⟩
  have same : World.waiting { v with agenda := v.agenda.reach moment } = v.waiting := by
    rw [waits, waiting, Agenda.reach, idle]
    rfl
  rw [same]
  exact m.waiting

/-- What waits for this moment becomes ready. -/
theorem rouse {v : World} (idle : v.agenda.ready = []) :
    let agenda := { v.agenda with
      ready := (v.agenda.timers.filter (·.1 ≤ v.agenda.now)).map (·.2)
      timers := v.agenda.timers.filter (¬ ·.1 ≤ v.agenda.now) }
    v.agenda.Ordered → v.Adds { v with agenda } none ∧ v.Sets { v with agenda } [] [] := by
  intro agenda ordered
  constructor
  · refine ⟨rfl, rfl, rfl, fun e => ?_⟩
    simp only [agenda, errands, idle, List.countP_map, List.countP_nil]
    have split := List.countP_eq_countP_filter_add v.agenda.timers (·.2.errand == some e)
      (·.1 ≤ v.agenda.now)
    simp only [decide_not, Function.comp_def] at split ⊢
    omega
  · refine ⟨rfl, rfl, fun _ => ⟨fun x hx => ?_, ?_⟩, ?_, (List.append_nil _).symm⟩
    · exact ordered.unpassed x (List.mem_filter.mp hx).1
    · exact ordered.sorted.sublist List.filter_sublist
    · have due : ((v.agenda.timers.filter (·.1 ≤ v.agenda.now)).map (·.2)).filterMap
          (Task.pingsAt v.agenda.now) =
          (v.agenda.timers.filter (·.1 ≤ v.agenda.now)).filterMap fun x => x.2.pingsAt x.1 := by
        rw [List.filterMap_map]
        refine List.filterMap_congr fun x hx => ?_
        obtain ⟨there, passed⟩ := List.mem_filter.mp hx
        have now : x.1 = v.agenda.now :=
          Nat.le_antisymm (of_decide_eq_true passed) (ordered.unpassed x there)
        rw [now]
        rfl
      simp only [waiting, agenda, due, idle, List.filterMap_nil, List.nil_append]
      rw [← List.filterMap_append]
      refine List.Perm.filterMap _ ?_
      simpa only [decide_not] using List.filter_append_perm (·.1 ≤ v.agenda.now) v.agenda.timers

/-- Whether the follower does something or its clock moves on, the watch keeps up with it. -/
theorem guides_step {v next : World} {limit : Nat} (h : v.step limit = some next) :
    Guides [] v next := by
  unfold step at h
  split at h
  · next task agenda popped =>
    obtain rfl := Option.some.inj h
    unfold Agenda.pop at popped
    split at popped
    · cases popped
    · next task rest ready =>
      cases popped
      exact (guides_run (takesUp_ready ready)).trans (guides_giveUp _)
  · next unready =>
    have idle : v.agenda.ready = [] := by
      unfold Agenda.pop at unready
      split at unready
      · assumption
      · cases unready
    obtain ⟨agenda, woken, rfl⟩ := Option.map_eq_some_iff.mp h
    unfold Agenda.wake at woken
    split at woken
    · cases woken
    · next due task rest first =>
      split at woken
      · cases woken
      · cases woken
        intro t steady m
        let u : World := { v with agenda := v.agenda.reach due }
        have reached : Guides [] v u := guides_reach idle (m.ordered.first first)
        obtain ⟨ticks, m⟩ := reached t steady m
        obtain ⟨adds, sets⟩ := rouse (v := u) idle m.ordered
        refine ⟨ticks, ?_⟩
        have next := m.quiet adds sets
        simpa only [u, Agenda.reach, idle, List.nil_append] using next

theorem guides_runUntil (v : World) (limit fuel : Nat) : Guides [] v (runUntil limit fuel v) := by
  induction fuel generalizing v with
  | zero => exact .refl v
  | succ fuel ih =>
    unfold runUntil
    split
    · next next h => exact (guides_step h).trans (ih next)
    · exact .refl v

/-- Whether the scheduler stays open in an operation, and no time passes in it before all that is
due has happened. -/
def timely (v : World) : Operation → Bool
  | .advance time =>
    let limit := v.agenda.now + time
    ((runUntil limit stepLimit v).step limit).isNone
  | .closeScheduler => false
  | _ => true

def allTimely (v : World) : List Operation → Bool
  | [] => true
  | op :: ops => v.timely op && (v.operate op).1.allTimely ops

/-- Nothing is left to be done up to a moment if no step is. -/
theorem resting_of_step {v : World} (ordered : v.agenda.Ordered) {limit : Nat}
    (rests : v.step limit = none) :
    v.agenda.ready = [] ∧ ∀ x ∈ v.agenda.timers, limit ≤ x.1 := by
  unfold step Agenda.pop at rests
  cases ready : v.agenda.ready with
  | cons task rest => simp [ready] at rests
  | nil =>
    refine ⟨rfl, ?_⟩
    cases first : v.agenda.timers with
    | nil => simp
    | cons y rest =>
      obtain ⟨due, task⟩ := y
      have late : limit < due := by
        simpa [ready, Agenda.wake, first] using rests
      rw [← first]
      intro x hx
      exact Nat.le_of_lt (Nat.lt_of_lt_of_le late (ordered.first first x hx))

theorem guides_advance {v : World} {time : Nat} (timely : v.timely (.advance time) = true) :
    Guides [] v (v.advance time) := by
  intro t steady m
  let limit := v.agenda.now + time
  obtain ⟨ticks, m⟩ := guides_runUntil v limit stepLimit t steady m
  have rests : (runUntil limit stepLimit v).step limit = none := Option.isNone_iff_eq_none.mp timely
  obtain ⟨idle, later⟩ := resting_of_step m.ordered rests
  obtain ⟨passed, m⟩ := guides_reach idle later _ (steady.run ticks) m
  refine ⟨ticks ++ passed, ?_⟩
  rw [Timed.run, List.foldl_append]
  exact m

/-- A loop of rounds sends no pings. -/
theorem sets_abortDiscovery (v : World) : v.Sets v.abortDiscovery [] [] where
  now := rfl
  closed := rfl
  ordered o := by
    refine ⟨fun x hx => o.unpassed x (List.mem_filter.mp hx).1, ?_⟩
    exact o.sorted.sublist List.filter_sublist
  waiting := by
    have unscheduled (now : Nat) (t : Task) :
        (if (!t.inLoop) = true then t.pingsAt now else none) = t.pingsAt now := by
      cases t <;> simp [Task.inLoop, Task.pingsAt]
    refine .of_eq ?_
    simp only [waiting, abortDiscovery, List.filterMap_filter, unscheduled, List.nil_append]
  pinged := (List.append_nil _).symm

theorem guides_apply (v : World) (op : Operation) (timely : v.timely op = true) :
    Guides [] v (v.apply op).1 := by
  have operate (next : World) (h : Guides [] v next) :
      Guides [] v (if v.operated then next else v) := by
    split
    · exact h
    · exact .refl v
  cases op with
  | restart leader reason => exact operate _ (v.guides_restart false leader reason)
  | stop reason => exact operate _ (v.guides_stop false reason)
  | shutdown => exact operate _ (v.guides_shutdown false)
  | addListener name listener => exact operate _ (v.guides_addListener listener _)
  | removeListener name =>
    simp only [apply]
    split
    · exact v.guides_removeListener name
    · exact .refl v
  | release key reply =>
    simp only [apply]
    split
    · exact .refl v
    · next c held =>
      let left : World := { v with held := v.held.filter (·.1 != key) }
      have removed : v.Sets left [] [] := sets_same rfl rfl rfl
      exact guides_quiet ((v.takes_held held).adds (adds_spawn _ (.released c reply)))
        (removed.trans (left.sets_spawn (.released c reply)))
  | answer key result found lost =>
    intro t steady m
    have told : Guides [] v (lost.foldl lose v) :=
      guides_quiet (v.adds_loseAll lost) (sets_loseAll m.taking lost)
    refine told.trans ?_ t steady m
    simp only [apply]
    split
    · exact .refl _
    · next c held =>
      have taken := takes_held _ held
      rw [← finding_errand found c] at taken
      have removed : (lost.foldl lose v).Sets
          { lost.foldl lose v with held := (lost.foldl lose v).held.filter (·.1 != key) } [] [] :=
        sets_same rfl rfl rfl
      exact guides_quiet (taken.adds (adds_proceed _ (.answered _ result)))
        (removed.trans (sets_proceed _ (.answered _ result)))
  | lose node =>
    intro t steady m
    exact guides_quiet (v.adds_lose node) (sets_lose m.taking node) t steady m
  | handleDisconnect node =>
    exact operate _ (guides_quiet (v.adds_spawn (.disconnected node true))
      (v.sets_spawn (.disconnected node true)))
  | submit task =>
    have cleared : v.Adds { v with outcome := none } none :=
      ⟨rfl, rfl, rfl, fun _ => Nat.le_add_right ..⟩
    have kept : v.Sets { v with outcome := none } [] [] := sets_same rfl rfl rfl
    exact guides_quiet (cleared.trans (adds_submit _ task .operator))
      (kept.trans (sets_submit _ task .operator))
  | forget failure =>
    exact guides_quiet ((v.adds_tell _).trans (adds_spawn _ (.forget failure.leader)))
      ((v.sets_tell _).trans (sets_spawn _ (.forget failure.leader)))
  | discover =>
    refine operate _ ?_
    split
    · next d _ =>
      exact guides_quiet (v.adds_spawn (.discover d.others none))
        (v.sets_spawn (.discover d.others none))
    · exact .refl v
  | startDiscovery =>
    refine operate _ ?_
    split
    · exact guides_quiet (v.adds_spawn .looping) (v.sets_spawn .looping)
    · exact .refl v
  | abortDiscovery => exact guides_quiet v.adds_abortDiscovery v.sets_abortDiscovery
  | closeScheduler => cases timely
  | advance time => exact guides_advance timely
  | drop =>
    have released : v.Adds { v with operated := false } none :=
      ⟨rfl, rfl, rfl, fun _ => Nat.le_add_right ..⟩
    exact (guides_quiet released (sets_same rfl rfl rfl)).trans (guides_giveUp _)
  | nothing => exact .refl v
  | _ =>
    refine guides_quiet ?_ (sets_same rfl rfl rfl)
    exact ⟨rfl, rfl, rfl, fun _ => Nat.le_add_right ..⟩

theorem guides_operate (v : World) (op : Operation) (timely : v.timely op = true) :
    Guides [] v (v.operate op).1 := by
  have settled : Guides [] v ((v.apply op).1.settle.giveUp) :=
    ((v.guides_apply op timely).trans (guides_runUntil _ _ _)).trans (guides_giveUp _)
  unfold operate
  dsimp only
  split <;> exact settled

theorem guides_operations (v : World) (ops : List Operation) (timely : v.allTimely ops = true) :
    Guides [] v (ops.foldl (fun v op => (v.operate op).1) v) := by
  induction ops generalizing v with
  | nil => exact .refl v
  | cons op ops ih =>
    obtain ⟨first, rest⟩ := Bool.and_eq_true_iff.mp timely
    exact (v.guides_operate op first).trans (ih _ rest)

end World

namespace Timed

/-- Whatever an operator does to a follower whose scheduler stays open, and whatever its network
answers, some moves of a watch on a clock come to the same: on both clocks it is the same time, the
same pings wait for the same moments, and pings were sent at the same times. -/
theorem operations_are_timed (state : ClusterState) (settings : FaultDetectionConfig)
    (clusterName : ClusterName) (forget : Bool) (discovery : Option Discovery)
    (ops : List Operation)
    (timely : (World.start state settings clusterName forget discovery).allTimely ops = true) :
    let v := ops.foldl (fun v op => (v.operate op).1)
      (World.start state settings clusterName forget discovery)
    ∃ ticks, ((create settings clusterName).run ticks).Matches v [] := by
  intro v
  let idle : World := {
    detector := (Detector.create settings clusterName).1
    queue := { applied := state }
    discovery }
  let ready : World := (Detector.create settings clusterName).2.foldl (World.perform false) idle
  have created : (create settings clusterName).Matches ready [] := by
    refine ⟨⟨rfl, rfl, rfl, fun _ => Nat.le_refl _⟩, rfl, rfl, ⟨?_, .nil⟩, .refl _, rfl, ?_⟩
    · exact fun x hx => absurd hx List.not_mem_nil
    · exact fun x hx => absurd hx List.not_mem_nil
  have started : World.Guides [] ready
      (World.start state settings clusterName forget discovery) := by
    cases forget with
    | true => exact ready.guides_apply (.addListener "forget" .forget) rfl
    | false => exact .refl ready
  exact (started.trans (World.guides_operations _ ops timely)) _
    (create_steady settings clusterName) created

/-- No chain has two pings waiting, and none waits for a moment that is over. -/
theorem Steady.waiting {t : Timed Listener} (s : t.Steady) :
    (t.waiting.map (·.1)).Nodup ∧ ∀ x ∈ t.waiting, t.now ≤ x.2 := by
  constructor
  · refine List.nodup_iff_count.mpr fun p => ?_
    have single : t.watch.runs p ≤ 1 := by simpa using s.chained.single p
    refine Nat.le_trans ?_ single
    rw [List.count, List.countP_map, Timed.waiting, Watch.waiting, List.countP_filterMap]
    refine List.countP_mono_left fun x _ same => ?_
    obtain ⟨id, a⟩ := x
    cases a with
    | scheduled q delay => simpa [Activity.pingsAt, Activity.run] using same
    | _ => simp [Activity.pingsAt] at same
  · intro x hx
    obtain ⟨⟨id, a⟩, here, as⟩ := List.mem_filterMap.mp hx
    cases a with
    | scheduled p delay =>
      obtain rfl := Option.some.inj as
      exact s.unpassed _ here _ rfl
    | _ => cases as

/-- A follower never has two pings of one chain waiting, nor one for a moment that is over; and its
pings are those of a watch that sends each one when its cause makes it due. -/
theorem follower_punctual (state : ClusterState) (settings : FaultDetectionConfig)
    (clusterName : ClusterName) (forget : Bool) (discovery : Option Discovery)
    (ops : List Operation)
    (timely : (World.start state settings clusterName forget discovery).allTimely ops = true) :
    let v := ops.foldl (fun v op => (v.operate op).1)
      (World.start state settings clusterName forget discovery)
    (v.waiting.map (·.1)).Nodup ∧ (∀ x ∈ v.waiting, v.agenda.now ≤ x.2) ∧
      ∃ t : Timed Listener, t.Punctual ∧ t.watch.detector.settings = settings ∧ t.Matches v [] := by
  intro v
  obtain ⟨ticks, m⟩ :=
    operations_are_timed state settings clusterName forget discovery ops timely
  have punctual := run_punctual (κ := Listener) settings clusterName ticks
  obtain ⟨single, unpassed⟩ := punctual.steady.waiting
  refine ⟨(m.waiting.map _).nodup_iff.mpr single, fun x hx => ?_, _, punctual,
    run_settings settings clusterName ticks, m⟩
  rw [← m.now]
  exact unpassed x (m.waiting.mem_iff.mp hx)

/-- The second ping takes three milliseconds and fails; it is sent again at once. -/
example :
    let a : Node := ⟨"a", "1", "http://a"⟩
    let me : Node := ⟨"b", "1", "http://b"⟩
    let failed : Script := .reply { outcome := .remote "no", delay := 3 }
    let w := World.start (.initial "c" me) { pingIntervalMs := 2 } "c" false none
    let ops := [.scriptPings [.reply {}, failed], .restart a "elected", .advance 8]
    w.allTimely ops = true ∧
      (ops.foldl (fun v op => (v.operate op).1) w).pingTimes = [2, 4, 7] := by
  decide +kernel

end Timed

end Vigil
