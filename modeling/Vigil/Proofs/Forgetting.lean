import Vigil.Discovery
import Vigil.Proofs.Verdict

/-!
What becomes of the members when leaders that failed are forgotten. The task that forgets a node
looks at the members when it has its turn, not when the failure was told, so that whoever was
recorded in the meantime stays, in whatever order the tasks of the queue come.
-/

namespace Vigil

open Discovery (forgetTask recordTask)

/-- What the forgetting of a node makes of a state. -/
structure Forgotten (n : Node) (s next : ClusterState) : Prop where
  removed : next.nodes.get? n.id = none ↔
    s.nodes.get? n.id = none ∨ s.Member n ∧ n.id ≠ s.localNode.id
  others : ∀ key ≠ n.id, next.nodes.get? key = s.nodes.get? key
  kept : ¬ (s.Member n ∧ n.id ≠ s.localNode.id) → next = s
  leaderId : next.leaderId = s.leaderId
  localNode : next.localNode = s.localNode
  clusterName : next.clusterName = s.clusterName

namespace Service

/-- A task has the next turn of the worker. -/
def Next (w : Service) (task : StateTask) : Prop :=
  ∃ ticket rest, w.queue.pending = (task, ticket) :: rest

/-- In a run a task has its turn on some state, and leaves the next one. -/
def Turn (w : Service) (moves : List Move) (task : StateTask) (s next : ClusterState) : Prop :=
  ∃ earlier later, moves = earlier ++ .work :: later ∧ (w.run earlier).Next task ∧
    (w.run earlier).queue.applied = s ∧ ((w.run earlier).step .work).queue.applied = next

end Service

namespace StateTask

/-- A task that any node runs leaves what its update makes of the state, under a new version. -/
theorem run_local {task : StateTask} {s next : ClusterState} (anywhere : task.leaderOnly = false)
    (update : task.update s = .ok next) :
    (task.run s).state = if next = s then s else { next with version := s.version + 1 } := by
  simp only [run, anywhere, update, Bool.false_and, Bool.false_eq_true, if_false]
  split <;> rfl

theorem forget_state (n : Node) (s : ClusterState) :
    ((forgetTask n).run s).state =
      if s.Member n ∧ n.id ≠ s.localNode.id then
        { s with nodes := s.nodes.erase n.id, version := s.version + 1 }
      else s := by
  have update : (forgetTask n).update s =
      .ok (if s.contains n then s.remove n.id else s) := rfl
  rw [run_local rfl update]
  by_cases member : s.Member n
  · rw [if_pos ((s.contains_iff n).mpr member)]
    by_cases own : n.id = s.localNode.id
    · simp [ClusterState.remove, own]
    · have gone : { s with nodes := s.nodes.erase n.id } ≠ s := by
        intro same
        have entry := congrArg (fun t : ClusterState => t.nodes.get? n.id) same
        simp only [Members.get?_erase, if_true] at entry
        rw [member] at entry
        cases entry
      simp [ClusterState.remove, own, member, gone]
  · rw [if_neg (mt (s.contains_iff n).mp member)]
    simp [member]

theorem forget_forgotten (n : Node) (s : ClusterState) :
    Forgotten n s ((forgetTask n).run s).state := by
  rw [forget_state]
  by_cases goes : s.Member n ∧ n.id ≠ s.localNode.id
  · rw [if_pos goes]
    refine ⟨?_, ?_, fun stays => absurd goes stays, rfl, rfl, rfl⟩
    · simp [Members.get?_erase, goes]
    · intro key other
      simp [Members.get?_erase, other]
  · rw [if_neg goes]
    exact ⟨by simp [goes], fun _ _ => rfl, fun _ => rfl, rfl, rfl, rfl⟩

end StateTask

theorem Forgotten.gone {n : Node} {s next : ClusterState} (h : Forgotten n s next) :
    ¬ (next.Member n ∧ n.id ≠ next.localNode.id) := by
  rintro ⟨member, foreign⟩
  rw [h.localNode] at foreign
  by_cases was : s.Member n
  · have absent := h.removed.mpr (.inr ⟨was, foreign⟩)
    rw [member] at absent
    cases absent
  · rw [h.kept fun goes => was goes.1] at member
    exact was member

/-- Another node, or another incarnation of the same one, stays. -/
theorem Forgotten.spares {n m : Node} {s next : ClusterState} (h : Forgotten n s next)
    (other : m ≠ n) (member : s.Member m) : next.Member m := by
  by_cases same : m.id = n.id
  · have absent : ¬ s.Member n := by
      intro filed
      rw [ClusterState.Member, same] at member
      exact other (Option.some.inj (member.symm.trans filed))
    rw [h.kept fun goes => absent goes.1]
    exact member
  · exact (h.others m.id same).trans member

namespace Service

variable {w : Service} {task : StateTask}

theorem Next.applied (h : w.Next task) :
    (w.step .work).queue.applied = (task.run w.queue.applied).state := by
  obtain ⟨ticket, rest, queued⟩ := h
  obtain ⟨told, now⟩ := step_work_told queued
  rw [now]
  rfl

/-- Only the turn of a task changes the state. -/
theorem step_applied (w : Service) (m : Move) :
    (w.step m).queue.applied = w.queue.applied ∨ m = .work ∧ ∃ task, w.Next task := by
  cases m with
  | submit task =>
    left
    cases working : w.queue.working with
    | true => simp only [step, StateQueue.submit, working, if_true]
    | false => simp only [step, StateQueue.submit, working, Bool.false_eq_true, if_false, tell]
  | abandon number => exact .inl rfl
  | stop =>
    left
    obtain ⟨⟨told, now⟩, _⟩ := w.step_stop
    rw [now]
  | work =>
    cases queued : w.queue.pending with
    | nil => exact .inl (by rw [step_work_idle queued])
    | cons entry rest => exact .inr ⟨rfl, entry.1, entry.2, rest, queued⟩

/-- What comes to hold of the state in a run comes to hold in the turn of some task. -/
theorem turn_of_run {P : ClusterState → Prop} {moves : List Move} (before : ¬ P w.queue.applied)
    (after : P (w.run moves).queue.applied) :
    ∃ task s next, w.Turn moves task s next ∧ ¬ P s ∧ P next := by
  induction moves generalizing w with
  | nil => exact absurd after before
  | cons m moves ih =>
    by_cases now : P (w.step m).queue.applied
    · rcases w.step_applied m with same | ⟨rfl, task, turn⟩
      · exact absurd (same ▸ now) before
      · exact ⟨task, _, _, ⟨[], moves, rfl, turn, rfl, rfl⟩, before, now⟩
    · obtain ⟨task, s, next, ⟨earlier, later, rfl, turn⟩, rest⟩ := ih now after
      exact ⟨task, s, next, ⟨m :: earlier, later, rfl, turn⟩, rest⟩

theorem Turn.state {moves : List Move} {s next : ClusterState} (h : w.Turn moves task s next) :
    next = (task.run s).state := by
  obtain ⟨earlier, later, _, turn, rfl, rfl⟩ := h
  exact turn.applied

theorem Turn.forgotten {n : Node} {moves : List Move} {s next : ClusterState}
    (h : w.Turn moves (forgetTask n) s next) : Forgotten n s next := by
  rw [h.state]
  exact StateTask.forget_forgotten n s

/-- The turn that ends a membership is not the forgetting of another node. -/
theorem member_lost {m : Node} {moves : List Move} (member : w.queue.applied.Member m)
    (lost : ¬ (w.run moves).queue.applied.Member m) :
    ∃ task s next, w.Turn moves task s next ∧ s.Member m ∧ ¬ next.Member m ∧
      ∀ n ≠ m, task ≠ forgetTask n := by
  obtain ⟨task, s, next, turn, was, gone⟩ :=
    turn_of_run (P := fun s => ¬ s.Member m) (not_not_intro member) lost
  have was := Decidable.not_not.mp was
  refine ⟨task, s, next, turn, was, gone, ?_⟩
  rintro n other rfl
  have forgotten := turn.forgotten
  exact gone (forgotten.spares other.symm was)

theorem Next.forgotten {n : Node} (h : w.Next (forgetTask n)) :
    Forgotten n w.queue.applied (w.step .work).queue.applied := by
  rw [h.applied]
  exact StateTask.forget_forgotten n w.queue.applied

/-- Where a node is forgotten once more, it was recorded in the meantime, or it was the local node
and is not any longer. -/
theorem forgotten_again {n : Node} {moves : List Move} (first : w.Next (forgetTask n))
    (second : ((w.step .work).run moves).Next (forgetTask n))
    (effect : (((w.step .work).run moves).step .work).queue.applied ≠
      ((w.step .work).run moves).queue.applied) :
    ∃ task s next, (w.step .work).Turn moves task s next ∧
      (¬ s.Member n ∧ next.Member n ∨ s.localNode.id = n.id ∧ next.localNode.id ≠ n.id) := by
  let P (s : ClusterState) : Prop := s.Member n ∧ n.id ≠ s.localNode.id
  have before : ¬ P (w.step .work).queue.applied := first.forgotten.gone
  have after : P ((w.step .work).run moves).queue.applied := by
    apply Classical.byContradiction
    intro stays
    exact effect (second.forgotten.kept stays)
  obtain ⟨task, s, next, turn, was, member, foreign⟩ := turn_of_run before after
  refine ⟨task, s, next, turn, ?_⟩
  by_cases known : s.Member n
  · have own : n.id = s.localNode.id := by
      apply Classical.byContradiction
      intro other
      exact was ⟨known, other⟩
    exact .inr ⟨own.symm, foreign.symm⟩
  · exact .inl ⟨known, member⟩

/-- A node is forgotten only while it is filed exactly so and is not the local one, and nothing else
changes then. So any other node or incarnation stays a member until some task ends that which does
not forget another, and a node is forgotten once more only after it was recorded again or ceased to
be the local one. -/
theorem only_failed_forgotten (w : Service) (moves : List Move) :
    (∀ n s next, w.Turn moves (forgetTask n) s next → Forgotten n s next ∧
      ∀ m ≠ n, s.Member m → next.Member m) ∧
    (∀ m, w.queue.applied.Member m → ¬ (w.run moves).queue.applied.Member m →
      ∃ task s next, w.Turn moves task s next ∧ s.Member m ∧ ¬ next.Member m ∧
        ∀ n ≠ m, task ≠ forgetTask n) ∧
    ∀ n, let v := (w.step .work).run moves
      w.Next (forgetTask n) → v.Next (forgetTask n) →
      (v.step .work).queue.applied ≠ v.queue.applied →
      ∃ task s next, (w.step .work).Turn moves task s next ∧
        (¬ s.Member n ∧ next.Member n ∨ s.localNode.id = n.id ∧ next.localNode.id ≠ n.id) := by
  refine ⟨?_, ?_, ?_⟩
  · intro n s next turn
    have forgotten := turn.forgotten
    exact ⟨forgotten, fun m other member => forgotten.spares other member⟩
  · intro m member lost
    exact member_lost member lost
  · intro n v first second effect
    exact forgotten_again first second effect

/-- A leader that returned unchanged is forgotten by the second of two tasks, and another member
stays until its own failure. -/
theorem returned_leader_forgotten_again :
    let a : Node := ⟨"a", "1", "http://a"⟩
    let b : Node := ⟨"b", "1", "http://b"⟩
    let c : Node := ⟨"c", "1", "http://c"⟩
    let s := ((ClusterState.initial "test" a).add b).add c
    let w := (start s).run [.submit (forgetTask b), .submit (recordTask b)]
    let moves := [.work, .submit (forgetTask c), .submit (forgetTask b), .work]
    let v := (w.step .work).run moves
    w.Next (forgetTask b) ∧ v.Next (forgetTask b) ∧ ¬ v.queue.applied.Member c ∧
      Forgotten b w.queue.applied (w.step .work).queue.applied ∧
      (∃ task s next, (w.step .work).Turn moves task s next ∧ s.Member c ∧ ¬ next.Member c ∧
        ∀ n ≠ c, task ≠ forgetTask n) ∧
      ∃ task s next, (w.step .work).Turn moves task s next ∧
        (¬ s.Member b ∧ next.Member b ∨ s.localNode.id = b.id ∧ next.localNode.id ≠ b.id) := by
  intro a b c s w moves v
  have first : w.Next (forgetTask b) := ⟨_, _, rfl⟩
  have second : v.Next (forgetTask b) := ⟨_, _, rfl⟩
  have effect : (v.step .work).queue.applied ≠ v.queue.applied := by decide
  have lost : ¬ v.queue.applied.Member c := by decide
  have turn : w.Turn [.work] (forgetTask b) w.queue.applied (w.step .work).queue.applied :=
    ⟨[], [], rfl, first, rfl, rfl⟩
  have forgotten := ((only_failed_forgotten w [.work]).1 b _ _ turn).1
  have ended := (only_failed_forgotten (w.step .work) moves).2.1 c (by decide) lost
  have again := (only_failed_forgotten w moves).2.2 b first second effect
  exact ⟨first, second, lost, forgotten, ended, again⟩

/-- A local node that is replaced is forgotten by a task that could not remove it before, though it
was a member all the time. -/
theorem former_local_forgotten :
    let a : Node := ⟨"a", "a-eph", "http://a"⟩
    let z : Node := ⟨"z", "z-eph", "http://z"⟩
    let replace : StateTask := ⟨"replace local node", false, fun s => .ok { s with localNode := z }⟩
    let s := (ClusterState.initial "test" a).withLeader (some "b")
    let w := (start s).run [.submit (forgetTask a)]
    let moves := [.submit replace, .work, .submit (forgetTask a)]
    let v := (w.step .work).run moves
    w.Next (forgetTask a) ∧ v.Next (forgetTask a) ∧
      (¬ ∃ task s next, (w.step .work).Turn moves task s next ∧ ¬ s.Member a ∧ next.Member a) ∧
      v.queue.applied.Member a ∧ ¬ (v.step .work).queue.applied.Member a := by
  intro a z replace s w moves v
  have member : ∀ k < 4, ((w.step .work).run (moves.take k)).queue.applied.Member a := by decide
  refine ⟨⟨_, _, rfl⟩, ⟨_, _, rfl⟩, ?_, by decide, by decide⟩
  rintro ⟨task, s, next, ⟨earlier, later, split, _, rfl, _⟩, absent, _⟩
  have front : moves.take earlier.length = earlier := by rw [split, List.take_left]
  have size : earlier.length < 4 := by
    have total := congrArg List.length split
    simp only [moves, List.length_append, List.length_cons, List.length_nil] at total
    omega
  have there := member earlier.length size
  rw [front] at there
  exact absent there

end Service

end Vigil
