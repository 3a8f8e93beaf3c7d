import Mathlib.Algebra.Ring.Nat
import Vigil.Leader

/-!
What counters come to. Whoever counts one series after the other finds each counter to be how often
its series was counted, and the counters of one kind to add up to how often one of that kind was.
Leaders count their answers to pings, each under its outcome, and nothing else.
-/

namespace Vigil

namespace Metrics

/-- The sum of the counters of some kind of series. -/
def total (m : Metrics) (kind : Series → Bool) : Nat :=
  ((m.counts.filter (kind ·.1)).map (·.2)).sum

/-- Counts one series after the other. -/
def countAll (m : Metrics) (ss : List Series) : Metrics := ss.foldl count m

theorem total_countEntry (kind : Series → Bool) (s : Series) (es : List (Series × Nat)) :
    (((countEntry s es).filter (kind ·.1)).map (·.2)).sum =
      ((es.filter (kind ·.1)).map (·.2)).sum + if kind s then 1 else 0 := by
  induction es with
  | nil => cases h : kind s <;> simp [countEntry, h]
  | cons e es ih =>
    obtain ⟨k, n⟩ := e
    rw [countEntry]
    split
    · next same =>
      subst same
      cases h : kind k <;> simp [h]
      omega
    · cases h : kind k <;> simp [h, ih]
      omega

theorem total_count (m : Metrics) (s : Series) (kind : Series → Bool) :
    (m.count s).total kind = m.total kind + if kind s then 1 else 0 :=
  total_countEntry kind s m.counts

theorem countAll_append (m : Metrics) (ss ts : List Series) :
    m.countAll (ss ++ ts) = (m.countAll ss).countAll ts :=
  List.foldl_append

theorem get_countAll (m : Metrics) (ss : List Series) (s : Series) :
    (m.countAll ss).get s = m.get s + ss.count s := by
  induction ss generalizing m with
  | nil => rfl
  | cons t ss ih =>
    have first := m.get_count t s
    have rest := ih (m.count t)
    rw [countAll, List.foldl_cons]
    rw [countAll] at rest
    rw [rest, first, List.count_cons]
    by_cases same : s = t
    · subst same
      simp
      omega
    · have other : (t == s) = false := beq_false_of_ne (Ne.symm same)
      simp [same, other]

theorem total_countAll (m : Metrics) (ss : List Series) (kind : Series → Bool) :
    (m.countAll ss).total kind = m.total kind + ss.countP kind := by
  induction ss generalizing m with
  | nil => rfl
  | cons t ss ih =>
    have rest := ih (m.count t)
    rw [countAll] at rest
    rw [countAll, List.foldl_cons, rest, total_count, List.countP_cons]
    omega

end Metrics

/-- The series under which a reply is counted; only answers to pings are. -/
def Reply.series : Reply → Option Series
  | ping answer => some (.pingsHandled (pingOutcome answer))
  | task _ => none

namespace Leader

variable {ω : Type}

theorem receive_metrics (l : Leader ω) (r : PingRequest) (who : ω) :
    (l.receive r who).1.metrics =
      l.metrics.countAll ((l.receive r who).2.toList.map (.pingsHandled ∘ pingOutcome)) := by
  unfold receive
  dsimp only
  split
  · rfl
  · rfl
  · split <;> rfl

theorem conclude_metrics (l : Leader ω) (done : StateQueue.Done (Asker ω)) :
    (l.conclude done).1.metrics = l.metrics.countAll (l.conclude done).2.2.series.toList := by
  unfold conclude
  dsimp only
  split <;> rfl

theorem concludeAll_metrics (l : Leader ω) (dones : List (StateQueue.Done (Asker ω))) :
    (l.concludeAll dones).1.metrics =
      l.metrics.countAll ((l.concludeAll dones).2.filterMap (·.2.series)) := by
  induction dones generalizing l with
  | nil => rfl
  | cons done dones ih =>
    have first := l.conclude_metrics done
    have rest := ih (l.conclude done).1
    simp only [concludeAll, List.filterMap_cons]
    rw [rest, first, ← Metrics.countAll_append]
    cases (l.conclude done).2.2.series <;> rfl

theorem work_metrics {l next : Leader ω} {reply : ω × Reply}
    (worked : l.work = some (next, reply)) :
    next.metrics = l.metrics.countAll reply.2.series.toList := by
  obtain ⟨⟨queue, done⟩, _, same⟩ := Option.map_eq_some_iff.mp worked
  have counted := conclude_metrics { l with queue } done
  have concluded : { l with queue }.conclude done = (next, reply) := same
  rw [concluded] at counted
  exact counted

theorem stopWork_metrics (l : Leader ω) :
    l.stopWork.1.metrics = l.metrics.countAll (l.stopWork.2.filterMap (·.2.series)) :=
  concludeAll_metrics _ _

theorem settle_metrics (l : Leader ω) :
    l.settle.1.metrics = l.metrics.countAll (l.settle.2.filterMap (·.2.series)) :=
  concludeAll_metrics _ _

/-- From its arrival to its answer a ping gives rise to nothing but answers to pings. -/
theorem ask_metrics (l : Leader ω) (r : PingRequest) (who : ω) :
    ∃ outcomes : List String,
      (l.ask r who).1.metrics = l.metrics.countAll (outcomes.map .pingsHandled) := by
  have received := l.receive_metrics r who
  have handled (replies : List (ω × Reply)) :
      ∃ outcomes : List String,
        replies.filterMap (·.2.series) = outcomes.map Series.pingsHandled := by
    induction replies with
    | nil => exact ⟨[], rfl⟩
    | cons reply replies ih =>
      obtain ⟨outcomes, rest⟩ := ih
      rw [List.filterMap_cons]
      cases reply.2 with
      | task result => exact ⟨outcomes, rest⟩
      | ping answer => exact ⟨pingOutcome answer :: outcomes, congrArg (_ :: ·) rest⟩
  unfold ask
  split
  · next next answer same =>
    rw [same] at received
    exact ⟨[pingOutcome answer], received⟩
  · next next same =>
    rw [same] at received
    have queued : next.metrics = l.metrics := received
    obtain ⟨outcomes, only⟩ := handled next.settle.2
    exact ⟨outcomes, by rw [← only, ← queued, ← next.settle_metrics]⟩

end Leader

end Vigil
