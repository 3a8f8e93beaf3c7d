import Vigil.Proofs.Attention
import Vigil.Proofs.Forgetting

/-!
When a leader that failed is watched again. Its failure is told to the listener that forgets it, its
removal from the members is queued, and once that has run only a handshake brings it back. Until
then a round of discovery that is still under way finds it among the members.
-/

namespace Vigil

/-- Whose failure is about to be told. -/
def Task.failed? : Task → Option Node
  | .dispatch _ failure => some failure.leader
  | _ => none

/-- Whose removal is still to be queued. -/
def Task.forgotten? : Task → Option Node
  | .forget leader => some leader
  | t => t.failed?

/-- No state in which a node is missing comes to contain it by this change. -/
def StateTask.Spares (leader : Node) (task : StateTask) : Prop :=
  ∀ s next, s.contains leader = false → task.update s = .ok next → next.contains leader = false

namespace StateTask

theorem forget_spares (leader failed : Node) : (Discovery.forgetTask failed).Spares leader := by
  intro s next absent updated
  change Except.ok (if s.contains failed then s.remove failed.id else s) = .ok next at updated
  obtain rfl := Except.ok.inj updated
  split
  · unfold ClusterState.remove
    split
    · exact absent
    · simp only [ClusterState.contains, Members.get?_erase] at absent ⊢
      split
      · rfl
      · exact absent
  · exact absent

theorem record_spares {leader n : Node} (other : n ≠ leader) :
    (Discovery.recordTask n).Spares leader := by
  intro s next absent updated
  obtain rfl := Except.ok.inj updated
  simp only [ClusterState.contains, ClusterState.add, Members.get?_insert] at absent ⊢
  split
  · simpa using other
  · exact absent

theorem Checks.spares {task : StateTask} (h : task.Checks) (leader : Node) :
    task.Spares leader := by
  obtain ⟨r, rfl⟩ := h
  intro s next absent updated
  change (if s.contains r.source then .ok s else .error _) = Except.ok next at updated
  split at updated
  · exact Except.ok.inj updated ▸ absent
  · cases updated

theorem Spares.run {leader : Node} {task : StateTask} (h : task.Spares leader) {s : ClusterState}
    (absent : s.contains leader = false) : (task.run s).state.contains leader = false := by
  unfold StateTask.run
  split
  · exact absent
  · split
    · exact absent
    · next next updated =>
      split
      · exact absent
      · exact h s next absent updated

theorem forget_run {leader : Node} {s : ClusterState} (other : leader.id ≠ s.localNode.id) :
    ((Discovery.forgetTask leader).run s).state.contains leader = false := by
  have forgotten := forget_forgotten leader s
  rw [← Bool.not_eq_true, ClusterState.contains_iff]
  intro member
  exact forgotten.gone ⟨member, forgotten.localNode ▸ other⟩

end StateTask

namespace World

/-- The removal of a leader is under way, and nothing that is queued behind it brings it back. -/
def Forgetting (leader : Node) (w : World) : Prop :=
  (∃ t ∈ w.agenda.ready, t.forgotten? = some leader) ∨
    ∃ before waiter after,
      w.queue.pending = before ++ (Discovery.forgetTask leader, waiter) :: after ∧
        ∀ e ∈ after, e.1.Spares leader

/-- A leader is no member, and nothing that is queued makes it one. -/
def Rid (leader : Node) (w : World) : Prop :=
  w.queue.applied.contains leader = false ∧ ∀ e ∈ w.queue.pending, e.1.Spares leader

/-- What holds from the failure of a leader on until a handshake is answered by it. -/
structure Parting (leader : Node) (w : World) : Prop where
  unrecalled : ∀ t ∈ w.agenda.ready, t.recalled? ≠ some leader
  way : w.Forgetting leader ∨ w.Rid leader

variable {leader me : Node} {u w : World}

theorem Parting.grow {new : Task → Prop} {queued : StateTask → Prop} (h : u.Parting leader)
    (g : Grows new queued u w) (fresh : ∀ t, new t → t.recalled? ≠ some leader)
    (spared : ∀ task, queued task → task.Spares leader) : w.Parting leader := by
  obtain ⟨more, queue, allowed⟩ := g.queue
  refine ⟨fun t ht => (g.ready t ht).elim (h.unrecalled t) (fresh t), ?_⟩
  rcases h.way with (⟨t, ready, forgets⟩ | ⟨before, waiter, after, here, behind⟩) | ⟨absent, behind⟩
  · exact .inl (.inl ⟨t, g.kept t ready, forgets⟩)
  · refine .inl (.inr ⟨before, waiter, after ++ more, by simp [queue, here], fun e he => ?_⟩)
    rcases List.mem_append.mp he with he | he
    · exact behind e he
    · exact spared _ (allowed e he)
  · rw [Rid, queue]
    refine .inr ⟨absent, fun e he => ?_⟩
    rcases List.mem_append.mp he with he | he
    · exact behind e he
    · exact spared _ (allowed e he)

theorem brought_unrecalled {d : Detector Listener} {t : Task} (brought : t.Brought d) :
    t.recalled? ≠ some leader := by
  cases t with
  | answered call result => exact absurd brought id
  | _ => exact nofun

theorem Parting.work (h : w.Parting leader) (other : leader.id ≠ w.queue.applied.localNode.id) :
    (w.run .work).Parting leader := by
  rcases w.grows_work StateTask.Checks with ⟨_, same⟩ | ⟨task, waiter, rest, pending, g⟩
  · rwa [same]
  have way : Forgetting leader { w with queue := { w.queue with
      applied := (task.run w.queue.applied).state, pending := rest } } ∨
      Rid leader { w with queue := { w.queue with
        applied := (task.run w.queue.applied).state, pending := rest } } := by
    rcases h.way with (ready | ⟨before, waiter', after, here, behind⟩) | ⟨absent, behind⟩
    · exact .inl (.inl ready)
    · cases before with
      | nil =>
        -- The removal itself is what runs.
        rw [here, List.nil_append, List.cons.injEq, Prod.mk.injEq] at pending
        obtain ⟨⟨rfl, _⟩, rfl⟩ := pending
        exact .inr ⟨StateTask.forget_run other, behind⟩
      | cons e before =>
        rw [here, List.cons_append, List.cons.injEq] at pending
        exact .inl (.inr ⟨before, waiter', after, pending.2.symm, behind⟩)
    · rw [pending] at behind
      obtain ⟨first, later⟩ := List.forall_mem_cons.mp behind
      exact .inr ⟨first.run absent, later⟩
  have ran : Parting leader { w with queue := { w.queue with
      applied := (task.run w.queue.applied).state, pending := rest } } := ⟨h.unrecalled, way⟩
  exact ran.grow g (fun _ => brought_unrecalled) fun _ checks => checks.spares leader

theorem Parting.with_detector (h : w.Parting leader) (d : Detector Listener) :
    { w with detector := d }.Parting leader :=
  ⟨h.unrecalled, h.way⟩

theorem spares_of_queues {t : Task} (other : t.recalled? ≠ some leader) {task : StateTask}
    (queues : t.Queues task) : task.Spares leader := by
  rcases queues with ⟨n, rfl⟩ | ⟨peer, rest, loop, n, rfl, rfl⟩
  · exact StateTask.forget_spares leader n
  · exact StateTask.record_spares fun same => other (congrArg some same)

theorem forgetting_submit (working : w.queue.working = true) (waiter : Waiter) :
    (w.submit (Discovery.forgetTask leader) waiter).Forgetting leader := by
  refine .inr ⟨w.queue.pending, some waiter, [], ?_, by simp⟩
  unfold World.submit StateQueue.submit
  rw [if_pos working]
  dsimp only
  split <;> rfl

theorem forgets_run {t : Task} (forgets : t.forgotten? = some leader) (heard : t.Heard me)
    (working : w.queue.working = true) : (w.run t).Forgetting leader := by
  cases t with
  | dispatch ls f =>
    obtain ⟨rfl, _⟩ := heard
    exact .inl ⟨.forget f.leader, List.mem_append_right _ List.mem_cons_self, forgets⟩
  | forget n =>
    obtain rfl := Option.some.inj forgets
    exact forgetting_submit working .forgetting
  | _ => cases forgets

end World

namespace Life

open World

variable {c : ClusterConfig} {me leader : Node}

theorem parting_rest {w : World} (h : w.Parting leader) {t : Task} {rest : List Task}
    (left : rest ⊆ w.agenda.ready) (others : ∀ x ∈ w.agenda.ready, x = t ∨ x ∈ rest)
    (keeps : t.forgotten? ≠ some leader) :
    World.Parting leader { w with agenda := { w.agenda with ready := rest } } := by
  refine ⟨fun x hx => h.unrecalled x (left hx), ?_⟩
  rcases h.way with (⟨x, ready, forgets⟩ | queued) | rid
  · have later : x ∈ rest := (others x ready).resolve_left fun same => keeps (same ▸ forgets)
    exact .inl (.inl ⟨x, later, forgets⟩)
  · exact .inl (.inr queued)
  · exact .inr rid

theorem parting_turned {w : World} {met : List (PeerConfig × Node)} (h : w.Parting leader)
    (clean : w.Clean c me met) (attended : w.Attended me) (other : leader.id ≠ me.id) {t : Task}
    {rest : List Task} (here : t ∈ w.agenda.ready) (left : rest ⊆ w.agenda.ready)
    (others : ∀ x ∈ w.agenda.ready, x = t ∨ x ∈ rest) :
    World.Parting leader ({ w with agenda := { w.agenda with ready := rest } }.run t) := by
  by_cases work : t = .work
  · subst work
    refine (parting_rest h left others nofun).work ?_
    rwa [clean.applied.localNode]
  obtain ⟨d, _, g⟩ :=
    grows_run (clean_rest clean left) (clean.ready t here) (attended.ready t here) work
  by_cases forgets : t.forgotten? = some leader
  · refine ⟨fun x hx => ?_, .inl (forgets_run forgets (attended.ready t here) attended.working)⟩
    rcases g.ready x hx with before | brought
    · exact h.unrecalled x (left before)
    · exact brought_unrecalled brought
  · exact ((parting_rest h left others forgets).with_detector d).grow g
      (fun _ => brought_unrecalled) fun _ => spares_of_queues (h.unrecalled t here)

theorem parting_aborted {w : World} (h : w.Parting leader) : w.abortDiscovery.Parting leader := by
  refine ⟨fun t ht => h.unrecalled t (List.mem_filter.mp ht).1, ?_⟩
  -- A round that is given up leaves what it had queued.
  have behind {es : List (StateTask × Option Waiter)} (spared : ∀ e ∈ es, e.1.Spares leader) :
      ∀ e ∈ es.map fun e => (e.1, forgetLoop e.2), e.1.Spares leader := by
    intro e he
    obtain ⟨e, here, rfl⟩ := List.mem_map.mp he
    exact spared e here
  rcases h.way with (⟨t, ready, forgets⟩ | ⟨before, waiter, after, here, spared⟩) | ⟨absent, spared⟩
  · refine .inl (.inl ⟨t, List.mem_filter.mpr ⟨ready, ?_⟩, forgets⟩)
    cases t <;> first | rfl | cases forgets
  · refine .inl (.inr ⟨before.map fun e => (e.1, forgetLoop e.2), forgetLoop waiter,
      after.map fun e => (e.1, forgetLoop e.2), ?_, behind spared⟩)
    simp [abortDiscovery, here]
  · exact .inr ⟨absent, behind spared⟩

/-- Until the leader answers a handshake, it stays on its way out, or out. -/
theorem parting_stirs {w v : World} {met since : List (PeerConfig × Node)} (h : w.Parting leader)
    (clean : w.Clean c me met) (attended : w.Attended me) (other : leader.id ≠ me.id)
    (unmet : ∀ peer, (peer, leader) ∉ since) (stirs : Stirs w since v) : v.Parting leader := by
  have checks (task : StateTask) (h : task.Checks) : task.Spares leader := h.spares leader
  cases stirs with
  | grew g => exact h.grow g (fun _ => brought_unrecalled) checks
  | turned t rest here left others => exact parting_turned h clean attended other here left others
  | @answered u call result g noted =>
    have told : Grows (· = .answered call result) StateTask.Checks u
        (u.proceed (.answered call result)) :=
      (Grows.refl u).proceed rfl
    refine (h.grow g (fun _ => brought_unrecalled) checks).grow told ?_ checks
    rintro _ rfl recalls
    obtain ⟨peer, answered⟩ := noted leader recalls
    exact unmet peer answered
  | aborted => exact parting_aborted h
  | shut =>
    have g := w.grows_shutdown StateTask.Checks clean.live
    exact (h.with_detector _).grow g (fun _ => brought_unrecalled) checks

/-- `first` are those who answered a handshake before the failure, `since` those who did later. -/
theorem parting_run {l : Life} (clean : l.process.world.Clean c me l.met)
    (attended : l.process.world.Attended me) (named : me.id = c.nodeId) (other : leader.id ≠ me.id)
    {first since : List (PeerConfig × Node)} (met : l.met = first ++ since)
    (h : l.process.world.Parting leader ∨ ∃ peer, (peer, leader) ∈ since) (moves : List Move) :
    ∃ since, (l.run moves).met = first ++ since ∧
      ((l.run moves).process.world.Parting leader ∨ ∃ peer, (peer, leader) ∈ since) := by
  induction moves generalizing l since with
  | nil => exact ⟨since, met, h⟩
  | cons m moves ih =>
    obtain ⟨more, grown, stirs⟩ := stirs_step clean named attended m
    refine ih (step_clean clean named m) (attended_stirs attended clean stirs)
      (grown.trans (met ▸ List.append_assoc ..)) ?_
    rcases h with parting | ⟨peer, answered⟩
    · by_cases recalled : ∃ peer, (peer, leader) ∈ more
      · obtain ⟨peer, answered⟩ := recalled
        exact .inr ⟨peer, List.mem_append_right _ answered⟩
      · have unmet := not_exists.mp recalled
        exact .inl (parting_stirs parting clean attended other unmet stirs)
    · exact .inr ⟨peer, List.mem_append_left _ answered⟩

theorem stirs_watched {w v : World} {met since : List (PeerConfig × Node)}
    (clean : w.Clean c me met) (attended : w.Attended me) (stirs : Stirs w since v)
    (unwatched : w.detector.session.leader ≠ some leader)
    (watched : v.detector.session.leader = some leader) :
    w.queue.applied.contains leader = true := by
  cases stirs with
  | grew g => exact absurd (g.detector ▸ watched) unwatched
  | turned t rest here left _ =>
    have clean' := clean_rest clean left
    by_cases work : t = .work
    · subst work
      rcases grows_work StateTask.Checks
        { w with agenda := { w.agenda with ready := rest } } with ⟨_, same⟩ | ⟨_, _, _, _, g⟩
      · exact absurd ((congrArg (·.detector.session.leader) same).symm.trans watched) unwatched
      · exact absurd (g.detector ▸ watched) unwatched
    · obtain ⟨d, led, g⟩ := grows_run clean' (clean.ready t here) (attended.ready t here) work
      rw [g.detector] at watched
      -- Only the end of a round points the detector at someone, the leader in the state then.
      rcases led.leader leader watched with before | ⟨_, _, aim⟩
      · exact absurd before unwatched
      · exact (leader_contained clean' aim).1
  | @answered u call result g noted => exact absurd (g.detector ▸ watched) unwatched
  | aborted => exact absurd watched unwatched
  | shut =>
    rw [(w.grows_shutdown StateTask.Checks clean.live).detector] at watched
    simp [Detector.shutdown, Detector.endSession_eq] at watched

/-- From its failure on a leader is watched again only while its removal is still under way, or once
it has answered a handshake after the failure. An answer that came before may still wait for its
turn then. -/
theorem removal_precedes_resumption (c : Config) (ephemeralId address : String)
    (before later : List Move) (m : Move) (leader : Node) :
    let me : Node := ⟨c.cluster.nodeId, ephemeralId, address⟩
    let l := (start c me).run before
    let l' := l.run later
    (∃ t ∈ l.process.world.agenda.ready, t.failed? = some leader) →
    l'.process.world.detector.session.leader ≠ some leader →
    (l'.step m).process.world.detector.session.leader = some leader →
    l'.process.world.Forgetting leader ∨
      (∃ t ∈ l.process.world.agenda.ready, t.recalled? = some leader) ∨
      ∃ since, l'.met = l.met ++ since ∧ ∃ peer, (peer, leader) ∈ since := by
  intro me l l' failed unwatched watched
  have clean : l.process.world.Clean c.cluster me l.met := run_clean (start_clean c me) rfl before
  have attended : l.process.world.Attended me :=
    run_attended (start_attended c me) (start_clean c me) rfl before
  have clean' : l'.process.world.Clean c.cluster me l'.met := run_clean clean rfl later
  have attended' : l'.process.world.Attended me := run_attended attended clean rfl later
  by_cases recalled : ∃ t ∈ l.process.world.agenda.ready, t.recalled? = some leader
  · exact .inr (.inl recalled)
  obtain ⟨t, ready, tells⟩ := failed
  cases t with
  | dispatch ls failure =>
    obtain rfl := Option.some.inj tells
    have other : failure.leader.id ≠ me.id := (attended.ready _ ready).2
    have parting : l.process.world.Parting failure.leader :=
      ⟨fun t ht recalls => recalled ⟨t, ht, recalls⟩, .inl (.inl ⟨_, ready, rfl⟩)⟩
    obtain ⟨since, met, way⟩ := parting_run clean attended rfl other (List.append_nil _).symm
      (.inl parting) later
    rcases way with ⟨_, forgetting | ⟨absent, _⟩⟩ | answered
    · exact .inl forgetting
    · obtain ⟨_, _, stirs⟩ := stirs_step clean' rfl attended' m
      have member := stirs_watched clean' attended' stirs unwatched watched
      rw [absent] at member
      cases member
    · exact .inr (.inr ⟨since, met, answered⟩)
  | _ => cases tells

/-- The only peer leads. It rejects a ping, is removed, and answers the next handshake. -/
theorem answered_handshake_resumes :
    let c : Config := { cluster := { nodeId := "a", leaderId := some "b", peers := [⟨"b", "2"⟩] } }
    let b : Node := ⟨"b", "x", "2"⟩
    let before : List Move := [.startDiscovery, .turn 0, .turn 0, .turn 0,
      .answer (toString 0) (.ok b) [], .turn 0, .turn 0, .turn 0, .turn 0, .turn 0, .due 0, .turn 0,
      .answer (toString 1) (.error (.rejected "b" .noLongerLeader)) [], .turn 0]
    let later : List Move := [.turn 0, .turn 0, .turn 0, .turn 0, .due 0, .turn 0, .turn 0,
      .answer (toString 2) (.ok b) [], .turn 0, .turn 0, .turn 0]
    let l := (start c ⟨c.cluster.nodeId, "x", "1"⟩).run before
    let l' := l.run later
    (∃ t ∈ l.process.world.agenda.ready, t.failed? = some b) ∧
      l'.process.world.detector.session.leader = none ∧
      (l'.step (.turn 0)).process.world.detector.session.leader = some b ∧
      ∃ since, l'.met = l.met ++ since ∧ ∃ peer, (peer, b) ∈ since := by
  intro c b before later
  dsimp only
  have resumed := removal_precedes_resumption c "x" "1" before later (.turn 0) b
    (by decide +kernel) (by decide +kernel) (by decide +kernel)
  refine ⟨by decide +kernel, by decide +kernel, by decide +kernel,
    (resumed.resolve_left ?_).resolve_left ?_⟩
  · rintro (queues | ⟨_, _, _, queued, _⟩)
    · revert queues
      decide +kernel
    · have empty : (((start c ⟨c.cluster.nodeId, "x", "1"⟩).run before).run
          later).process.world.queue.pending.length = 0 := by decide +kernel
      simp [queued] at empty
  · decide +kernel

/-- A second peer is still asked when the ping is rejected. Before the failure is told, the round
ends and finds the leader among the members; no one has answered a handshake since. -/
theorem round_under_way_resumes :
    let c : Config :=
      { cluster := { nodeId := "a", leaderId := some "b", peers := [⟨"b", "2"⟩, ⟨"c", "3"⟩] } }
    let b : Node := ⟨"b", "x", "2"⟩
    let gone : Except TransportError Node := .error (.disconnected "3" "gone")
    let before : List Move := [.startDiscovery, .turn 0, .turn 0, .turn 0,
      .answer (toString 0) (.ok b) [], .turn 0, .turn 0, .turn 0, .turn 0,
      .answer (toString 1) gone [], .turn 0, .turn 0, .turn 0, .due 0, .turn 0, .due 0, .turn 0,
      .turn 0, .answer (toString 3) (.ok b) [], .turn 0, .turn 0,
      .answer (toString 2) (.error (.rejected "b" .noLongerLeader)) [], .turn 0]
    let l := (start c ⟨c.cluster.nodeId, "x", "1"⟩).run before
    let l' := l.run [.answer (toString 4) gone [], .turn 0, .turn 0]
    (∃ t ∈ l.process.world.agenda.ready, t.failed? = some b) ∧
      l.process.world.detector.session.leader = none ∧
      l'.process.world.detector.session.leader = some b ∧ l'.met = l.met := by
  decide +kernel

end Life

end Vigil
