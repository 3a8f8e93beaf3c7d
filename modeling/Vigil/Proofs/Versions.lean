import Vigil.Proofs.Service

/-!
The version of a state counts the changes that were published before it, whatever the tasks
themselves make of it. So it tells the states of a run apart, as long as there are versions left to
count with.
-/

namespace Vigil

/-- Every state that is published has its place in their order as its version, and the last of them
is the one that applies. -/
theorem Runs.versions {s last : ClusterState} {tasks : List StateTask}
    {results : List (Except StateTaskError Unit)} {published : List ClusterState}
    (h : Runs s tasks last results published) :
    (s :: published)[published.length]? = some last ∧
      ∀ (i : Nat) state, (s :: published)[i]? = some state →
        state.version = s.version + .ofNat i := by
  have first (s : ClusterState) : s.version = s.version + .ofNat 0 := (UInt64.add_zero _).symm
  induction h with
  | nil s =>
    refine ⟨rfl, fun i state here => ?_⟩
    cases i with
    | zero =>
      cases here
      exact first s
    | succ i => cases here
  | @cons s _ _ _ _ _ _ _ _ y _ ih =>
    cases y with
    | skipped | failed | unchanged => exact ih
    | published next =>
      obtain ⟨final, places⟩ := ih
      refine ⟨final, fun i state here => ?_⟩
      cases i with
      | zero =>
        cases here
        exact first s
      | succ i =>
        rw [places i state here, UInt64.ofNat_add, UInt64.add_assoc, UInt64.add_comm 1]
        rfl

namespace Service

/-- The task whose turn it is succeeds with a state that differs from the current one. -/
def Changes (w : Service) (next : ClusterState) : Move → Prop
  | .work => ∃ task ticket rest, w.queue.pending = (task, ticket) :: rest ∧
      task.MayRun w.queue.applied ∧ task.update w.queue.applied = .ok next ∧
      next ≠ w.queue.applied
  | _ => False

/-- The service once the first `k` moves are done. -/
def after (s : ClusterState) (moves : List Move) (k : Nat) : Service :=
  (start s).run (moves.take k)

theorem run_runs (s : ClusterState) (moves : List Move) :
    ∃ tasks results, Runs s tasks ((start s).run moves).queue.applied results
      ((start s).run moves).published := by
  obtain ⟨results, f⟩ := (start_folded s fun _ => true).run fun _ _ => rfl
  exact ⟨_, results, f.runs⟩

theorem Changes.unique {w : Service} {m : Move} {next other : ClusterState}
    (h : w.Changes next m) (h' : w.Changes other m) : next = other := by
  cases m with
  | work =>
    obtain ⟨task, _, _, queued, _, update, _⟩ := h
    obtain ⟨_, _, _, queued', _, update', _⟩ := h'
    cases queued.symm.trans queued'
    exact Except.ok.inj (update.symm.trans update')
  | _ => exact h.elim

/-- A move publishes one new state, with the next version, or it leaves the state as it is. -/
theorem step_changes (w : Service) (m : Move) :
    (∃ next, w.Changes next m ∧
      (w.step m).queue.applied = { next with version := w.queue.applied.version + 1 } ∧
      (w.step m).published = w.published ++ [(w.step m).queue.applied]) ∨
    (∀ next, ¬ w.Changes next m) ∧ (w.step m).queue.applied = w.queue.applied ∧
      (w.step m).published = w.published := by
  cases m with
  | submit task =>
    refine .inr ⟨fun _ h => h, ?_⟩
    cases working : w.queue.working <;> simp [step, StateQueue.submit, working, tell]
  | abandon number => exact .inr ⟨fun _ h => h, rfl, rfl⟩
  | stop =>
    obtain ⟨⟨told, now⟩, _⟩ := w.step_stop
    rw [now]
    exact .inr ⟨fun _ h => h, rfl, rfl⟩
  | work =>
    cases queued : w.queue.pending with
    | nil =>
      rw [step_work_idle queued]
      refine .inr ⟨?_, rfl, rfl⟩
      rintro next ⟨task, ticket, rest, here, _⟩
      rw [queued] at here
      cases here
    | cons entry rest =>
      obtain ⟨task, ticket⟩ := entry
      obtain ⟨told, now⟩ := step_work_told queued
      have only {next : ClusterState} (h : w.Changes next .work) :
          task.MayRun w.queue.applied ∧ task.update w.queue.applied = .ok next ∧
            next ≠ w.queue.applied := by
        obtain ⟨_, _, _, here, changes⟩ := h
        rw [queued] at here
        cases here
        exact changes
      have y := task.run_yields w.queue.applied
      simp only [now, apply]
      generalize (task.run w.queue.applied).state = after at y ⊢
      generalize (if after = w.queue.applied then [] else [after]) = new at y ⊢
      generalize (task.run w.queue.applied).result = result at y
      cases y with
      | skipped not => exact .inr ⟨fun _ h => not (only h).1, rfl, List.append_nil _⟩
      | failed e _ update =>
        refine .inr ⟨fun next h => ?_, rfl, List.append_nil _⟩
        rw [update] at only
        cases (only h).2.1
      | unchanged _ update =>
        refine .inr ⟨fun next h => ?_, rfl, List.append_nil _⟩
        rw [update] at only
        obtain ⟨_, same, other⟩ := only h
        cases same
        exact other rfl
      | published next may update other =>
        exact .inl ⟨next, ⟨task, ticket, rest, queued, may, update, other⟩, rfl, rfl⟩

theorem run_published (w : Service) (moves : List Move) :
    ∃ new, (w.run moves).published = w.published ++ new := by
  induction moves generalizing w with
  | nil => exact ⟨[], (List.append_nil _).symm⟩
  | cons m moves ih =>
    obtain ⟨later, grown⟩ := ih (w.step m)
    rcases w.step_changes m with ⟨_, _, _, one⟩ | ⟨_, _, same⟩
    · refine ⟨(w.step m).queue.applied :: later, grown.trans ?_⟩
      rw [one, List.append_assoc, List.singleton_append]
    · exact ⟨later, grown.trans (same ▸ rfl)⟩

section after

variable (s : ClusterState) (moves : List Move)

theorem run_after (k : Nat) : (after s moves k).run (moves.drop k) = (start s).run moves := by
  simp only [after, run, ← List.foldl_append, List.take_append_drop]

theorem after_succ {k : Nat} {m : Move} (here : moves[k]? = some m) :
    after s moves (k + 1) = (after s moves k).step m := by
  simp only [after, run, List.take_add_one, here, Option.toList_some, List.foldl_append,
    List.foldl_cons, List.foldl_nil]

theorem after_published {j k : Nat} (le : j ≤ k) :
    ∃ new, (after s moves k).published = (after s moves j).published ++ new := by
  have early : after s (moves.take k) j = after s moves j := by
    rw [after, List.take_take, Nat.min_eq_left le, after]
  have later : (after s moves j).run ((moves.take k).drop j) = after s moves k := by
    rw [← early, run_after, after]
  exact later ▸ run_published _ _

/-- What applies at some moment stands among all states that are ever published, in the place that
its version tells. -/
theorem after_place (few : ((start s).run moves).published.length < UInt64.size - s.version.toNat)
    (k : Nat) :
    let w := after s moves k
    (s :: ((start s).run moves).published)[w.published.length]? = some w.queue.applied ∧
      w.queue.applied.version.toNat = s.version.toNat + w.published.length := by
  intro w
  obtain ⟨_, _, runs⟩ : ∃ tasks results, Runs s tasks w.queue.applied results w.published :=
    run_runs s (moves.take k)
  obtain ⟨last, places⟩ := runs.versions
  obtain ⟨new, grown⟩ := w.run_published (moves.drop k)
  rw [run_after] at grown
  rw [grown] at few ⊢
  rw [List.length_append] at few
  refine ⟨?_, ?_⟩
  · rw [← List.cons_append, List.getElem?_append_left (Nat.lt_succ_self _)]
    exact last
  · -- Few enough were published for the version not to begin again.
    have bound := s.version.toNat_lt
    rw [places _ _ last, UInt64.toNat_add, UInt64.toNat_ofNat_of_lt' (by omega)]
    exact Nat.mod_eq_of_lt (by simp only [UInt64.size] at few; omega)

end after

/-- A run that publishes fewer states than there are versions left: at any moment the version tells
how many were published. It never falls, and equal versions mean equal states. A move changes it if
and only if a task succeeds in it with another state than the current one; then that state, with the
next version, is what is published, and otherwise nothing is. -/
theorem versions_identify (s : ClusterState) (moves : List Move)
    (few : ((start s).run moves).published.length < UInt64.size - s.version.toNat) :
    let w := after s moves
    let snapshot (k : Nat) := (w k).queue.applied
    (∀ k, (snapshot k).version.toNat = s.version.toNat + (w k).published.length) ∧
    (∀ j k, j ≤ k → (snapshot j).version ≤ (snapshot k).version) ∧
    (∀ j k, (snapshot j).version = (snapshot k).version → snapshot j = snapshot k) ∧
    ∀ (k : Nat) m, moves[k]? = some m →
      ((snapshot (k + 1)).version ≠ (snapshot k).version ↔ ∃ next, (w k).Changes next m) ∧
      (∀ next, (w k).Changes next m →
        snapshot (k + 1) = { next with version := (snapshot k).version + 1 } ∧
        (snapshot (k + 1)).version.toNat = (snapshot k).version.toNat + 1 ∧
        (w (k + 1)).published = (w k).published ++ [snapshot (k + 1)]) ∧
      ((∀ next, ¬ (w k).Changes next m) →
        snapshot (k + 1) = snapshot k ∧ (w (k + 1)).published = (w k).published) := by
  intro w snapshot
  have place := after_place s moves few
  refine ⟨fun k => (place k).2, fun j k le => ?_, fun j k same => ?_, fun k m here => ?_⟩
  · obtain ⟨new, grown⟩ := after_published s moves le
    rw [UInt64.le_iff_toNat_le, (place j).2, (place k).2, grown, List.length_append]
    omega
  · have places : (w j).published.length = (w k).published.length := by
      have equal := congrArg UInt64.toNat same
      rw [(place j).2, (place k).2] at equal
      exact Nat.add_left_cancel equal
    exact Option.some.inj ((place j).1.symm.trans (places ▸ (place k).1))
  · have next : w (k + 1) = (w k).step m := after_succ s moves here
    have before : (snapshot k).version.toNat = s.version.toNat + (w k).published.length :=
      (place k).2
    have count : (snapshot (k + 1)).version.toNat =
        s.version.toNat + (w (k + 1)).published.length := (place (k + 1)).2
    simp only [snapshot, next] at before count ⊢
    rcases (w k).step_changes m with ⟨new, changes, applied, grown⟩ | ⟨none, applied, same⟩
    · rw [grown, List.length_append, List.length_singleton] at count
      have moved : ((w k).step m).queue.applied.version.toNat =
          (w k).queue.applied.version.toNat + 1 := by omega
      refine ⟨⟨fun _ => ⟨new, changes⟩, fun _ equal => ?_⟩, fun other h => ?_,
        fun none => absurd changes (none new)⟩
      · rw [equal] at moved
        omega
      · rw [h.unique changes]
        exact ⟨applied, moved, grown⟩
    · refine ⟨⟨fun moved => ?_, fun ⟨next, h⟩ => absurd h (none next)⟩,
        fun next h => absurd h (none next), fun _ => ⟨applied, same⟩⟩
      exact absurd (congrArg ClusterState.version applied) moved

/-- Two versions are left. Tasks that set the version back, to what it is, and to nothing use them
up; the second of them changes nothing. -/
theorem last_versions_used_up :
    let s := { ClusterState.initial "c" ⟨"a", "1", "http://a"⟩ with
      version := 18446744073709551613 }
    let set (version : UInt64) : StateTask := ⟨"set", false, fun s => .ok { s with version }⟩
    let moves : List Move := [.submit (set 7), .submit (set 18446744073709551614), .submit (set 0),
      .work, .work, .work]
    let w := after s moves
    ((start s).run moves).published.length < UInt64.size - s.version.toNat ∧
      (w 5).queue.applied = (w 4).queue.applied ∧
      (w 6).queue.applied.version.toNat = UInt64.size - 1 := by
  intro s set moves w
  have few : ((start s).run moves).published.length < UInt64.size - s.version.toNat := by decide
  have equal : (w 5).queue.applied.version = (w 4).queue.applied.version := by decide
  have two : (w 6).published.length = 2 := by decide
  obtain ⟨count, _, same, _⟩ := versions_identify s moves few
  refine ⟨few, same 5 4 equal, (count 6).trans ?_⟩
  rw [two]
  rfl

end Service

end Vigil
