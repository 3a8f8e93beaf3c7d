import Vigil.Proofs.Session

/-!
Work that belongs to a session that is over, or to none, is stale. When it goes on nothing comes of
it, and all that happens later is as if it had never gone on.
-/

namespace Vigil

/-- Work is stale if it is that of a chain other than the live one, if it awaits a new connection
that was begun while another chain was live or none, or if it reports the loss of a node that is not
the leader. -/
def Activity.Stale {κ : Type} (d : Detector κ) : Activity κ → Prop
  | .scheduled p _ | .pinging p _ _ => d.session.pinger ≠ some p
  | .connecting _ before _ => before = none ∨ d.session.pinger ≠ before
  | .lost _ node => d.session.leader ≠ some node
  | .calling .. => False

theorem Detector.goOn_stale {κ : Type} {d : Detector κ} (s : d.Sound) {a : Activity κ}
    (stale : a.Stale d) (source : Node) (result : Except TransportError Unit) :
    d.goOn source result a = (d, []) := by
  cases a with
  | scheduled p delay => exact d.beginRound_stale stale source
  | pinging p request sent => exact d.pinged_stale stale request result
  | connecting run before leader =>
    refine d.connected_stale ?_ result
    rcases stale with rfl | other
    · -- Without a live chain there is no leader either.
      cases live : d.session.pinger with
      | none =>
        left
        intro watched
        obtain ⟨p, h⟩ := s.pinger_of_leader watched
        cases live.symm.trans h
      | some p => exact .inr (by simp)
    · exact .inr other
  | lost run node => exact d.disconnected_other stale
  | calling session rest failure => rfl

namespace Watch

variable {κ : Type}

theorem spawn_without (w : Watch κ) {id : Nat} (old : id < w.begun) (a : Activity κ) :
    (w.without id).spawn a = (w.spawn a).without id := by
  have new : (w.begun != id) = true := by
    rw [bne_iff_ne]
    omega
  simp [spawn, without, List.filter_append, new]

theorem submit_without (w : Watch κ) {id : Nat} (old : id < w.begun) (takes : Bool)
    (a : Activity κ) : (w.without id).submit takes a = (w.submit takes a).without id := by
  cases takes with
  | true => exact w.spawn_without old a
  | false => rfl

theorem begun_le_submit (w : Watch κ) (takes : Bool) (a : Activity κ) :
    w.begun ≤ (w.submit takes a).begun := by
  cases takes with
  | true => exact Nat.le_succ _
  | false => exact Nat.le_refl _

theorem begun_le_perform (cause : Option (Activity κ)) (takes : Bool) (w : Watch κ)
    (e : Effect κ) : w.begun ≤ (perform cause takes w e).begun := by
  cases e with
  | tell notice => exact Nat.le_refl _
  | count series => exact Nat.le_refl _
  | schedule p delay => exact (w.note _).begun_le_submit takes _
  | dispatch listeners failure => exact ((w.note _).raise failure takes).begun_le_submit takes _
  | ping p request => exact Nat.le_succ _
  | connect before leader => exact Nat.le_succ _

theorem begun_le_update (w : Watch κ) (cause : Option (Activity κ)) (takes : Bool)
    (r : Detector κ × List (Effect κ)) : w.begun ≤ (w.update cause takes r).begun := by
  refine update_preserves (P := (w.begun ≤ ·.begun)) cause takes r (Nat.le_refl _) ?_
  exact fun v e _ old => Nat.le_trans old (begun_le_perform cause takes v e)

theorem begun_le_deliver (w : Watch κ) (a : Activity κ) : w.begun ≤ (w.deliver a).begun := by
  unfold deliver
  split
  · exact Nat.le_succ _
  · exact Nat.le_refl _

theorem begun_le_accept (w : Watch κ) (p : PingerId) (leader : Node) (e : TransportError) :
    w.begun ≤ (w.accept p leader e).begun :=
  Nat.le_succ _

theorem enter_begun (w : Watch κ) (leader : Node) : (w.enter leader).begun = w.begun := by
  unfold enter
  split <;> rfl

theorem begun_le_step (w : Watch κ) (takes : Bool) (m : Move κ) :
    w.begun ≤ (w.step takes m).begun := by
  have goes (id : Nat) (source : Node) (result : Except TransportError Unit) :
      w.begun ≤ (w.step takes (.proceed id source result)).begun := by
    simp only [step]
    split
    · exact Nat.le_trans ((w.without id).begun_le_update _ takes _) (begun_le_deliver _ _)
    · exact Nat.le_refl _
  cases m with
  | restart leader reason =>
    exact Nat.le_trans (Nat.le_of_eq (w.enter_begun leader).symm)
      ((w.enter leader).begun_le_update none takes _)
  | stop reason => exact w.begun_le_update none takes _
  | shutdown => exact w.begun_le_update none takes _
  | drop => exact Nat.le_refl _
  | addListener listener => exact Nat.le_refl _
  | removeListener id => exact Nat.le_refl _
  | lose node => exact w.begun_le_submit takes _
  | handle node => exact w.begun_le_update none takes _
  | proceed id source result => exact goes id source result
  | accept id source node message =>
    refine accept_cases (P := (w.begun ≤ ·.begun)) takes id source node message (goes id source _) ?_
    exact fun p request _ _ _ => (w.without id).begun_le_accept p request.leader _

theorem perform_without (cause : Option (Activity κ)) (takes : Bool) (w : Watch κ) {id : Nat}
    (old : id < w.begun) (e : Effect κ) :
    perform cause takes (w.without id) e = (perform cause takes w e).without id := by
  cases e with
  | tell notice => rfl
  | count series => rfl
  | schedule p delay => exact (w.note _).submit_without old takes _
  | dispatch listeners failure => exact ((w.note _).raise failure takes).submit_without old takes _
  | ping p request => exact (w.note _).spawn_without old _
  | connect before leader => exact (w.note _).spawn_without old _

theorem update_without (w : Watch κ) {id : Nat} (old : id < w.begun)
    (cause : Option (Activity κ)) (takes : Bool) (r : Detector κ × List (Effect κ)) :
    (w.without id).update cause takes r = (w.update cause takes r).without id := by
  have h (es : List (Effect κ)) (v : Watch κ) (old : id < v.begun) :
      es.foldl (perform cause takes) (v.without id) =
        (es.foldl (perform cause takes) v).without id := by
    induction es generalizing v with
    | nil => rfl
    | cons e es ih =>
      rw [List.foldl_cons, List.foldl_cons, perform_without cause takes v old]
      exact ih _ (Nat.lt_of_lt_of_le old (begun_le_perform cause takes v e))
  exact h r.2 { w with detector := r.1 } old

theorem deliver_without (w : Watch κ) {id : Nat} (old : id < w.begun) (a : Activity κ) :
    (w.without id).deliver a = (w.deliver a).without id := by
  unfold deliver
  split
  · exact (w.call _).spawn_without old _
  · rfl

theorem without_comm (w : Watch κ) (i j : Nat) :
    (w.without i).without j = (w.without j).without i := by
  simp [without, List.filter_filter, Bool.and_comm]

theorem lookup_without (w : Watch κ) (i j : Nat) :
    (w.without i).activities.lookup j = if j = i then none else w.activities.lookup j := by
  simp only [without]
  induction w.activities with
  | nil => simp
  | cons x xs ih =>
    by_cases gone : x.1 = i
    · rw [List.filter_cons_of_neg (by simpa using gone), ih, List.lookup_cons, gone]
      split
      · rfl
      · next other => rw [beq_false_of_ne other]
    · rw [List.filter_cons_of_pos (by simpa using gone), List.lookup_cons, List.lookup_cons, ih]
      by_cases here : j = x.1
      · simp [here, gone]
      · rw [beq_false_of_ne here]

theorem enter_without (w : Watch κ) (id : Nat) (leader : Node) :
    (w.without id).enter leader = (w.enter leader).without id := by
  unfold enter
  split
  · next closed => rw [if_pos (show w.detector.closed = true from closed)]
  · next closed => rw [if_neg (show ¬ w.detector.closed = true from closed)]; rfl

theorem proceed_without (w : Watch κ) {id : Nat} (old : id < w.begun) (takes : Bool)
    (source : Node) (result : Except TransportError Unit) (a : Activity κ) :
    (w.without id).proceed takes source result a =
      (w.proceed takes source result a).without id := by
  unfold proceed
  refine Eq.trans ?_ (deliver_without _ (Nat.lt_of_lt_of_le old (w.begun_le_update _ takes _)) a)
  exact congrArg (deliver · a) (w.update_without old _ takes _)

theorem accept_without (w : Watch κ) {id : Nat} (old : id < w.begun) (p : PingerId)
    (leader : Node) (e : TransportError) :
    (w.without id).accept p leader e = (w.accept p leader e).without id :=
  (w.update none true (w.detector, [.count (.pingFailures e.kind)])).spawn_without old _

/-- What goes on without some activity goes on as it would with it. -/
theorem step_without (w : Watch κ) {id : Nat} (old : id < w.begun) (takes : Bool) (m : Move κ)
    (other : m.lets ≠ some id) : (w.without id).step takes m = (w.step takes m).without id := by
  cases m with
  | restart leader reason =>
    simp only [step, enter_without]
    exact (w.enter leader).update_without (w.enter_begun leader ▸ old) none takes _
  | stop reason => exact w.update_without old none takes _
  | shutdown => exact w.update_without old none takes _
  | drop => rfl
  | addListener listener => rfl
  | removeListener id => rfl
  | lose node => exact w.submit_without old takes _
  | handle node => exact w.update_without old none takes _
  | proceed i source result =>
    have ne : i ≠ id := fun same => other (congrArg some same)
    simp only [step, lookup_without, if_neg ne]
    cases w.activities.lookup i with
    | none => rfl
    | some a =>
      dsimp only
      rw [without_comm, (w.without i).proceed_without old]
  | accept i source node message =>
    have ne : i ≠ id := fun same => other (congrArg some same)
    simp only [step, lookup_without, if_neg ne]
    split
    · rw [without_comm, (w.without i).accept_without old, (w.without i).proceed_without old]
      exact (apply_ite (fun v : Watch κ => v.without id) _ _ _).symm
    · rw [without_comm, (w.without i).proceed_without old]
    · rfl

theorem step_gone (w : Watch κ) {id : Nat} (takes : Bool) {m : Move κ} (same : m.lets = some id) :
    (w.without id).step takes m = w.without id := by
  cases m with
  | proceed i source result =>
    obtain rfl := Option.some.inj same
    simp only [step, lookup_without, if_true]
  | accept i source node message =>
    obtain rfl := Option.some.inj same
    simp only [step, lookup_without, if_true]
  | _ => cases same

/-- Without an activity, everything goes on as it does as long as that activity does not. -/
theorem run_without (w : Watch κ) {id : Nat} (old : id < w.begun)
    (moves : List (Bool × Move κ)) :
    (w.without id).run moves = (w.run (moves.filter (·.2.lets != some id))).without id := by
  induction moves generalizing w with
  | nil => rfl
  | cons m moves ih =>
    by_cases same : m.2.lets = some id
    · rw [List.filter_cons_of_neg (by simp [same])]
      exact (congrArg (·.run moves) (w.step_gone m.1 same)).trans (ih w old)
    · rw [List.filter_cons_of_pos (by simp [same])]
      refine (congrArg (·.run moves) (w.step_without old m.1 m.2 same)).trans ?_
      exact ih _ (Nat.lt_of_lt_of_le old (w.begun_le_step m.1 m.2))

theorem proceed_stale {w : Watch κ} (v : w.Valid) (takes : Bool) (source : Node)
    (result : Except TransportError Unit) {a : Activity κ} (stale : a.Stale w.detector) :
    w.proceed takes source result a = w := by
  rw [proceed, Detector.goOn_stale v.sound stale]
  cases a with
  | calling session rest failure => exact absurd stale id
  | _ => rfl

theorem step_stale {w : Watch κ} (v : w.Valid) {id : Nat} {a : Activity κ}
    (here : w.activities.lookup id = some a) (stale : a.Stale w.detector) (takes : Bool)
    {m : Move κ} (lets : m.lets = some id) : w.step takes m = w.without id := by
  have goes (source : Node) (result : Except TransportError Unit) :
      w.step takes (.proceed id source result) = w.without id := by
    rw [step_proceed here]
    exact proceed_stale (v.without id) takes source result stale
  cases m with
  | proceed i source result =>
    obtain rfl := Option.some.inj lets
    exact goes source result
  | accept i source node message =>
    obtain rfl := Option.some.inj lets
    refine accept_cases (P := (· = w.without i)) takes i source node message (goes source _)
      fun p request sent pings owns => ?_
    obtain rfl := Option.some.inj (pings.symm.trans here)
    exact absurd ((v.sound.owns_iff p _).mp owns).1 stale
  | _ => cases lets

/-- When stale work goes on, or the loss of another node than the leader is handled, nothing changes
and nothing is asked for; and all that is done from then on, in whatever order, is the same as if
that work had not gone on. Nor does a stale chain accept that its connection is lost. -/
theorem stale_invisible (settings : FaultDetectionConfig) (clusterName : ClusterName)
    (moves : List (Bool × Move κ)) :
    let w := (create settings clusterName).run moves
    (∀ id a takes source result, w.activities.lookup id = some a → a.Stale w.detector →
      w.step takes (.proceed id source result) = w.without id ∧
      ∀ later, (w.step takes (.proceed id source result)).run later =
        (w.run (later.filter (·.2.lets != some id))).without id) ∧
    (∀ takes node, w.detector.session.leader ≠ some node → w.step takes (.handle node) = w) ∧
    ∀ id a takes source node message, w.activities.lookup id = some a → a.Stale w.detector →
      w.step takes (.accept id source node message) = w.without id := by
  intro w
  have v : w.Valid := run_valid settings clusterName moves
  refine ⟨?_, ?_, fun id a takes source node message here stale => step_stale v here stale takes rfl⟩
  · intro id a takes source result here stale
    have gone : w.step takes (.proceed id source result) = w.without id :=
      step_stale v here stale takes rfl
    refine ⟨gone, fun later => ?_⟩
    rw [gone]
    exact w.run_without (v.below (id, a) (mem_of_lookup here)) later
  · intro takes node other
    rw [step, w.detector.disconnected_other other]
    rfl

/-- The answer to a ping that was sent before a restart, even one against the same leader, and the
loss of an earlier incarnation of that leader. -/
theorem answer_after_restart_invisible :
    let a : Node := ⟨"a", "1", "http://a"⟩
    let w := (create {} "c" : Watch Unit).run
      [(true, .restart a "elected"), (true, .proceed 0 a (.ok ())), (true, .restart a "again")]
    w.detector.session.leader = some a ∧
      (∀ takes source result, w.step takes (.proceed 1 source result) = w.without 1) ∧
      ∀ takes, w.step takes (.handle { a with ephemeralId := "0" }) = w := by
  intro a w
  have here : w.activities.lookup 1 = some (.pinging 0 ⟨a, a, some "c"⟩ 1) := rfl
  have stale : w.detector.session.pinger ≠ some 0 := by decide
  refine ⟨rfl, fun takes source result => ?_, fun takes => ?_⟩
  · exact ((stale_invisible {} "c" _).1 1 _ takes source result here stale).1
  · exact (stale_invisible {} "c" _).2.1 takes _ (by decide)

end Watch

end Vigil
