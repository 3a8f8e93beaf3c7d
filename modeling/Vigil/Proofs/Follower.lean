import Vigil.Proofs.Agenda
import Vigil.Proofs.Notification
import Vigil.World.Operation

/-!
A follower in a scripted network is one of the ways in which moves follow each other: whatever an
operation and the steps after it make of its detector, some moves of a watch make of it too. So what
holds of every watch holds of the follower.
-/

namespace Vigil

/-- Work under way as a watch and a follower both know it. -/
inductive Errand (κ : Type) where
  | round (p : PingerId)
  | answer (p : PingerId) (request : PingRequest)
  | connection (before : Option PingerId) (leader : Node)
  | calls (listeners : List (Nat × κ)) (failure : LeaderFailure)
deriving DecidableEq

def Activity.errand {κ : Type} : Activity κ → Option (Errand κ)
  | scheduled p _ => some (.round p)
  | pinging p request _ => some (.answer p request)
  | connecting _ before leader => some (.connection before leader)
  | lost .. => none
  | calling _ rest failure => some (.calls rest failure)

def Call.errand : Call → Option (Errand Listener)
  | ping p request => some (.answer p request)
  | connect before node _ => some (.connection before node)
  | handshake .. => none

def Task.errand : Task → Option (Errand Listener)
  | scheduled _ p | round p => some (.round p)
  | answered call _ | released call _ => call.errand
  | dispatch listeners failure => some (.calls listeners failure)
  | _ => none

/-- Whether an event is that a listener was called. -/
def Event.isCall : Event → Bool
  | failure .. | closure .. => true
  | _ => false

/-- What can be observed when a listener is called. -/
def Delivery.event (d : Delivery Listener) : Option Event :=
  match d.listener.2 with
  | .forget => none
  | .named name _ => some (.failure name d.failure)
  | .closure name => some (.closure name d.failure.leader)

namespace World

def errands (w : World) (e : Errand Listener) : Nat :=
  w.agenda.ready.countP (·.errand == some e) + w.agenda.timers.countP (·.2.errand == some e) +
    w.held.countP (·.2.errand == some e)

/-- The calls of listeners that were observed, the oldest first. -/
def heard (w : World) : List Event := ((w.events.map (·.2)).filter Event.isCall).reverse

end World

namespace Watch

def errands (w : Watch Listener) (e : Errand Listener) : Nat :=
  w.activities.countP (·.2.errand == some e)

/-- A follower is as a watch has it, and knows of no work that the watch does not know of; `ahead`
is what the watch has called already and the follower is about to call. -/
structure Matches (w : Watch Listener) (v : World) (ahead : List Event) : Prop where
  detector : w.detector = v.detector
  metrics : w.metrics = v.metrics
  heard : v.heard ++ ahead = w.deliveries.filterMap Delivery.event
  errands : ∀ e, v.errands e ≤ w.errands e

end Watch

namespace World

/-- Of all that a watch knows, only the work under way differs, by at most one errand more. -/
structure Adds (v v' : World) (errand : Option (Errand Listener)) : Prop where
  detector : v'.detector = v.detector
  metrics : v'.metrics = v.metrics
  heard : v'.heard = v.heard
  errands : ∀ e, v'.errands e ≤ v.errands e + if errand = some e then 1 else 0

theorem Adds.refl (v : World) : Adds v v none :=
  ⟨rfl, rfl, rfl, fun _ => Nat.le_add_right ..⟩

theorem Adds.trans {u v v' : World} {errand : Option (Errand Listener)} (h : Adds u v none)
    (h' : Adds v v' errand) : Adds u v' errand where
  detector := h'.detector.trans h.detector
  metrics := h'.metrics.trans h.metrics
  heard := h'.heard.trans h.heard
  errands e := by
    have one := h.errands e
    have two := h'.errands e
    simp only [reduceCtorEq, if_false] at one
    omega

theorem adds_observe (v : World) {e : Event} (h : e.isCall = false) : Adds v (v.observe e) none :=
  ⟨rfl, rfl, congrArg List.reverse (List.filter_cons_of_neg (by simp [h])),
    fun _ => Nat.le_add_right ..⟩

theorem adds_tell (v : World) (n : Notice) : Adds v (v.tell n) none :=
  v.adds_observe rfl

theorem adds_tellAll (v : World) (ns : List Notice) : Adds v (v.tellAll ns) none :=
  tellAll_preserves (P := (Adds v · none)) ns (.refl v) fun u n adds => adds.trans (u.adds_tell n)

theorem adds_spawn (v : World) (t : Task) : Adds v (v.spawn t) t.errand := by
  refine ⟨rfl, rfl, rfl, fun e => ?_⟩
  simp only [errands, spawn, Agenda.push, List.countP_append, List.countP_singleton, beq_iff_eq]
  omega

theorem adds_proceed (v : World) (t : Task) : Adds v (v.proceed t) t.errand := by
  refine ⟨rfl, rfl, rfl, fun e => ?_⟩
  simp only [errands, proceed, Agenda.pushFront, List.countP_cons, beq_iff_eq]
  omega

theorem countP_insertTimer (due : Nat) (t : Task) (timers : List (Nat × Task))
    (kind : Task → Bool) : (Agenda.insertTimer due t timers).countP (kind ·.2) =
      timers.countP (kind ·.2) + if kind t then 1 else 0 := by
  rw [(Agenda.insertTimer_perm due t timers).countP_eq, List.countP_cons]

theorem adds_after (v : World) (time : Nat) (t : Task) : Adds v (v.after time t) t.errand := by
  unfold after
  split
  · exact v.adds_proceed t
  · refine ⟨rfl, rfl, rfl, fun e => ?_⟩
    simp only [errands, Agenda.wait, countP_insertTimer _ t _ (·.errand == some e), beq_iff_eq]
    omega

theorem adds_hold (v : World) (key : String) (c : Call) : Adds v (v.hold key c) c.errand := by
  refine ⟨rfl, rfl, rfl, fun e => ?_⟩
  simp only [errands, hold, List.countP_append, List.countP_singleton, beq_iff_eq]
  omega

theorem adds_reply (v : World) (c : Call) (r : ScriptedReply) : Adds v (v.reply c r) c.errand :=
  v.adds_after _ _

theorem adds_call (v : World) (c : Call) (script : Script) : Adds v (v.call c script) c.errand := by
  unfold call
  split
  · let network := { v.network with calls := v.network.calls + 1 }
    have counted : Adds v { v with network } none := ⟨rfl, rfl, rfl, fun _ => Nat.le_add_right ..⟩
    exact counted.trans (adds_hold _ _ c)
  · cases script with
    | reply r => exact v.adds_reply c r
    | hold key => exact v.adds_hold key c

theorem adds_submit (v : World) (task : StateTask) (waiter : Waiter) :
    Adds v (v.submit task waiter) none := by
  unfold submit
  split
  · exact v.adds_proceed (.finished waiter _)
  · next queue _ =>
    have queued : Adds v { v with queue } none := ⟨rfl, rfl, rfl, fun _ => Nat.le_add_right ..⟩
    dsimp only
    split
    · exact queued.trans (adds_spawn _ .work)
    · exact queued

theorem call_schedulerClosed (v : World) (c : Call) (script : Script) :
    (v.call c script).schedulerClosed = v.schedulerClosed := by
  unfold call
  split
  · rfl
  · cases script with
    | reply r =>
      simp only [reply, after]
      split <;> rfl
    | hold key => rfl

theorem perform_schedulerClosed (keeps : Bool) (v : World) (e : Effect Listener) :
    (v.perform keeps e).schedulerClosed = v.schedulerClosed := by
  cases e with
  | tell notice => rfl
  | count series => rfl
  | schedule p delay =>
    simp only [perform]
    split <;> rfl
  | dispatch listeners failure =>
    simp only [perform]
    split <;> rfl
  | ping p request => exact call_schedulerClosed _ _ _
  | connect before leader => exact call_schedulerClosed _ _ _

end World

namespace Watch

theorem errands_spawn (w : Watch Listener) (a : Activity Listener) (e : Errand Listener) :
    (w.spawn a).errands e = w.errands e + if a.errand = some e then 1 else 0 := by
  simp [errands, spawn, List.countP_append, List.countP_singleton]

variable {ahead : List Event}

theorem Matches.quiet {w : Watch Listener} {v v' : World} (m : w.Matches v ahead)
    (h : v.Adds v' none) : w.Matches v' ahead where
  detector := m.detector.trans h.detector.symm
  metrics := m.metrics.trans h.metrics.symm
  heard := h.heard ▸ m.heard
  errands e := Nat.le_trans (h.errands e) (m.errands e)

theorem Matches.spawn {w : Watch Listener} {v v' : World} (m : w.Matches v ahead)
    (a : Activity Listener) (h : v.Adds v' a.errand) : (w.spawn a).Matches v' ahead where
  detector := m.detector.trans h.detector.symm
  metrics := m.metrics.trans h.metrics.symm
  heard := h.heard ▸ m.heard
  errands e := by
    rw [errands_spawn]
    exact Nat.le_trans (h.errands e) (Nat.add_le_add_right (m.errands e) _)

theorem Matches.note {w : Watch Listener} {v : World} (m : w.Matches v ahead)
    (e : Effect Listener) : (w.note e).Matches v ahead :=
  ⟨m.detector, m.metrics, m.heard, m.errands⟩

theorem Matches.submit {w : Watch Listener} {v : World} (m : w.Matches v ahead)
    (a : Activity Listener) (t : Task) (same : t.errand = a.errand) (notice : Notice) :
    (w.submit (!v.schedulerClosed) a).Matches
      (if v.schedulerClosed then v.tell notice else v.spawn t) ahead := by
  cases v.schedulerClosed with
  | true =>
    have told := m.quiet (v.adds_tell notice)
    exact ⟨told.detector, told.metrics, told.heard, told.errands⟩
  | false => exact m.spawn a (same ▸ v.adds_spawn t)

theorem Matches.perform {w : Watch Listener} {v : World} (m : w.Matches v ahead) (keeps : Bool)
    (cause : Option (Activity Listener)) (e : Effect Listener) :
    (Watch.perform cause (!v.schedulerClosed) w e).Matches (v.perform keeps e) ahead := by
  cases e with
  | tell notice => exact (m.note _).quiet (v.adds_tell notice)
  | count series =>
    exact ⟨m.detector, congrArg (·.count series) m.metrics, m.heard, m.errands⟩
  | schedule p delay => exact (m.note _).submit _ (.scheduled delay.millis p) rfl _
  | dispatch listeners failure =>
    have raised : ((w.note (.dispatch listeners failure)).raise failure
        (!v.schedulerClosed)).Matches v ahead :=
      ⟨m.detector, m.metrics, m.heard, m.errands⟩
    exact raised.submit _ (.dispatch listeners failure) rfl _
  | ping p request =>
    have called (v : World) := v.adds_call (.ping p request)
    refine (m.note _).spawn _ (World.Adds.trans ?_ (called _ _))
    exact (v.adds_observe rfl).trans ⟨rfl, rfl, rfl, fun _ => Nat.le_add_right ..⟩
  | connect before leader =>
    have called (v : World) := v.adds_call (.connect before leader keeps)
    refine (m.note _).spawn _ (World.Adds.trans ?_ (called _ _))
    exact (v.adds_observe rfl).trans ⟨rfl, rfl, rfl, fun _ => Nat.le_add_right ..⟩

theorem Matches.update {w : Watch Listener} {v : World} (m : w.Matches v ahead) (keeps : Bool)
    (cause : Option (Activity Listener)) (r : Detector Listener × List (Effect Listener)) :
    (w.update cause (!v.schedulerClosed) r).Matches (v.update keeps r) ahead := by
  have h (es : List (Effect Listener)) (w : Watch Listener) (v : World)
      (m : w.Matches v ahead) :
      (es.foldl (Watch.perform cause (!v.schedulerClosed)) w).Matches
        (es.foldl (World.perform keeps) v) ahead := by
    induction es generalizing w v with
    | nil => exact m
    | cons e es ih =>
      have next := ih _ _ (m.perform keeps cause e)
      rwa [World.perform_schedulerClosed] at next
  exact h r.2 _ { v with detector := r.1 } ⟨rfl, m.metrics, m.heard, m.errands⟩

end Watch

namespace World

/-- Whatever a watch has to do with one state of a follower, some moves lead it to the next. -/
def Leads (ahead : List Event) (v v' : World) : Prop :=
  ∀ w : Watch Listener, w.Valid → w.Matches v ahead → ∃ moves, (w.run moves).Matches v' ahead

variable {ahead : List Event}

theorem Leads.refl (v : World) : Leads ahead v v := fun _ _ m => ⟨[], m⟩

theorem Leads.trans {u v v' : World} (h : Leads ahead u v) (h' : Leads ahead v v') :
    Leads ahead u v' := by
  intro w valid m
  obtain ⟨first, m⟩ := h w valid m
  obtain ⟨second, m⟩ := h' _ (valid.run first) m
  refine ⟨first ++ second, ?_⟩
  rw [Watch.run, List.foldl_append]
  exact m

theorem Adds.leads {v v' : World} (h : Adds v v' none) : Leads ahead v v' :=
  fun _ _ m => ⟨[], m.quiet h⟩

theorem leads_move {v v' : World} (move : Move Listener)
    (h : ∀ w : Watch Listener, w.Matches v ahead →
      (w.step (!v.schedulerClosed) move).Matches v' ahead) :
    Leads ahead v v' :=
  fun w _ m => ⟨[(!v.schedulerClosed, move)], h w m⟩

theorem leads_restart (v : World) (keeps : Bool) (leader : Node) (reason : String) :
    Leads ahead v (v.update keeps (v.detector.restart leader reason)) := by
  refine leads_move (.restart leader reason) fun w m => ?_
  have entered : (w.enter leader).Matches v ahead := by
    unfold Watch.enter
    split
    · exact m
    · exact ⟨m.detector, m.metrics, m.heard, m.errands⟩
  rw [← m.detector]
  exact entered.update keeps none _

theorem leads_stop (v : World) (keeps : Bool) (reason : String) :
    Leads ahead v (v.update keeps (v.detector.stop reason)) := by
  refine leads_move (.stop reason) fun w m => ?_
  rw [← m.detector]
  exact m.update keeps none _

theorem leads_shutdown (v : World) (keeps : Bool) :
    Leads ahead v (v.update keeps v.detector.shutdown) := by
  refine leads_move .shutdown fun w m => ?_
  rw [← m.detector]
  exact m.update keeps none _

theorem leads_disconnected (v : World) (keeps : Bool) (node : Node) :
    Leads ahead v (v.update keeps (v.detector.disconnected node)) := by
  refine leads_move (.handle node) fun w m => ?_
  rw [← m.detector]
  exact m.update keeps none _

theorem leads_giveUp (v : World) : Leads ahead v v.giveUp := by
  unfold giveUp
  split
  · exact .refl v
  · refine leads_move .drop fun w m => ?_
    exact ⟨congrArg Detector.endSession m.detector, m.metrics, m.heard, m.errands⟩

theorem leads_addListener (v : World) (listener : Listener) (names : List (String × Nat)) :
    Leads ahead v { v with detector := (v.detector.addListener listener).1, names } := by
  refine leads_move (.addListener listener) fun w m => ?_
  exact ⟨congrArg (fun d => (d.addListener listener).1) m.detector, m.metrics, m.heard, m.errands⟩

theorem leads_removeListener (v : World) (name : String) :
    Leads ahead v (v.removeListener name).1 := by
  unfold removeListener
  split
  · exact .refl v
  · next id _ =>
    refine leads_move (.removeListener id) fun w m => ?_
    exact ⟨congrArg (fun d => (d.removeListener id).1) m.detector, m.metrics, m.heard, m.errands⟩

theorem leads_react (v : World) (reaction : Reaction) : Leads ahead v (v.react reaction) := by
  cases reaction with
  | restart leader => exact v.leads_restart false leader "listener"
  | stop => exact v.leads_stop false "listener"
  | shutdown => exact v.leads_shutdown false
  | remove name => exact (v.leads_removeListener name).trans (adds_observe _ rfl).leads

theorem matches_observe {v : World} {w : Watch Listener} {e : Event}
    (m : w.Matches v (e :: ahead)) (call : e.isCall = true) : w.Matches (v.observe e) ahead := by
  have heard : (v.observe e).heard = v.heard ++ [e] := by
    simp [heard, observe, call]
  refine ⟨m.detector, m.metrics, ?_, m.errands⟩
  rw [heard, List.append_assoc]
  exact m.heard

/-- The follower calls a listener that the watch has called. -/
theorem matches_notify {v : World} {w : Watch Listener} {d : Delivery Listener}
    (valid : w.Valid) (m : w.Matches v (d.event.toList ++ ahead)) :
    ∃ moves, (w.run moves).Matches (v.notify d.failure d.listener) ahead := by
  obtain ⟨session, ⟨id, listener⟩, failure⟩ := d
  cases listener with
  | forget =>
    exact ((v.adds_tell _).trans (adds_spawn _ (.forget failure.leader))).leads w valid m
  | closure name => exact ⟨[], matches_observe m rfl⟩
  | named name reaction =>
    have observed := matches_observe m rfl
    cases reaction with
    | none => exact ⟨[], observed⟩
    | some reaction =>
      simp only [notify]
      split
      · exact leads_react _ reaction w valid observed
      · exact ⟨[], observed⟩

/-- An errand is taken up; all else that a watch knows is the same. -/
structure Takes (v v' : World) (errand : Option (Errand Listener)) : Prop where
  detector : v'.detector = v.detector
  metrics : v'.metrics = v.metrics
  heard : v'.heard = v.heard
  errands : ∀ e, v'.errands e + (if errand = some e then 1 else 0) ≤ v.errands e

theorem Takes.adds {u v v' : World} {errand : Option (Errand Listener)} (h : Takes u v errand)
    (h' : Adds v v' errand) : Adds u v' none where
  detector := h'.detector.trans h.detector
  metrics := h'.metrics.trans h.metrics
  heard := h'.heard.trans h.heard
  errands e := Nat.le_trans (h'.errands e) (Nat.le_trans (h.errands e) (Nat.le_add_right ..))

/-- Whichever activity of the watch has the errand, the others have all the other ones. -/
theorem Takes.left {v v' : World} {e : Errand Listener} (h : Takes v v' (some e))
    {w : Watch Listener} (valid : w.Valid) (m : w.Matches v ahead) {id : Nat} {a : Activity Listener}
    (found : w.activities.lookup id = some a) (errand : a.errand = some e) :
    (w.without id).Matches v' ahead := by
  refine ⟨m.detector.trans h.detector.symm, m.metrics.trans h.metrics.symm, h.heard ▸ m.heard,
    fun e' => ?_⟩
  have fewer := valid.countP_without found (·.errand == some e')
  have taken := h.errands e'
  have bound := m.errands e'
  simp only [errand, beq_iff_eq] at fewer
  simp only [Watch.errands] at bound ⊢
  omega

theorem Takes.matches {v v' : World} {e : Errand Listener} (h : Takes v v' (some e))
    {w : Watch Listener} (valid : w.Valid) (m : w.Matches v ahead) :
    ∃ id a, w.activities.lookup id = some a ∧ a.errand = some e ∧
      (w.without id).Matches v' ahead := by
  have known : 0 < w.errands e := by
    have taken := h.errands e
    have bound := m.errands e
    rw [if_pos rfl] at taken
    omega
  obtain ⟨⟨id, a⟩, here, same⟩ := List.countP_pos_iff.mp known
  have errand : a.errand = some e := eq_of_beq same
  have found := valid.lookup_of_mem here
  exact ⟨id, a, found, errand, h.left valid m found errand⟩

/-- An errand goes on in the follower as in the watch. -/
theorem leads_goOn {v v' : World} {e : Errand Listener} (h : Takes v v' (some e)) (keeps : Bool)
    (r : Detector Listener → Detector Listener × List (Effect Listener)) (source : Node)
    (result : Except TransportError Unit)
    (same : ∀ a : Activity Listener, a.errand = some e →
      (∀ d : Detector Listener, d.goOn source result a = r d) ∧
      ∀ w : Watch Listener, w.deliver a = w) :
    Leads ahead v (v'.update keeps (r v'.detector)) := by
  intro w valid m
  obtain ⟨id, a, found, errand, left⟩ := h.matches valid m
  obtain ⟨outcome, quiet⟩ := same a errand
  refine ⟨[(!v'.schedulerClosed, .proceed id source result)], ?_⟩
  change (w.step (!v'.schedulerClosed) (.proceed id source result)).Matches _ ahead
  rw [Watch.step_proceed found, Watch.proceed, quiet, outcome, left.detector]
  exact left.update keeps (some a) _

theorem leads_beginRound {v v' : World} {p : PingerId} (h : Takes v v' (some (.round p)))
    (source : Node) : Leads ahead v (v'.update false (v'.detector.beginRound p source)) := by
  refine leads_goOn h false (·.beginRound p source) source (.ok ()) fun a same => ?_
  cases a <;> cases same
  exact ⟨fun _ => rfl, fun _ => rfl⟩

theorem leads_pinged {v v' : World} {p : PingerId} {request : PingRequest}
    (h : Takes v v' (some (.answer p request))) (result : Except TransportError Unit) :
    Leads ahead v (v'.update false (v'.detector.pinged p request result)) := by
  refine leads_goOn h false (·.pinged p request result) request.source result fun a same => ?_
  cases a <;> cases same
  exact ⟨fun _ => rfl, fun _ => rfl⟩

theorem leads_connected {v v' : World} {before : Option PingerId} {leader : Node}
    (h : Takes v v' (some (.connection before leader))) (keeps : Bool)
    (result : Except TransportError Unit) :
    Leads ahead v (v'.update keeps (v'.detector.connected before leader result)) := by
  refine leads_goOn h keeps (·.connected before leader result) leader result fun a same => ?_
  cases a <;> cases same
  exact ⟨fun _ => rfl, fun _ => rfl⟩

theorem leads_dispatch {v v' : World} {listeners : List (Nat × Listener)} {failure : LeaderFailure}
    (h : Takes v v' (some (.calls listeners failure))) :
    Leads [] v (listeners.foldl (notify failure) v') := by
  -- The watch calls all listeners first, and then does what they ask for.
  let event (l : Nat × Listener) : Option Event := Delivery.event ⟨0, l, failure⟩
  have reacts (listeners : List (Nat × Listener)) (v : World) (w : Watch Listener)
      (valid : w.Valid) (m : w.Matches v (listeners.filterMap event)) :
      ∃ moves, (w.run moves).Matches (listeners.foldl (notify failure) v) [] := by
    induction listeners generalizing v w with
    | nil => exact ⟨[], m⟩
    | cons l listeners ih =>
      have first : (l :: listeners).filterMap event =
          (event l).toList ++ listeners.filterMap event := by
        rw [List.filterMap_cons]
        cases event l <;> rfl
      rw [first] at m
      obtain ⟨reaction, m⟩ := matches_notify valid m
      obtain ⟨others, m⟩ := ih _ _ (valid.run reaction) m
      refine ⟨reaction ++ others, ?_⟩
      rw [Watch.run, List.foldl_append]
      exact m
  intro w valid m
  obtain ⟨id, a, found, errand, left⟩ := h.matches valid m
  cases a <;> cases errand
  next session =>
  obtain ⟨called, begun, _, done⟩ := valid.completes found
  have told : (w.run called).Matches v' (listeners.filterMap event) := by
    rw [done]
    refine ⟨left.detector, left.metrics, ?_, left.errands⟩
    have before := left.heard
    rw [List.append_nil] at before
    rw [before, List.filterMap_append, Activity.calls, List.filterMap_map]
    rfl
  obtain ⟨moves, m⟩ := reacts listeners v' _ (valid.run called) told
  refine ⟨called ++ moves, ?_⟩
  rw [Watch.run, List.foldl_append]
  exact m

theorem leads_reconcile (v : World) : Leads ahead v v.reconcile := by
  unfold reconcile
  split
  · exact .refl v
  · exact v.leads_stop true _
  · exact v.leads_restart true _ _

theorem leads_discover (v : World) (rest : List PeerConfig) (loop : Loop) :
    Leads ahead v (v.discover rest loop) := by
  cases rest with
  | nil =>
    refine v.leads_reconcile.trans ?_
    cases loop with
    | none => exact .refl _
    | some due => exact (adds_after _ _ (.tick due)).leads
  | cons peer rest =>
    have observed := v.adds_observe (e := .handshake peer.address) rfl
    refine Adds.leads (observed.trans ?_)
    simp only [discover]
    split
    · next served _ => exact adds_call _ (.handshake peer rest loop served.node) served.script
    · split
      · next live =>
        have emitted := adds_call (v.observe (.handshake peer.address))
          (.handshake peer rest loop ⟨"", "", peer.address⟩) (.hold "")
        rwa [call, if_pos live] at emitted
      · exact adds_proceed _ (.answered (.handshake peer rest loop _) _)

theorem adds_handshaken (v : World) (peer : PeerConfig) (rest : List PeerConfig) (loop : Loop)
    (answer : Except TransportError Node) : Adds v (v.handshaken peer rest loop answer) none := by
  simp only [handshaken]
  split
  · exact (v.adds_tellAll _).trans (adds_submit _ _ _)
  · exact (v.adds_tellAll _).trans (adds_proceed _ (.discover rest loop))

theorem adds_finish (v : World) (waiter : Waiter) (result : Except StateTaskError Unit) :
    Adds v (v.finish waiter result) none := by
  cases waiter with
  | operator => exact ⟨rfl, rfl, rfl, fun _ => Nat.le_add_right ..⟩
  | forgetting =>
    cases result with
    | ok _ => exact .refl v
    | error e => exact v.adds_tell _
  | discovery peer rest loop =>
    cases result with
    | ok _ => exact v.adds_proceed (.discover rest loop)
    | error e => exact (v.adds_tell _).trans (adds_proceed _ (.discover rest loop))

theorem adds_work (v : World) : Adds v v.work none := by
  unfold work
  split
  · exact .refl v
  · next queue done _ =>
    have queued : Adds v { v with queue } none := ⟨rfl, rfl, rfl, fun _ => Nat.le_add_right ..⟩
    have told := queued.trans (adds_tellAll _ done.notices)
    have woken (u : World) :
        Adds u (if u.queue.pending.isEmpty then u else u.proceed .work) none := by
      split
      · exact .refl u
      · exact u.adds_proceed .work
    dsimp only
    cases done.waiter with
    | none => exact told.trans (woken _)
    | some waiter => exact (told.trans (adds_spawn _ (.finished waiter _))).trans (woken _)

theorem leads_answer {v v' : World} {c : Call} (h : Takes v v' c.errand)
    (result : Except TransportError Unit) : Leads ahead v (v'.answer c result) := by
  cases c with
  | ping p request => exact leads_pinged h result
  | connect before node keeps => exact leads_connected h keeps result
  | handshake peer rest loop found =>
    exact (h.adds (v'.adds_handshaken peer rest loop _)).leads

/-- A task that runs goes on as some activity of the watch, if it concerns the watch at all. -/
theorem leads_run {v v' : World} (task : Task) (h : Takes v v' task.errand) :
    Leads [] v (v'.run task) := by
  cases task with
  | scheduled delay p =>
    cases delay with
    | zero => exact leads_beginRound h _
    | succ delay => exact (h.adds (v'.adds_after (delay + 1) (.round p))).leads
  | round p => exact leads_beginRound h _
  | answered c result => exact leads_answer h result
  | released c reply => exact (h.adds (v'.adds_reply c reply)).leads
  | disconnected node keeps =>
    exact (h.adds (Adds.refl v')).leads.trans (v'.leads_disconnected keeps node)
  | dispatch listeners failure => exact leads_dispatch h
  | forget leader => exact (h.adds (v'.adds_submit _ _)).leads
  | discover rest loop => exact (h.adds (Adds.refl v')).leads.trans (v'.leads_discover rest loop)
  | looping =>
    refine (h.adds ?_).leads
    simp only [run]
    split
    · exact .refl v'
    · exact v'.adds_proceed (.tick _)
  | tick due => exact (h.adds (v'.adds_proceed (.discover _ _))).leads
  | work => exact (h.adds v'.adds_work).leads
  | finished waiter result => exact (h.adds (v'.adds_finish waiter result)).leads

/-- Whether the follower does something or its clock moves on, the watch keeps up with it. -/
theorem leads_step {v next : World} {limit : Nat} (h : v.step limit = some next) :
    Leads [] v next := by
  unfold step at h
  split at h
  · next task agenda popped =>
    obtain rfl := Option.some.inj h
    have taken : Takes v { v with agenda } task.errand := by
      unfold Agenda.pop at popped
      split at popped
      · cases popped
      · next x rest ready =>
        cases popped
        refine ⟨rfl, rfl, rfl, fun e => ?_⟩
        simp only [errands, ready, List.countP_cons, beq_iff_eq]
        omega
    exact (leads_run task taken).trans (leads_giveUp _)
  · obtain ⟨agenda, woken, rfl⟩ := Option.map_eq_some_iff.mp h
    unfold Agenda.wake at woken
    split at woken
    · cases woken
    · next due t rest _ =>
      split at woken
      · cases woken
      · cases woken
        refine Adds.leads ⟨rfl, rfl, rfl, fun e => ?_⟩
        simp only [errands, List.countP_append, List.countP_map]
        have split := List.countP_eq_countP_filter_add v.agenda.timers (·.2.errand == some e)
          (·.1 ≤ max v.agenda.now due)
        simp only [decide_not, Function.comp_def] at split ⊢
        omega

theorem leads_runUntil (v : World) (limit fuel : Nat) : Leads [] v (runUntil limit fuel v) := by
  induction fuel generalizing v with
  | zero => exact .refl v
  | succ fuel ih =>
    unfold runUntil
    split
    · next next h => exact (leads_step h).trans (ih next)
    · exact .refl v

theorem adds_lose (v : World) (node : Node) : Adds v (v.lose node) none := by
  unfold lose
  split
  · split
    · exact v.adds_tell _
    · exact v.adds_spawn (.disconnected node false)
  · exact .refl v

theorem adds_loseAll (v : World) (nodes : List Node) : Adds v (nodes.foldl lose v) none := by
  refine List.foldlRecOn (motive := (Adds v · none)) nodes _ (.refl v) fun u adds node _ => ?_
  exact adds.trans (u.adds_lose node)

theorem takes_held (v : World) {key : String} {c : Call} (h : v.held.lookup key = some c) :
    Takes v { v with held := v.held.filter (·.1 != key) } c.errand := by
  obtain ⟨l₁, l₂, split, _⟩ := List.lookup_eq_some_iff.mp h
  refine ⟨rfl, rfl, rfl, fun e => ?_⟩
  have fewer (l : List (String × Call)) := List.Sublist.countP_le (p := (·.2.errand == some e))
    (List.filter_sublist (p := (·.1 != key)) (l := l))
  have first := fewer l₁
  have last := fewer l₂
  simp only [errands, split, List.filter_append, List.filter_cons_of_neg, bne_self_eq_false,
    Bool.false_eq_true, not_false_eq_true, List.countP_append, List.countP_cons, beq_iff_eq]
    at first last ⊢
  omega

theorem finding_errand (found : Option Node) (c : Call) :
    (found.elim c c.finding).errand = c.errand := by
  cases found <;> cases c <;> rfl

theorem adds_abortDiscovery (v : World) : Adds v v.abortDiscovery none := by
  refine ⟨rfl, rfl, rfl, fun e => ?_⟩
  refine Nat.le_add_right_of_le (Nat.add_le_add (Nat.add_le_add ?_ ?_) ?_)
  all_goals exact List.filter_sublist.countP_le

theorem leads_apply (v : World) (op : Operation) : Leads [] v (v.apply op).1 := by
  have operate (next : World) (h : Leads [] v next) :
      Leads [] v (if v.operated then next else v) := by
    split
    · exact h
    · exact .refl v
  have other {v' : World} (h : Adds v v' none) : Leads [] v v' := h.leads
  cases op with
  | restart leader reason => exact operate _ (v.leads_restart false leader reason)
  | stop reason => exact operate _ (v.leads_stop false reason)
  | shutdown => exact operate _ (v.leads_shutdown false)
  | addListener name listener => exact operate _ (v.leads_addListener listener _)
  | removeListener name =>
    simp only [apply]
    split
    · exact v.leads_removeListener name
    · exact .refl v
  | scriptPings scripts => exact other ⟨rfl, rfl, rfl, fun _ => Nat.le_add_right ..⟩
  | scriptConnects scripts => exact other ⟨rfl, rfl, rfl, fun _ => Nat.le_add_right ..⟩
  | serve served => exact other ⟨rfl, rfl, rfl, fun _ => Nat.le_add_right ..⟩
  | unserve address => exact other ⟨rfl, rfl, rfl, fun _ => Nat.le_add_right ..⟩
  | release key reply =>
    simp only [apply]
    split
    · exact .refl v
    · next c held => exact ((v.takes_held held).adds (adds_spawn _ (.released c reply))).leads
  | answer key result found lost =>
    have told := v.adds_loseAll lost
    simp only [apply]
    split
    · exact told.leads
    · next c held =>
      have taken := takes_held _ held
      rw [← finding_errand found c] at taken
      exact (told.trans (taken.adds (adds_proceed _ (.answered _ result)))).leads
  | lose node => exact other (v.adds_lose node)
  | handleDisconnect node => exact operate _ (other (v.adds_spawn (.disconnected node true)))
  | submit task =>
    have cleared : Adds v { v with outcome := none } none :=
      ⟨rfl, rfl, rfl, fun _ => Nat.le_add_right ..⟩
    exact other (cleared.trans (adds_submit _ task .operator))
  | forget failure => exact other ((v.adds_tell _).trans (adds_spawn _ (.forget failure.leader)))
  | discover =>
    refine operate _ ?_
    split
    · next d _ => exact other (v.adds_spawn (.discover d.others none))
    · exact .refl v
  | startDiscovery =>
    refine operate _ ?_
    split
    · exact other (v.adds_spawn .looping)
    · exact .refl v
  | abortDiscovery => exact other v.adds_abortDiscovery
  | closeScheduler => exact other ⟨rfl, rfl, rfl, fun _ => Nat.le_add_right ..⟩
  | advance time =>
    let limit := v.agenda.now + time
    have reached (u : World) : Adds u { u with agenda := u.agenda.reach limit } none :=
      ⟨rfl, rfl, rfl, fun _ => Nat.le_add_right ..⟩
    exact (v.leads_runUntil limit stepLimit).trans (reached _).leads
  | drop =>
    have released : Adds v { v with operated := false } none :=
      ⟨rfl, rfl, rfl, fun _ => Nat.le_add_right ..⟩
    exact released.leads.trans (leads_giveUp _)
  | nothing => exact .refl v

theorem leads_operate (v : World) (op : Operation) : Leads [] v (v.operate op).1 := by
  have settled : Leads [] v ((v.apply op).1.settle.giveUp) :=
    ((v.leads_apply op).trans (leads_runUntil _ _ _)).trans (leads_giveUp _)
  unfold operate
  dsimp only
  split <;> exact settled

theorem leads_operations (v : World) (ops : List Operation) :
    Leads [] v (ops.foldl (fun v op => (v.operate op).1) v) := by
  induction ops generalizing v with
  | nil => exact .refl v
  | cons op ops ih => exact (v.leads_operate op).trans (ih _)

end World

namespace Watch

/-- Whatever an operator does to a follower, and whatever its network answers, its detector, its
metrics and the calls of its listeners are those of some moves of a watch. -/
theorem operations_are_moves (state : ClusterState) (settings : FaultDetectionConfig)
    (clusterName : ClusterName) (forget : Bool) (discovery : Option Discovery)
    (ops : List Operation) :
    let v := ops.foldl (fun v op => (v.operate op).1)
      (World.start state settings clusterName forget discovery)
    ∃ moves, ((create settings clusterName).run moves).Matches v [] := by
  intro v
  let idle : World := {
    detector := (Detector.create settings clusterName).1
    queue := { applied := state }
    discovery }
  let ready : World := (Detector.create settings clusterName).2.foldl (World.perform false) idle
  have created : (create settings clusterName).Matches ready [] :=
    ⟨rfl, rfl, rfl, fun _ => Nat.le_refl _⟩
  have started : World.Leads [] ready
      (World.start state settings clusterName forget discovery) := by
    cases forget with
    | true => exact ready.leads_apply (.addListener "forget" .forget)
    | false => exact .refl ready
  exact (started.trans (World.leads_operations _ ops)) _ (create_valid settings clusterName) created

/-- What holds of the session in every run of a watch holds of that of a follower. -/
theorem follower_sound (state : ClusterState) (settings : FaultDetectionConfig)
    (clusterName : ClusterName) (forget : Bool) (discovery : Option Discovery)
    (ops : List Operation) :
    let v := ops.foldl (fun v op => (v.operate op).1)
      (World.start state settings clusterName forget discovery)
    v.detector.Sound := by
  intro v
  obtain ⟨moves, m⟩ := operations_are_moves state settings clusterName forget discovery ops
  exact m.detector ▸ (run_valid settings clusterName moves).sound

end Watch

end Vigil
