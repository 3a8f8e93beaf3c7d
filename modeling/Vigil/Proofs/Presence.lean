import Vigil.Connections

/-!
Whom a node is connected to, after any exchanges with others: those whom it met and has not lost
since. Who listens at that moment is told of every loss of a node that was connected, once, and of
nothing else.
-/

namespace Vigil

namespace Exchange

/-- The answer says that all went well. -/
def Succeeded (e : Exchange) : Prop :=
  ∃ status body, e = .answered status body ∧ 200 ≤ status ∧ status < 300

/-- Nobody took the request, which is another matter than an answer that does not come in time. -/
def Unreached (e : Exchange) : Prop := ∃ message, e = .unreachable message

/-- The answer tells, in full, who is there. -/
def Found (e : Exchange) (n : Node) : Prop :=
  ∃ status letters, e = .answered status (.ok letters) ∧ ¬ (400 ≤ status ∧ status < 600) ∧
    Json.readText Node.ofJson letters = .ok n

end Exchange

namespace Connections

inductive Event (ω : Type) where
  | ping (target : Node) (limit : Duration) (exchange : Exchange)
  | connect (target : Node) (limit : Duration) (exchange : Exchange)
  | handshake (address : String) (limit : Duration) (exchange : Exchange)
  | addListener (listener : ω)
  | removeListener (listener : ω)

namespace Event

variable {ω : Type}

/-- The node answered, as the one that it was taken for. -/
def Meets (n : Node) : Event ω → Prop
  | ping target _ exchange => target = n ∧ exchange.Succeeded
  | connect target _ exchange => target = n ∧ exchange.Found n
  | handshake _ _ exchange => exchange.Found n
  | addListener _ | removeListener _ => False

/-- The node was sought, and nobody or another was there. -/
def Loses (n : Node) : Event ω → Prop
  | ping target _ exchange => target = n ∧ exchange.Unreached
  | connect target _ exchange =>
    target = n ∧ (exchange.Unreached ∨ ∃ other, other ≠ n ∧ exchange.Found other)
  | handshake .. | addListener _ | removeListener _ => False

/-- Some event met a node, and none behind it lost the node. -/
def Connect (n : Node) (events : List (Event ω)) : Prop :=
  ∃ before e later, events = before ++ e :: later ∧ e.Meets n ∧ ∀ x ∈ later, ¬ x.Loses n

theorem not_connect_nil (n : Node) : ¬ Connect n ([] : List (Event ω)) := by
  rintro ⟨before, _, _, split, _⟩
  cases before <;> cases split

theorem connect_cons (e : Event ω) (events : List (Event ω)) (n : Node) :
    Connect n (e :: events) ↔
      Connect n events ∨ e.Meets n ∧ ∀ x ∈ events, ¬ x.Loses n := by
  constructor
  · rintro ⟨before, x, later, split, meets, unlost⟩
    cases before with
    | nil =>
      cases split
      exact .inr ⟨meets, unlost⟩
    | cons first before =>
      cases split
      exact .inl ⟨before, x, later, rfl, meets, unlost⟩
  · rintro (⟨before, x, later, rfl, meets, unlost⟩ | ⟨meets, unlost⟩)
    · exact ⟨e :: before, x, later, rfl, meets, unlost⟩
    · exact ⟨[], e, events, rfl, meets, unlost⟩

def isHandshake : Event ω → Bool
  | handshake .. => true
  | _ => false

def removes [DecidableEq ω] (listener : ω) : Event ω → Bool
  | removeListener other => other = listener
  | _ => false

/-- Who was added and not removed since, in the order of the additions. -/
def registered [DecidableEq ω] : List (Event ω) → List ω
  | [] => []
  | addListener listener :: rest =>
    if rest.any (·.removes listener) then registered rest else listener :: registered rest
  | _ :: rest => registered rest

end Event

variable {ω : Type} [DecidableEq ω]

/-- What an event comes to. -/
def step (c : Connections ω) : Event ω → Contact ω Unit
  | .ping target limit exchange => c.ping target limit exchange
  | .connect target limit exchange => c.connect target limit exchange
  | .handshake address limit exchange =>
    let contact := c.handshake address limit exchange
    { contact with result := contact.result.map fun _ => () }
  | .addListener listener => { connections := c.addListener listener, result := .ok () }
  | .removeListener listener => { connections := c.removeListener listener, result := .ok () }

def run (c : Connections ω) (events : List (Event ω)) : Connections ω :=
  events.foldl (fun c e => (c.step e).connections) c

end Connections

namespace Exchange

theorem isSuccess_iff (status : Nat) :
    Http.isSuccess status = true ↔ 200 ≤ status ∧ status < 300 := by
  simp [Http.isSuccess]

theorem unreached_iff {e : Exchange} : e.Unreached ↔ e.isUnreachable = true := by
  cases e <;> simp [Unreached, isUnreachable]

theorem bodyAs_eq_ok {α : Type} {read : Json → Read α} {letters : List Json.Letter} {a : α} :
    bodyAs read (.ok letters) = .ok a ↔ Json.readText read letters = .ok a := by
  simp only [bodyAs]
  cases Json.readText read letters <;> constructor <;> intro h <;> cases h <;> rfl

/-- A body that cannot be read says nothing about who is there. -/
theorem bodyAs_error {α : Type} {read : Json → Read α}
    {body : Except BodyFault (List Json.Letter)} {x : Exchange}
    (h : bodyAs read body = .error x) : x.isUnreachable = false := by
  cases body with
  | error fault => cases fault <;> cases h <;> rfl
  | ok letters =>
    simp only [bodyAs] at h
    generalize Json.readText read letters = result at h
    cases result <;> cases h
    rfl

theorem node_eq_ok {e : Exchange} {n : Node} : e.node = .ok n ↔ e.Found n := by
  cases e with
  | answered status body =>
    have failure : Http.isFailure status = true ↔ 400 ≤ status ∧ status < 600 := by
      simp [Http.isFailure]
    by_cases failed : Http.isFailure status = true
    · refine ⟨fun h => ?_, fun ⟨_, _, same, other, _⟩ => ?_⟩
      · simp [node, failed] at h
      · cases same
        exact absurd (failure.mp failed) other
    · simp only [node, failed, Bool.false_eq_true, if_false]
      cases body with
      | error fault => simp [bodyAs, Found]
      | ok letters =>
        rw [bodyAs_eq_ok]
        refine ⟨fun h => ⟨status, letters, rfl, mt failure.mpr failed, h⟩, ?_⟩
        rintro ⟨_, _, same, _, h⟩
        cases same
        exact h
  | _ => simp [node, Found]

theorem node_error {e x : Exchange} (h : e.node = .error x) :
    x.isUnreachable = e.isUnreachable := by
  cases e with
  | answered status body =>
    simp only [node] at h
    split at h
    · cases h
      rfl
    · exact bodyAs_error h
  | _ =>
    cases h
    rfl

/-- Only if nobody was there is the node reported as disconnected. -/
theorem error_disconnected (e : Exchange) (node : String) (limit : Duration) :
    (∃ message, e.error node limit = .disconnected node message) ↔ e.isUnreachable = true := by
  cases e <;> simp [error, isUnreachable]

end Exchange

namespace Connections

section exchanged

variable {ω α : Type} (c : Connections ω) (n : Node) (result : Except TransportError α)

theorem isConnected_iff : c.isConnected n = true ↔ n ∈ c.connected := by
  simp [isConnected]

theorem gain_eq : ∃ connected notices, (∀ m, m ∈ connected ↔ m = n ∨ m ∈ c.connected) ∧
    c.gain n result = { connections := { c with connected }, result, notices } := by
  by_cases known : n ∈ c.connected
  · refine ⟨c.connected, [], fun m => ⟨.inr, ?_⟩, by simp [gain, isConnected, known]⟩
    rintro (rfl | h)
    · exact known
    · exact h
  · exact ⟨n :: c.connected, [.connected n], fun m => List.mem_cons,
      by simp [gain, isConnected, known]⟩

theorem lose_known (known : n ∈ c.connected) :
    c.lose n result =
      { connections := { c with connected := c.connected.filter (· ≠ n) }, result
        told := c.listeners.map (·, n), notices := [.disconnected n] } := by
  simp [lose, isConnected, known]

theorem lose_unknown (unknown : n ∉ c.connected) :
    c.lose n result = { connections := c, result } := by
  simp [lose, isConnected, unknown]

end exchanged

variable {ω : Type} [DecidableEq ω]

/-- All that an event can come to. -/
inductive Outcome (c : Connections ω) (e : Event ω) : Contact ω Unit → Prop where
  | met (n : Node) (connected : List Node) (notices : List Notice) :
      (∀ m, e.Meets m ↔ m = n) → (∀ m, ¬ e.Loses m) →
      (∀ m, m ∈ connected ↔ m = n ∨ m ∈ c.connected) →
      Outcome c e { connections := { c with connected }, result := .ok (), notices }
  | lost (n : Node) (message : String) (notices : List Notice) : e.isHandshake = false →
      (∀ m, ¬ e.Meets m) → (∀ m, e.Loses m ↔ m = n) → n ∈ c.connected →
      Outcome c e
        { connections := { c with connected := c.connected.filter (· ≠ n) }
          result := .error (.disconnected n.text message), told := c.listeners.map (·, n), notices }
  | missed (n : Node) (message : String) (notices : List Notice) : e.isHandshake = false →
      (∀ m, ¬ e.Meets m) → (∀ m, e.Loses m ↔ m = n) → n ∉ c.connected →
      Outcome c e
        { connections := c, result := .error (.disconnected n.text message), notices }
  | failed (error : TransportError) :
      (∀ node message, error = .disconnected node message → e.isHandshake = true) →
      (∀ m, ¬ e.Meets m) → (∀ m, ¬ e.Loses m) →
      Outcome c e { connections := c, result := .error error }
  | joined (listener : ω) : e = .addListener listener →
      Outcome c e { connections := c.addListener listener, result := .ok () }
  | left (listener : ω) : e = .removeListener listener →
      Outcome c e { connections := c.removeListener listener, result := .ok () }

variable (c : Connections ω) {e : Event ω} {n : Node}

theorem lose_outcome (seeks : e.isHandshake = false) (unmet : ∀ m, ¬ e.Meets m)
    (loses : ∀ m, e.Loses m ↔ m = n) (message : String) (more : List Notice) :
    let contact : Contact ω Unit := c.lose n (.error (.disconnected n.text message))
    Outcome c e { contact with notices := more ++ contact.notices } := by
  intro contact
  by_cases known : n ∈ c.connected
  · simp only [contact, c.lose_known n _ known]
    exact .lost n message _ seeks unmet loses known
  · simp only [contact, c.lose_unknown n _ known]
    exact .missed n message _ seeks unmet loses known

/-- An exchange failed that was to reach a node. -/
theorem fail_outcome {x : Exchange} (limit : Duration) (seeks : e.isHandshake = false)
    (unmet : ∀ m, ¬ e.Meets m) (loses : ∀ m, e.Loses m ↔ n = m ∧ x.isUnreachable = true) :
    Outcome c e (c.fail n limit x) := by
  cases reached : x.isUnreachable with
  | true =>
    obtain ⟨message, error⟩ := (x.error_disconnected n.text limit).mpr reached
    simp only [fail, reached, error, if_true]
    refine c.lose_outcome seeks unmet (fun m => (loses m).trans ?_) message []
    exact ⟨fun h => h.1.symm, fun h => ⟨h.symm, reached⟩⟩
  | false =>
    simp only [fail, reached, Bool.false_eq_true, if_false]
    refine .failed _ (fun node message same => ?_) unmet fun m lost => ?_
    · cases x <;> cases same
      cases reached
    · rw [reached] at loses
      cases ((loses m).mp lost).2

theorem ping_outcome (target : Node) (limit : Duration) (x : Exchange) :
    Outcome c (.ping target limit x) (c.ping target limit x) := by
  have failing {y : Exchange} (unmet : ¬ x.Succeeded) (same : y.isUnreachable = x.isUnreachable) :
      Outcome c (.ping target limit x) (c.fail target limit y) := by
    refine c.fail_outcome limit rfl (fun m h => unmet h.2) fun m => and_congr_right' ?_
    rw [same]
    exact Exchange.unreached_iff
  cases x with
  | answered status body =>
    let e : Event ω := .ping target limit (.answered status body)
    have reached (m : Node) : ¬ e.Loses m := fun h => by cases Exchange.unreached_iff.mp h.2
    have met := Exchange.isSuccess_iff status
    by_cases success : Http.isSuccess status = true
    · obtain ⟨connected, notices, grown, gained⟩ := c.gain_eq target (.ok ())
      simp only [ping, success, if_true, gained]
      refine .met target connected notices (fun m => ?_) reached grown
      exact ⟨fun h => h.1.symm, fun h => ⟨h.symm, status, body, rfl, met.mp success⟩⟩
    · have unmet : ¬ (Exchange.answered status body).Succeeded := by
        rintro ⟨_, _, same, range⟩
        cases same
        exact success (met.mpr range)
      have failed (error : TransportError) (mild : ∀ n m, error ≠ .disconnected n m) :
          Outcome c (.ping target limit (.answered status body))
            { connections := c, result := .error error } :=
        .failed error (fun n m h => absurd h (mild n m)) (fun m h => unmet h.2) reached
      simp only [ping, success, Bool.false_eq_true, if_false]
      split
      · split
        · exact failed _ fun _ _ h => by cases h
        · next y unread => exact failing unmet (Exchange.bodyAs_error unread)
      · exact failed _ fun _ _ h => by cases h
  | _ => exact failing (fun ⟨_, _, h, _⟩ => by cases h) rfl

theorem connect_outcome (target : Node) (limit : Duration) (x : Exchange) :
    Outcome c (.connect target limit x) (c.connect target limit x) := by
  unfold connect
  split
  · next y missed =>
    have unfound (n : Node) : ¬ x.Found n := fun h => by
      rw [Exchange.node_eq_ok.mpr h] at missed
      cases missed
    refine c.fail_outcome limit rfl (fun m h => unfound m h.2) fun m => and_congr_right' ?_
    rw [Exchange.node_error missed, ← Exchange.unreached_iff]
    exact or_iff_left fun ⟨other, _, h⟩ => unfound other h
  · next found here =>
    have there : x.Found found := Exchange.node_eq_ok.mp here
    have only {n : Node} (h : x.Found n) : n = found :=
      Except.ok.inj ((Exchange.node_eq_ok.mpr h).symm.trans here)
    split
    · next same =>
      subst same
      obtain ⟨connected, notices, grown, gained⟩ := c.gain_eq found (.ok ())
      rw [gained]
      refine .met found connected notices (fun m => ⟨fun h => h.1.symm, ?_⟩) (fun m h => ?_) grown
      · rintro rfl
        exact ⟨rfl, there⟩
      · rcases h.2 with ⟨message, rfl⟩ | ⟨other, different, also⟩
        · cases here
        · exact different ((only also).trans h.1)
    · next different =>
      have loses (m : Node) : (Event.connect target limit x : Event ω).Loses m ↔ m = target := by
        refine ⟨fun h => h.1.symm, ?_⟩
        rintro rfl
        exact ⟨rfl, .inr ⟨found, different, there⟩⟩
      refine c.lose_outcome rfl (fun m h => ?_) loses _ [_]
      exact different ((only h.2).symm.trans h.1.symm)

theorem handshake_outcome (address : String) (limit : Duration) (x : Exchange) :
    Outcome c (.handshake address limit x) (c.step (.handshake address limit x)) := by
  simp only [step, handshake]
  split
  · next found here =>
    obtain ⟨connected, notices, grown, gained⟩ := c.gain_eq found (.ok found)
    rw [gained]
    refine .met found connected notices (fun m => ?_) (fun _ h => h) grown
    have told : x.Found m ↔ m = found := by
      rw [← Exchange.node_eq_ok, here]
      exact ⟨fun h => (Except.ok.inj h).symm, fun h => h ▸ rfl⟩
    exact told
  · next y missed =>
    refine .failed _ (fun _ _ _ => rfl) (fun m h => ?_) fun _ h => h
    have found : x.node = .ok m := Exchange.node_eq_ok.mpr h
    rw [missed] at found
    cases found

theorem step_outcome (e : Event ω) : Outcome c e (c.step e) := by
  cases e with
  | ping target limit x => exact c.ping_outcome target limit x
  | connect target limit x => exact c.connect_outcome target limit x
  | handshake address limit x => exact c.handshake_outcome address limit x
  | addListener listener => exact .joined listener rfl
  | removeListener listener => exact .left listener rfl

/-- An event connects whom it meets and disconnects whom it loses; all others stay as they are. -/
theorem isConnected_step (e : Event ω) (n : Node) :
    (c.step e).connections.isConnected n = true ↔
      e.Meets n ∨ c.isConnected n = true ∧ ¬ e.Loses n := by
  simp only [isConnected_iff]
  have h := c.step_outcome e
  generalize c.step e = contact at h ⊢
  cases h with
  | met m connected notices meets unlost grown => simp [grown, meets, unlost]
  | lost m message notices seeks unmet loses known => simp [unmet, loses]
  | missed m message notices seeks unmet loses unknown =>
    simp only [unmet, loses, false_or]
    exact ⟨fun h => ⟨h, fun same => unknown (same ▸ h)⟩, fun h => h.1⟩
  | failed error mild unmet unlost => simp [unmet, unlost]
  | joined listener added =>
    subst added
    simp [Event.Meets, Event.Loses, addListener]
  | left listener removed =>
    subst removed
    simp [Event.Meets, Event.Loses, removeListener]

/-- Whom the events do not decide about stays as he was. -/
theorem isConnected_run (events : List (Event ω)) (n : Node) :
    (c.run events).isConnected n = true ↔
      Event.Connect n events ∨ c.isConnected n = true ∧ ∀ x ∈ events, ¬ x.Loses n := by
  -- By induction from the front: what the first event leaves is the state before the others.
  induction events generalizing c with
  | nil => simp [run, Event.not_connect_nil]
  | cons e events ih =>
    have later := ih (c.step e).connections
    rw [isConnected_step] at later
    rw [Event.connect_cons, List.forall_mem_cons]
    refine later.trans ⟨?_, ?_⟩
    · rintro (h | ⟨h | ⟨was, kept⟩, unlost⟩)
      · exact .inl (.inl h)
      · exact .inl (.inr ⟨h, unlost⟩)
      · exact .inr ⟨was, kept, unlost⟩
    · rintro ((h | ⟨h, unlost⟩) | ⟨was, kept, unlost⟩)
      · exact .inl h
      · exact .inr ⟨.inl h, unlost⟩
      · exact .inr ⟨.inr ⟨was, kept⟩, unlost⟩

/-- An exchange leaves who listens alone. -/
theorem listeners_exchange {e : Event ω} (added : ∀ l, e ≠ .addListener l)
    (removed : ∀ l, e ≠ .removeListener l) :
    (c.step e).connections.listeners = c.listeners := by
  have h := c.step_outcome e
  generalize c.step e = contact at h
  cases h with
  | joined l same => exact absurd same (added l)
  | left l same => exact absurd same (removed l)
  | _ => rfl

/-- Who listened before goes on to listen unless removed, and ahead of all who were added. -/
theorem listeners_run (events : List (Event ω)) :
    (c.run events).listeners =
      c.listeners.filter (fun l => !events.any (·.removes l)) ++ Event.registered events := by
  induction events generalizing c with
  | nil =>
    have all : c.listeners.filter (fun _ => true) = c.listeners := List.filter_eq_self.mpr (by simp)
    simp [run, Event.registered, all]
  | cons e events ih =>
    refine (ih (c.step e).connections).trans ?_
    cases e with
    | addListener l =>
      have kept (l' : ω) : (Event.addListener l).removes l' = false := rfl
      simp only [step, addListener, List.filter_append, List.append_assoc, List.any_cons, kept,
        Bool.false_or, Event.registered]
      congr 1
      cases gone : events.any (·.removes l) <;> simp [gone]
    | removeListener l =>
      have dropped (l' : ω) : (Event.removeListener l).removes l' = decide (l = l') := rfl
      simp only [step, removeListener, List.filter_filter, List.any_cons, dropped, Event.registered]
      congr 2
      funext l'
      simp [Bool.and_comm, eq_comm]
    | _ =>
      rw [c.listeners_exchange (fun _ h => by cases h) (fun _ h => by cases h)]
      simp only [List.any_cons, Event.removes, Bool.false_or, Event.registered]

/-- After any exchanges, a node is connected to whom it met and did not lose since; and any further
event that fails without a loss changes nothing, one by which a node is lost tells everyone who
listens of it, once for each addition and in their order, and any other one tells nobody. -/
theorem connections_tracked (events : List (Event ω)) :
    let c := run {} events
    (∀ n, c.isConnected n = true ↔ Event.Connect n events) ∧
    ∀ e, let turn := c.step e
      (∀ error, turn.result = .error error →
        (∀ node message, error = .disconnected node message → e.isHandshake = true) →
        turn.connections = c ∧ turn.told = []) ∧
      (∀ n, c.isConnected n = true → turn.connections.isConnected n = false →
        turn.told = (Event.registered events).map (·, n)) ∧
      ((∀ n, c.isConnected n = true → turn.connections.isConnected n = true) →
        turn.told = []) := by
  intro c
  have tracked (n : Node) : c.isConnected n = true ↔ Event.Connect n events := by
    simpa [isConnected_iff] using isConnected_run {} events n
  have listening : c.listeners = Event.registered events := by
    simpa using listeners_run {} events
  refine ⟨tracked, fun e => ?_⟩
  rw [← listening]
  simp only [isConnected_iff, ← Bool.not_eq_true]
  have h := c.step_outcome e
  generalize c.step e = turn at h ⊢
  cases h with
  | met n connected notices meets unlost grown =>
    refine ⟨fun _ failed => (by cases failed), fun m was gone => ?_, fun _ => rfl⟩
    exact absurd ((grown m).mpr (.inr was)) gone
  | lost n message notices seeks unmet loses known =>
    refine ⟨fun _ failed mild => ?_, fun m was gone => ?_, fun kept => ?_⟩
    · cases failed
      exact absurd (mild _ _ rfl) (by simp [seeks])
    · have same : m = n := by simpa [was] using gone
      rw [same]
    · simpa using kept n known
  | missed | failed =>
    exact ⟨fun _ _ _ => ⟨rfl, rfl⟩, fun _ was gone => absurd was gone, fun _ => rfl⟩
  | joined | left =>
    exact ⟨fun _ failed => (by cases failed), fun _ was gone => absurd was gone, fun _ => rfl⟩

/-- A listener that was added twice is told twice, in its turn. -/
example :
    let n : Node := ⟨"a", "1", "http://a"⟩
    let met : Event Nat := .ping n ⟨0⟩ (.answered 200 (.ok []))
    let c := run {} [.addListener 1, met, .addListener 2, .addListener 1]
    (c.step (.ping n ⟨0⟩ (.unreachable "refused"))).told = [(1, n), (2, n), (1, n)] := by
  decide

end Connections

end Vigil
