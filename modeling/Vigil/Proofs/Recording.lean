import Mathlib.Data.Finset.Card
import Vigil.Discovery
import Vigil.Proofs.Outcome

/-!
What the answers of a round of discovery make of a cluster state, and of the detector in the end.
The nodes that answered under the ids they were asked for take the places under these ids, a later
one that of an earlier one, and every one that was no member when its turn came makes a new version.
-/

namespace Vigil

namespace Discovery

/-- The node that answered for a peer, if it did so under the peer's id. -/
def match? (x : PeerConfig × Except TransportError Node) : Option Node :=
  x.2.toOption.filter (·.id == x.1.id)

/-- All nodes that answered under the ids asked for, in the order in which the peers were asked. -/
def matching (found : List (PeerConfig × Except TransportError Node)) : List Node :=
  found.filterMap match?

/-- How many nodes are no members when their turn comes. -/
def strangers (s : ClusterState) : List Node → Nat
  | [] => 0
  | n :: rest => (if s.contains n then 0 else 1) + strangers (s.add n) rest

/-- What the answer of one peer makes of a state. -/
def recorded (s : ClusterState) (x : PeerConfig × Except TransportError Node) : ClusterState :=
  match findings x.1 s x.2 with
  | .new n => ((recordTask n).run s).state
  | _ => s

theorem add_ne {s : ClusterState} {n : Node} (absent : s.contains n = false) : s.add n ≠ s := by
  intro same
  have filed : (s.add n).nodes.get? n.id = some n := by
    rw [ClusterState.add, Members.get?_insert, if_pos rfl]
  rw [same] at filed
  simp [ClusterState.contains, filed] at absent

theorem record_run {s : ClusterState} {n : Node} (absent : s.contains n = false) :
    ((recordTask n).run s).state = { s.add n with version := s.version + 1 } ∧
      ((recordTask n).run s).result = .ok () := by
  have update : (recordTask n).update s = .ok (s.add n) := rfl
  have anywhere : (recordTask n).leaderOnly = false := rfl
  simp only [StateTask.run, anywhere, Bool.false_and, Bool.false_eq_true, if_false, update,
    if_neg (add_ne absent), and_self]

/-- A node takes its place as a new version, unless it is a member. -/
def take (s : ClusterState) (n : Node) : ClusterState :=
  if s.contains n then s else { s.add n with version := s.version + 1 }

theorem recorded_eq (s : ClusterState) (x : PeerConfig × Except TransportError Node) :
    recorded s x = (match? x).elim s (take s) := by
  obtain ⟨peer, answer⟩ := x
  cases answer with
  | error e => rfl
  | ok n =>
    by_cases named : n.id = peer.id
    · have found : match? (peer, .ok n) = some n := by simp [match?, Except.toOption, named]
      rw [found, Option.elim_some, take]
      cases member : s.contains n with
      | true => simp [recorded, findings, named, member]
      | false => simp [recorded, findings, named, member, (record_run member).1]
    · have none : match? (peer, .ok n) = none := by simp [match?, Except.toOption, named]
      rw [none, Option.elim_none]
      simp [recorded, findings, named]

/-- Whether nodes are members depends on nothing but the entries. -/
theorem strangers_congr {s t : ClusterState}
    (same : ∀ id, s.nodes.get? id = t.nodes.get? id) (ns : List Node) :
    strangers s ns = strangers t ns := by
  induction ns generalizing s t with
  | nil => rfl
  | cons n ns ih =>
    have rest : strangers (s.add n) ns = strangers (t.add n) ns := by
      refine ih fun id => ?_
      rw [ClusterState.add, ClusterState.add, Members.get?_insert, Members.get?_insert, same]
    rw [strangers, strangers, ClusterState.contains, ClusterState.contains, same, rest]

theorem get?_add (s : ClusterState) (n : Node) (id : String) :
    (s.add n).nodes.get? id = if id = n.id then some n else s.nodes.get? id :=
  Members.get?_insert ..

/-- From `s` to `s'` nodes were recorded, one after the other. -/
structure Records (s : ClusterState) (ns : List Node) (s' : ClusterState) : Prop where
  nodes : ∀ id, s'.nodes.get? id = ((ns.filter (·.id == id)).getLast?).or (s.nodes.get? id)
  version : s'.version = s.version + .ofNat (strangers s ns)
  localNode : s'.localNode = s.localNode
  leaderId : s'.leaderId = s.leaderId
  clusterName : s'.clusterName = s.clusterName

theorem Records.refl (s : ClusterState) : Records s [] s :=
  ⟨fun _ => rfl, (UInt64.add_zero _).symm, rfl, rfl, rfl⟩

theorem lookup_cons (n : Node) (ns : List Node) (id : String) (before : Option Node) :
    (((n :: ns).filter (·.id == id)).getLast?).or before =
      ((ns.filter (·.id == id)).getLast?).or (if id = n.id then some n else before) := by
  by_cases same : id = n.id
  · subst same
    rw [List.filter_cons_of_pos (by simp), List.getLast?_cons, if_pos rfl]
    cases (ns.filter (·.id == n.id)).getLast? <;> rfl
  · rw [List.filter_cons_of_neg (by simpa using fun h => same h.symm), if_neg same]

/-- A node that is a member already is recorded without a trace. -/
theorem Records.known {s s' : ClusterState} {ns : List Node} {n : Node}
    (member : s.contains n = true) (h : Records s ns s') : Records s (n :: ns) s' := by
  have filed : s.nodes.get? n.id = some n := by simpa [ClusterState.contains] using member
  have entries (id : String) : (s.add n).nodes.get? id = s.nodes.get? id := by
    rw [get?_add]
    split
    · next own => rw [own, filed]
    · rfl
  refine ⟨fun id => ?_, ?_, h.localNode, h.leaderId, h.clusterName⟩
  · rw [lookup_cons, ← get?_add, entries, h.nodes]
  · rw [strangers, member, if_pos rfl, Nat.zero_add, strangers_congr entries]
    exact h.version

theorem Records.new {s s' : ClusterState} {ns : List Node} {n : Node}
    (absent : s.contains n = false)
    (h : Records { s.add n with version := s.version + 1 } ns s') : Records s (n :: ns) s' := by
  refine ⟨fun id => ?_, ?_, h.localNode, h.leaderId, h.clusterName⟩
  · rw [lookup_cons, ← get?_add]
    exact h.nodes id
  · have rest : strangers { s.add n with version := s.version + 1 } ns = strangers (s.add n) ns := by
      apply strangers_congr
      intro id
      rfl
    rw [h.version, rest, strangers, absent, if_neg (by simp), UInt64.ofNat_add, ← UInt64.add_assoc]
    rfl

theorem foldl_recorded (s : ClusterState) (found : List (PeerConfig × Except TransportError Node)) :
    Records s (matching found) (found.foldl recorded s) := by
  induction found generalizing s with
  | nil => exact .refl s
  | cons x found ih =>
    have next := ih (recorded s x)
    rw [List.foldl_cons]
    cases named : match? x with
    | none =>
      rw [recorded_eq, named, Option.elim_none] at next ⊢
      rw [matching, List.filterMap_cons_none named]
      exact next
    | some n =>
      rw [recorded_eq, named, Option.elim_some] at next ⊢
      rw [matching, List.filterMap_cons_some named]
      cases member : s.contains n with
      | true =>
        rw [take, if_pos member] at next ⊢
        exact next.known member
      | false =>
        rw [take, if_neg (by simp [member])] at next ⊢
        exact next.new member

/-- What is recorded already changes nothing. -/
theorem foldl_recorded_known {s : ClusterState}
    {found : List (PeerConfig × Except TransportError Node)}
    (members : ∀ n ∈ matching found, s.contains n = true) : found.foldl recorded s = s := by
  induction found with
  | nil => rfl
  | cons x found ih =>
    have same : recorded s x = s := by
      rw [recorded_eq]
      cases named : match? x with
      | none => rfl
      | some n =>
        have member := members n (List.mem_filterMap.mpr ⟨x, List.mem_cons_self, named⟩)
        rw [Option.elim_some, take, if_pos member]
    rw [List.foldl_cons, same]
    refine ih fun n here => members n ?_
    obtain ⟨y, later, named⟩ := List.mem_filterMap.mp here
    exact List.mem_filterMap.mpr ⟨y, List.mem_cons_of_mem x later, named⟩

/-- Every entry is filed under its own id, if it was so before. -/
theorem Records.filed {s s' : ClusterState} {ns : List Node} (h : Records s ns s')
    (filed : ∀ id n, s.nodes.get? id = some n → n.id = id) :
    ∀ id n, s'.nodes.get? id = some n → n.id = id := by
  intro id n here
  rw [h.nodes] at here
  rcases Option.or_eq_some_iff.mp here with last | ⟨_, before⟩
  · exact eq_of_beq (List.mem_filter.mp (List.mem_of_getLast? last)).2
  · exact filed id n before

section agreeing

variable {ns : List Node} (agree : ∀ n ∈ ns, ∀ m ∈ ns, n.id = m.id → n = m)

include agree

/-- If no two nodes differ under one id, all of them are members in the end. -/
theorem Records.members {s s' : ClusterState} (h : Records s ns s') :
    ∀ n ∈ ns, s'.contains n = true := by
  intro n here
  have own : n ∈ ns.filter (·.id == n.id) := List.mem_filter.mpr ⟨here, by simp⟩
  cases last : (ns.filter (·.id == n.id)).getLast? with
  | none =>
    rw [List.getLast?_eq_none_iff.mp last] at own
    cases own
  | some m =>
    obtain ⟨there, same⟩ := List.mem_filter.mp (List.mem_of_getLast? last)
    obtain rfl := agree n here m there (eq_of_beq same).symm
    rw [ClusterState.contains, h.nodes, last]
    exact beq_self_eq_true _

/-- If no two nodes differ under one id, each that was no member before makes one version, in
whatever order they come. -/
theorem strangers_eq_card (s : ClusterState) :
    strangers s ns = (ns.toFinset.filter fun n => s.contains n = false).card := by
  induction ns generalizing s with
  | nil => rfl
  | cons n ns ih =>
    have rest := ih (fun n hn m hm => agree n (List.mem_cons_of_mem _ hn) m
      (List.mem_cons_of_mem _ hm)) (s.add n)
    have left : (ns.toFinset.filter fun m => (s.add n).contains m = false) =
        ((n :: ns).toFinset.filter fun m => s.contains m = false).erase n := by
      ext m
      rw [Finset.mem_erase, Finset.mem_filter, Finset.mem_filter]
      simp only [List.mem_toFinset, List.mem_cons, ClusterState.contains, get?_add]
      by_cases same : m = n
      · simp [same]
      · by_cases named : m.id = n.id
        · constructor
          · rintro ⟨here, _⟩
            exact absurd (agree m (List.mem_cons_of_mem _ here) n List.mem_cons_self named) same
          · rintro ⟨_, here | here, _⟩
            · exact absurd here same
            · exact absurd (agree m (List.mem_cons_of_mem _ here) n List.mem_cons_self named) same
        · simp [same, named]
    rw [strangers, rest, left]
    cases member : s.contains n with
    | true => rw [Finset.erase_eq_of_notMem (by simp [member]), if_pos rfl, Nat.zero_add]
    | false => rw [if_neg (by simp), Nat.add_comm, Finset.card_erase_add_one (by simp [member])]

end agreeing

section pointing

/-- What the end of a round makes of a detector. -/
def pointed {κ : Type} (s : ClusterState) (d : Detector κ) : Detector κ :=
  match adjustment s d.session.leader with
  | .none => d
  | .stop => (d.stop "local node is the leader").1
  | .restart leader => (d.restart leader "leader discovered").1

variable {κ : Type} {s : ClusterState} {d : Detector κ}

theorem restart_closed (shut : d.closed = true) (leader : Node) (reason : String) :
    (d.restart leader reason).1 = d := by
  simp only [Detector.restart, shut, if_true]

theorem restart_open (open' : d.closed = false) (leader : Node) (reason : String) :
    (d.restart leader reason).1.session.leader = some leader := by
  simp [Detector.restart, open', Detector.startSession, Detector.startPinger]

/-- A node that leads watches nobody, one that knows its leader watches that, unless it does not
watch any more, and no other node changes whom it watches. -/
structure Pointed (s : ClusterState) (d d' : Detector κ) : Prop where
  leads : s.isLeader = true →
    d'.session.leader = none ∧ (d.session.leader = none → d' = d)
  follows : ∀ leader, s.isLeader = false → s.leader? = some leader →
    (d.session.leader = some leader → d' = d) ∧
      (d.session.leader ≠ some leader → d' = (d.restart leader "leader discovered").1) ∧
      (d.closed = false → d'.session.leader = some leader)
  unknown : s.isLeader = false → s.leader? = none → d' = d

theorem pointed_pointed (s : ClusterState) (d : Detector κ) : Pointed s d (pointed s d) := by
  constructor
  case leads =>
    intro leads
    cases watched : d.session.leader with
    | none =>
      have same : pointed s d = d := by simp [pointed, adjustment, leads, watched]
      rw [same]
      exact ⟨watched, fun _ => rfl⟩
    | some n =>
      have stopped : pointed s d = d.endSession := by
        simp [pointed, adjustment, leads, watched, Detector.stop]
      rw [stopped]
      exact ⟨by simp [Detector.endSession_eq], fun none => by cases none⟩
  case follows =>
    intro leader follows known
    by_cases watched : d.session.leader = some leader
    · have same : pointed s d = d := by simp [pointed, adjustment, follows, known, watched]
      rw [same]
      exact ⟨fun _ => rfl, fun other => absurd watched other, fun _ => watched⟩
    · have restarted : pointed s d = (d.restart leader "leader discovered").1 := by
        simp [pointed, adjustment, follows, known, watched]
      rw [restarted]
      exact ⟨fun same => absurd same watched, fun _ => rfl, fun open' => restart_open open' _ _⟩
  case unknown =>
    intro follows unknown
    simp [pointed, adjustment, follows, unknown]

/-- A detector that is pointed at its leader stays so. -/
theorem Pointed.again {d' : Detector κ} (h : Pointed s d d') : pointed s d' = d' := by
  have h' := pointed_pointed s d'
  cases leads : s.isLeader with
  | true => exact (h'.leads leads).2 (h.leads leads).1
  | false =>
    cases known : s.leader? with
    | none => exact h'.unknown leads known
    | some leader =>
      obtain ⟨kept, restarts, watches⟩ := h.follows leader leads known
      obtain ⟨kept', restarts', _⟩ := h'.follows leader leads known
      by_cases watched : d.session.leader = some leader
      · rw [kept watched] at kept' ⊢
        exact kept' watched
      · cases shut : d.closed with
        | false => exact kept' (watches shut)
        | true =>
          rw [restart_closed shut] at restarts
          rw [restarts watched] at restarts' ⊢
          rw [restarts' watched, restart_closed shut]

/-- Nobody is watched anew that has the id of the local node. -/
theorem Pointed.local_unwatched {d' : Detector κ} (h : Pointed s d d')
    (filed : ∀ id n, s.nodes.get? id = some n → n.id = id) {n : Node}
    (watched : d'.session.leader = some n) :
    d.session.leader = some n ∨ n.id ≠ s.localNode.id := by
  cases leads : s.isLeader with
  | true =>
    rw [(h.leads leads).1] at watched
    cases watched
  | false =>
    cases known : s.leader? with
    | none =>
      rw [h.unknown leads known] at watched
      exact .inl watched
    | some leader =>
      obtain ⟨kept, restarts, _⟩ := h.follows leader leads known
      by_cases before : d.session.leader = some leader
      · rw [kept before] at watched
        exact .inl watched
      · rw [restarts before] at watched
        cases shut : d.closed with
        | true =>
          rw [restart_closed shut] at watched
          exact .inl watched
        | false =>
          rw [restart_open shut] at watched
          obtain rfl := Option.some.inj watched
          obtain ⟨id, lead, here⟩ := Option.bind_eq_some_iff.mp known
          refine .inr fun own => ?_
          rw [filed id leader here] at own
          simp [ClusterState.isLeader, lead, own] at leads

end pointing

end Discovery

end Vigil
