import Mathlib.Data.List.Induction
import Vigil.Cluster.State

/-!
Cluster states as maps from ids to nodes. Whatever is added and removed, the last change that took
effect on an id decides which incarnation is filed there; changes to different ids do not see each
other, and the local node keeps its place.
-/

namespace Vigil

namespace Members

theorem lookup_below {id : String} {es : List (String × Node)} (below : ∀ e ∈ es, id < e.1) :
    es.lookup id = none := by
  rw [List.lookup_eq_none_iff]
  exact fun e he => by simpa using Std.ne_of_lt (below e he)

/-- The first entry has the least id, so the ids of two first entries are the same. -/
theorem not_lt_first {e e' : String × Node} {rest rest' : List (String × Node)}
    (sorted' : (e' :: rest').Pairwise (·.1 < ·.1))
    (same : (e :: rest).lookup e.1 = (e' :: rest').lookup e.1) : ¬ e.1 < e'.1 := by
  intro less
  have head' := (List.pairwise_cons.mp sorted').1
  have below : ∀ x ∈ e' :: rest', e.1 < x.1 :=
    List.forall_mem_cons.mpr ⟨less, fun x hx => Std.lt_trans less (head' x hx)⟩
  rw [lookup_below below, List.lookup_cons_self] at same
  cases same

/-- Entries in increasing order are known by what they file under every id. -/
theorem entries_ext {es es' : List (String × Node)} (sorted : es.Pairwise (·.1 < ·.1))
    (sorted' : es'.Pairwise (·.1 < ·.1)) (same : ∀ id, es.lookup id = es'.lookup id) :
    es = es' := by
  induction es generalizing es' with
  | nil =>
    cases es' with
    | nil => rfl
    | cons e' rest' => simpa using (same e'.1).symm
  | cons e rest ih =>
    cases es' with
    | nil => simpa using same e.1
    | cons e' rest' =>
      have key : e.1 = e'.1 :=
        Std.le_antisymm (Std.not_lt.mp (not_lt_first sorted (same e'.1).symm))
          (Std.not_lt.mp (not_lt_first sorted' (same e.1)))
      obtain ⟨head, tail⟩ := List.pairwise_cons.mp sorted
      obtain ⟨head', tail'⟩ := List.pairwise_cons.mp sorted'
      have value : e.2 = e'.2 := by
        have here := same e.1
        rw [List.lookup_cons_self, key, List.lookup_cons_self] at here
        exact Option.some.inj here
      have others (id : String) : rest.lookup id = rest'.lookup id := by
        by_cases first : id = e.1
        · rw [first, lookup_below head, key, lookup_below head']
        · have here := same id
          rwa [List.lookup_cons, List.lookup_cons, ← key, beq_false_of_ne first] at here
      rw [Prod.ext key value, ih tail tail' others]

/-- Each id has one entry, so an entry is what its id is looked up as. -/
theorem get?_of_mem {m : Members} {e : String × Node} (mem : e ∈ m.entries) :
    m.get? e.1 = some e.2 := by
  obtain ⟨es, sorted⟩ := m
  change es.lookup e.1 = some e.2
  induction es with
  | nil => cases mem
  | cons first rest ih =>
    obtain ⟨head, tail⟩ := List.pairwise_cons.mp sorted
    rcases List.mem_cons.mp mem with rfl | later
    · exact List.lookup_cons_self
    · rw [List.lookup_cons, beq_false_of_ne (Std.ne_of_lt (head e later)).symm]
      exact ih tail later

theorem ext_get? {m m' : Members} (same : ∀ id, m.get? id = m'.get? id) : m = m' := by
  obtain ⟨es, sorted⟩ := m
  obtain ⟨es', sorted'⟩ := m'
  obtain rfl := entries_ext sorted sorted' same
  rfl

end Members

namespace ClusterState

/-- What can be done to a state. -/
inductive Change where
  | add (n : Node)
  | remove (id : String)
  | lead (id : Option String)

namespace Change

def apply : Change → ClusterState → ClusterState
  | add n, s => s.add n
  | remove id, s => s.remove id
  | lead id, s => s.withLeader id

/-- The id that a change files a node under or takes one from; the choice of a leader has none. -/
def subject : Change → Option String
  | add n => some n.id
  | remove id => some id
  | lead _ => none

/-- The leader id that is chosen, if one is. -/
def chosen? : Change → Option (Option String)
  | lead id => some id
  | _ => none

/-- Whether a change takes effect on the entry of an id. The local node is never taken away. -/
def TakesEffect (localId id : String) : Change → Prop
  | add n => n.id = id
  | remove removed => removed = id ∧ removed ≠ localId
  | lead _ => False

end Change

/-- The state of a node that starts alone, after some changes. -/
def after (cluster : ClusterName) (localNode : Node) (changes : List Change) : ClusterState :=
  changes.foldl (fun s c => c.apply s) (initial cluster localNode)

/-- Changes of which the last one that took effect on the id of a node was its addition. -/
def LastAdded (localId : String) (n : Node) (changes : List Change) : Prop :=
  ∃ before later, changes = before ++ .add n :: later ∧
    ∀ c ∈ later, ¬ c.TakesEffect localId n.id

section LastAdded

variable {localId : String} {n : Node}

theorem lastAdded_start {localNode : Node} :
    LastAdded localId n [.add localNode] ↔ localNode = n := by
  constructor
  · rintro ⟨before, later, same, -⟩
    cases before with
    | nil => exact Change.add.inj (List.cons.inj same).1
    | cons c before => simp at same
  · rintro rfl
    exact ⟨[], [], rfl, nofun⟩

theorem lastAdded_concat {changes : List Change} (c : Change) :
    LastAdded localId n (changes ++ [c]) ↔
      c = .add n ∨ ¬ c.TakesEffect localId n.id ∧ LastAdded localId n changes := by
  constructor
  · rintro ⟨before, later, same, idle⟩
    rcases List.eq_nil_or_concat later with rfl | ⟨later, d, rfl⟩
    · exact .inl (List.append_inj' same rfl |>.2 |> List.singleton_inj.mp)
    · rw [List.concat_eq_append, ← List.cons_append, ← List.append_assoc] at same
      obtain ⟨rfl, last⟩ := List.append_inj' same rfl
      obtain rfl := List.singleton_inj.mp last
      exact .inr ⟨idle c (by simp), before, later, rfl, fun d hd => idle d (by simp [hd])⟩
  · rintro (rfl | ⟨idle, before, later, rfl, others⟩)
    · exact ⟨changes, [], rfl, nofun⟩
    · refine ⟨before, later ++ [c], by simp, fun d hd => ?_⟩
      rcases List.mem_append.mp hd with hd | hd
      · exact others d hd
      · exact List.mem_singleton.mp hd ▸ idle

end LastAdded

section apply

variable (s : ClusterState)

/-- A change leaves all that it is not about: the local node, the name of the cluster, the version,
and the entries of other ids. -/
theorem apply_spares (c : Change) :
    (c.apply s).localNode = s.localNode ∧ (c.apply s).clusterName = s.clusterName ∧
      (c.apply s).version = s.version ∧
      ∀ id, c.subject ≠ some id → (c.apply s).nodes.get? id = s.nodes.get? id := by
  cases c with
  | add n =>
    refine ⟨rfl, rfl, rfl, fun id other => ?_⟩
    have other : id ≠ n.id := fun same => other (congrArg some same.symm)
    exact (s.nodes.get?_insert n id).trans (if_neg other)
  | remove removed =>
    simp only [Change.apply, remove]
    split
    · exact ⟨rfl, rfl, rfl, fun _ _ => rfl⟩
    · refine ⟨rfl, rfl, rfl, fun id other => ?_⟩
      have other : id ≠ removed := fun same => other (congrArg some same.symm)
      exact (s.nodes.get?_erase removed id).trans (if_neg other)
  | lead id => exact ⟨rfl, rfl, rfl, fun _ _ => rfl⟩

/-- What a change makes of the entry of an id. -/
theorem get?_apply (c : Change) (id : String) :
    (c.apply s).nodes.get? id =
      match c with
      | .add n => if id = n.id then some n else s.nodes.get? id
      | .remove removed =>
        if id = removed ∧ removed ≠ s.localNode.id then none else s.nodes.get? id
      | .lead _ => s.nodes.get? id := by
  cases c with
  | add n => exact s.nodes.get?_insert n id
  | remove removed =>
    by_cases own : removed = s.localNode.id
    · simp [Change.apply, remove, own]
    · simp [Change.apply, remove, own, Members.get?_erase]
  | lead id => rfl

theorem leaderId_apply (c : Change) :
    (c.apply s).leaderId = match c with | .lead id => id | _ => s.leaderId := by
  cases c with
  | remove removed => simp only [Change.apply, remove]; split <;> rfl
  | _ => rfl

theorem ext_get? {s t : ClusterState} (cluster : s.clusterName = t.clusterName)
    (version : s.version = t.version) (localNode : s.localNode = t.localNode)
    (leader : s.leaderId = t.leaderId) (nodes : ∀ id, s.nodes.get? id = t.nodes.get? id) :
    s = t := by
  obtain ⟨_, _, _, _, _⟩ := s
  obtain ⟨_, _, _, _, _⟩ := t
  obtain rfl := Members.ext_get? nodes
  cases cluster
  cases version
  cases localNode
  cases leader
  rfl

/-- Changes to different ids, and a change to an entry and the choice of a leader, can be made in
either order. -/
theorem apply_comm {c d : Change} (apart : c.subject ≠ d.subject) :
    d.apply (c.apply s) = c.apply (d.apply s) := by
  obtain ⟨localC, clusterC, versionC, -⟩ := s.apply_spares c
  obtain ⟨localD, clusterD, versionD, -⟩ := s.apply_spares d
  obtain ⟨localCD, clusterCD, versionCD, -⟩ := (c.apply s).apply_spares d
  obtain ⟨localDC, clusterDC, versionDC, -⟩ := (d.apply s).apply_spares c
  apply ext_get?
  · rw [clusterCD, clusterC, clusterDC, clusterD]
  · rw [versionCD, versionC, versionDC, versionD]
  · rw [localCD, localC, localDC, localD]
  · simp only [leaderId_apply]
    cases c <;> cases d <;> first | rfl | exact absurd rfl apart
  · intro id
    simp only [get?_apply, localC, localD]
    cases c <;> cases d <;> grind [Change.subject]

end apply

section after

variable (cluster : ClusterName) (localNode : Node)

theorem after_concat (changes : List Change) (c : Change) :
    after cluster localNode (changes ++ [c]) = c.apply (after cluster localNode changes) := by
  rw [after, List.foldl_append]
  rfl

/-- What no change touches. -/
theorem after_spares (changes : List Change) :
    (after cluster localNode changes).localNode = localNode ∧
      (after cluster localNode changes).clusterName = cluster ∧
      (after cluster localNode changes).version = 0 := by
  induction changes using List.reverseRecOn with
  | nil => exact ⟨rfl, rfl, rfl⟩
  | append_singleton changes c ih =>
    obtain ⟨here, named, version, -⟩ := (after cluster localNode changes).apply_spares c
    rw [after_concat, here, named, version]
    exact ih

/-- A node is filed under an id if it has that id and its addition is what took effect there
last. -/
theorem get?_after (changes : List Change) (id : String) (n : Node) :
    (after cluster localNode changes).nodes.get? id = some n ↔
      n.id = id ∧ LastAdded localNode.id n (.add localNode :: changes) := by
  induction changes using List.reverseRecOn with
  | nil =>
    change (Members.singleton localNode).get? id = some n ↔ _
    rw [Members.get?_singleton, lastAdded_start]
    grind
  | append_singleton changes c ih =>
    rw [← List.cons_append, lastAdded_concat, after_concat, get?_apply,
      (after_spares cluster localNode changes).1]
    cases c with
    | add m => grind [Change.TakesEffect]
    | remove removed => grind [Change.TakesEffect]
    | lead leader => simpa [Change.TakesEffect] using ih

/-- The leader id is the one that was chosen last. -/
theorem leaderId_after (changes : List Change) :
    (after cluster localNode changes).leaderId =
      (changes.filterMap Change.chosen?).getLast?.join := by
  induction changes using List.reverseRecOn with
  | nil => rfl
  | append_singleton changes c ih =>
    rw [after_concat, leaderId_apply, List.filterMap_append]
    cases c with
    | lead id => simp [Change.chosen?]
    | add m => simpa [Change.chosen?] using ih
    | remove removed => simpa [Change.chosen?] using ih

theorem local_filed (changes : List Change) :
    ∃ n, (after cluster localNode changes).nodes.get? localNode.id = some n := by
  induction changes using List.reverseRecOn with
  | nil => exact ⟨localNode, by simp [after, initial, Members.get?_singleton]⟩
  | append_singleton changes c ih =>
    rw [after_concat, get?_apply, (after_spares cluster localNode changes).1]
    cases c <;> grind

/-- After any changes every entry is filed under its own id, and the local id has one, which can not
be removed; a node is a member if its addition is what took effect on its id last, the start of the
local node being the first addition; changes to different ids can be made in either order, and each
leaves all but its own entry; and the leader is the member that is filed under the id that was
chosen last. -/
theorem last_writer_wins (changes : List Change) :
    let s := after cluster localNode changes
    (∀ e ∈ s.nodes.entries, e.2.id = e.1) ∧
      (∃ n, s.nodes.get? localNode.id = some n) ∧
      s.remove localNode.id = s ∧
      (∀ n, s.contains n = true ↔ LastAdded localNode.id n (.add localNode :: changes)) ∧
      (∀ c d : Change, c.subject ≠ d.subject → d.apply (c.apply s) = c.apply (d.apply s)) ∧
      (s.localNode = localNode ∧ s.clusterName = cluster ∧ s.version = 0) ∧
      (∀ c : Change, (c.apply s).localNode = s.localNode ∧
        (c.apply s).clusterName = s.clusterName ∧ (c.apply s).version = s.version ∧
        ∀ id, c.subject ≠ some id → (c.apply s).nodes.get? id = s.nodes.get? id) ∧
      (∀ n, s.leader? = some n ↔ s.leaderId = some n.id ∧ s.contains n = true) ∧
      s.leaderId = (changes.filterMap Change.chosen?).getLast?.join := by
  intro s
  obtain ⟨here, named, version⟩ := after_spares cluster localNode changes
  have filed (id : String) (n : Node) (found : s.nodes.get? id = some n) : n.id = id :=
    ((get?_after cluster localNode changes id n).mp found).1
  refine ⟨fun e mem => filed e.1 e.2 (Members.get?_of_mem mem), local_filed .., ?_, fun n => ?_,
    fun c d => s.apply_comm, ⟨here, named, version⟩, s.apply_spares, fun n => ?_,
    leaderId_after cluster localNode changes⟩
  · exact if_pos (congrArg Node.id here.symm)
  · rw [contains, beq_iff_eq, get?_after]
    exact and_iff_right rfl
  · rw [leader?, contains, beq_iff_eq, Option.bind_eq_some_iff]
    constructor
    · rintro ⟨id, leads, found⟩
      obtain rfl := filed id n found
      exact ⟨leads, found⟩
    · rintro ⟨leads, found⟩
      exact ⟨n.id, leads, found⟩

end after

/-- A restart of a member takes the place of its former incarnation, and no removal of the local id
takes effect. -/
example :
    let a : Node := ⟨"a", "1", "http://a"⟩
    let b : Node := ⟨"b", "1", "http://b"⟩
    let b' : Node := ⟨"b", "2", "http://b"⟩
    let s := after "c" a [.add b, .lead (some "b"), .remove "a", .add b']
    s.contains a = true ∧ s.contains b = false ∧ s.leader? = some b' := by
  decide

end ClusterState

end Vigil
