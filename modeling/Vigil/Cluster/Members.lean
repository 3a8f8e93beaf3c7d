import Vigil.Node

/-!
The membership of a cluster: nodes filed under ids, in increasing order of id. `get?_insert` and
`get?_erase` say what each operation does to the look-up.
-/

namespace Vigil

/-- A map from ids to nodes, as the list of its entries in increasing order of id. -/
structure Members where
  entries : List (String × Node)
  sorted : entries.Pairwise (·.1 < ·.1) := by simp
deriving DecidableEq

namespace Members

def insertEntry (id : String) (n : Node) : List (String × Node) → List (String × Node)
  | [] => [(id, n)]
  | (k, m) :: rest =>
    if id < k then (id, n) :: (k, m) :: rest
    else if id = k then (id, n) :: rest
    else (k, m) :: insertEntry id n rest

theorem mem_insertEntry {id : String} {n : Node} {es : List (String × Node)} {e : String × Node}
    (h : e ∈ insertEntry id n es) : e = (id, n) ∨ e ∈ es := by
  induction es with
  | nil => simp_all [insertEntry]
  | cons a rest ih => grind [insertEntry]

theorem lt_of_not_lt_of_ne {a b : String} (h : ¬a < b) (hne : a ≠ b) : b < a :=
  Std.lt_of_le_of_ne (Std.not_lt.1 h) (Ne.symm hne)

theorem insertEntry_sorted (id : String) (n : Node) {es : List (String × Node)}
    (h : es.Pairwise (·.1 < ·.1)) : (insertEntry id n es).Pairwise (·.1 < ·.1) := by
  induction es with
  | nil => simp [insertEntry]
  | cons e rest ih =>
    obtain ⟨head, tail⟩ := List.pairwise_cons.1 h
    unfold insertEntry
    split
    · next hlt =>
      refine List.pairwise_cons.2 ⟨fun x hx => ?_, h⟩
      rcases List.mem_cons.1 hx with rfl | hx
      · exact hlt
      · exact Std.lt_trans hlt (head x hx)
    · split
      · next heq => exact List.pairwise_cons.2 ⟨heq ▸ head, tail⟩
      · next hlt hne =>
        refine List.pairwise_cons.2 ⟨fun x hx => ?_, ih tail⟩
        rcases mem_insertEntry hx with rfl | hx
        · exact lt_of_not_lt_of_ne hlt hne
        · exact head x hx

/-- The membership of one node. -/
def singleton (n : Node) : Members where
  entries := [(n.id, n)]

/-- Files a node under its own id, in place of any other incarnation. -/
def insert (m : Members) (n : Node) : Members where
  entries := insertEntry n.id n m.entries
  sorted := insertEntry_sorted n.id n m.sorted

def erase (m : Members) (id : String) : Members where
  entries := m.entries.filter (·.1 != id)
  sorted := m.sorted.filter _

def get? (m : Members) (id : String) : Option Node :=
  m.entries.lookup id

theorem lookup_insertEntry (id key : String) (n : Node) (es : List (String × Node)) :
    (insertEntry id n es).lookup key = if key = id then some n else es.lookup key := by
  induction es with
  | nil => grind [insertEntry]
  | cons e rest ih => grind [insertEntry]

theorem lookup_filter_ne (id key : String) (es : List (String × Node)) :
    (es.filter (·.1 != id)).lookup key = if key = id then none else es.lookup key := by
  induction es with
  | nil => simp
  | cons e rest ih => grind

theorem get?_singleton (n : Node) (key : String) :
    (singleton n).get? key = if key = n.id then some n else none := by
  grind [singleton, get?]

theorem get?_insert (m : Members) (n : Node) (key : String) :
    (m.insert n).get? key = if key = n.id then some n else m.get? key :=
  lookup_insertEntry n.id key n m.entries

theorem get?_erase (m : Members) (id key : String) :
    (m.erase id).get? key = if key = id then none else m.get? key :=
  lookup_filter_ne id key m.entries

end Members

end Vigil
