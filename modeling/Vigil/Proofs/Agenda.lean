import Vigil.Agenda

/-!
The order that an agenda keeps: what waits for an earlier moment stands before. Nothing that is done
to an agenda looks at the work on it.
-/

namespace Vigil.Agenda

variable {α β : Type}

/-- No work waits for a moment that is over, and what waits for an earlier one stands before. -/
structure Ordered (a : Agenda α) : Prop where
  unpassed : ∀ x ∈ a.timers, a.now ≤ x.1
  sorted : a.timers.Pairwise (·.1 ≤ ·.1)

theorem insertTimer_perm (due : Nat) (x : α) (timers : List (Nat × α)) :
    (insertTimer due x timers).Perm ((due, x) :: timers) := by
  induction timers with
  | nil => exact .refl _
  | cons y timers ih =>
    rw [insertTimer]
    split
    · exact .refl _
    · exact (ih.cons y).trans (.swap ..)

theorem mem_insertTimer {due : Nat} {x : α} {timers : List (Nat × α)} {y : Nat × α} :
    y ∈ insertTimer due x timers ↔ y = (due, x) ∨ y ∈ timers := by
  rw [(insertTimer_perm due x timers).mem_iff, List.mem_cons]

theorem insertTimer_sorted {timers : List (Nat × α)} (sorted : timers.Pairwise (·.1 ≤ ·.1))
    (due : Nat) (x : α) : (insertTimer due x timers).Pairwise (·.1 ≤ ·.1) := by
  induction timers with
  | nil => exact List.pairwise_singleton ..
  | cons y timers ih =>
    obtain ⟨first, rest⟩ := List.pairwise_cons.mp sorted
    rw [insertTimer]
    split
    · next earlier =>
      refine List.pairwise_cons.mpr ⟨fun z hz => ?_, sorted⟩
      rcases List.mem_cons.mp hz with rfl | later
      · exact Nat.le_of_lt earlier
      · exact Nat.le_trans (Nat.le_of_lt earlier) (first z later)
    · next later =>
      refine List.pairwise_cons.mpr ⟨fun z hz => ?_, ih rest⟩
      rcases mem_insertTimer.mp hz with rfl | old
      · exact Nat.le_of_not_lt later
      · exact first z old

theorem Ordered.wait {a : Agenda α} (o : a.Ordered) (time : Nat) (x : α) :
    (a.wait time x).Ordered where
  unpassed y hy := by
    rcases List.mem_cons.mp ((insertTimer_perm _ x a.timers).mem_iff.mp hy) with rfl | old
    · exact Nat.le_add_right ..
    · exact o.unpassed y old
  sorted := insertTimer_sorted o.sorted _ x

/-- What waits behind the first does so for no earlier moment. -/
theorem Ordered.first {a : Agenda α} (o : a.Ordered) {due : Nat} {x : α} {rest : List (Nat × α)}
    (split : a.timers = (due, x) :: rest) : ∀ y ∈ a.timers, due ≤ y.1 := by
  have sorted := o.sorted
  rw [split] at sorted ⊢
  intro y hy
  rcases List.mem_cons.mp hy with rfl | later
  · exact Nat.le_refl _
  · exact (List.pairwise_cons.mp sorted).1 y later

/-- Where the clock moves to a moment, the work that waits is parted: what waits for a moment that
is reached becomes ready, the first among it, and all other work waits on. -/
theorem wake_parts {a awake : Agenda α} {limit : Nat} (wakes : a.wake limit = some awake) :
    ∃ first early, a.timers.head? = some first ∧ first ∈ early ∧ first.1 ≤ limit ∧
      awake.now = max a.now first.1 ∧ awake.ready = a.ready ++ early.map (·.2) ∧
      (early ++ awake.timers).Perm a.timers ∧ awake.timers.Sublist a.timers ∧
      (∀ x ∈ early, x.1 ≤ awake.now) ∧ ∀ x ∈ awake.timers, awake.now < x.1 := by
  obtain ⟨now, ready, timers⟩ := a
  cases timers with
  | nil => cases wakes
  | cons first timers =>
    simp only [wake] at wakes
    split at wakes
    · cases wakes
    · next within =>
      cases wakes
      refine ⟨first, _, rfl, ?_, Nat.le_of_not_lt within, rfl, rfl, ?_, List.filter_sublist, ?_, ?_⟩
      · exact List.mem_filter.mpr ⟨List.mem_cons_self, decide_eq_true (Nat.le_max_right ..)⟩
      · simp only [decide_not]
        exact List.filter_append_perm ..
      · exact fun x mem => of_decide_eq_true (List.mem_filter.mp mem).2
      · exact fun x mem => Nat.lt_of_not_le (of_decide_eq_true (List.mem_filter.mp mem).2)

/-- Where the clock does not move, all that waits does so for a later moment than the limit. -/
theorem wake_none {a : Agenda α} {limit : Nat} (sorted : a.timers.Pairwise (·.1 ≤ ·.1))
    (rests : a.wake limit = none) : ∀ x ∈ a.timers, limit < x.1 := by
  obtain ⟨now, ready, timers⟩ := a
  cases timers with
  | nil => exact nofun
  | cons first timers =>
    simp only [wake] at rests
    split at rests
    · next beyond =>
      obtain ⟨least, -⟩ := List.pairwise_cons.mp sorted
      exact List.forall_mem_cons.mpr ⟨beyond, fun x mem => Nat.lt_of_lt_of_le beyond (least x mem)⟩
    · cases rests

/-- The agenda with other work in the same places. -/
def map (f : α → β) (a : Agenda α) : Agenda β where
  now := a.now
  ready := a.ready.map f
  timers := a.timers.map fun x => (x.1, f x.2)

section map

variable (f : α → β) (a : Agenda α)

theorem map_push (x : α) : (a.push x).map f = (a.map f).push (f x) := by
  simp [push, map]

theorem map_insertTimer (due : Nat) (x : α) (timers : List (Nat × α)) :
    (insertTimer due x timers).map (fun x => (x.1, f x.2)) =
      insertTimer due (f x) (timers.map fun x => (x.1, f x.2)) := by
  induction timers with
  | nil => rfl
  | cons y timers ih =>
    rw [insertTimer, List.map_cons, insertTimer]
    split
    · rfl
    · rw [List.map_cons, ih]

theorem map_wait (time : Nat) (x : α) : (a.wait time x).map f = (a.map f).wait time (f x) := by
  simp only [wait, map, map_insertTimer]

theorem map_pop : (a.map f).pop = a.pop.map fun (x, rest) => (f x, rest.map f) := by
  obtain ⟨now, ready, timers⟩ := a
  cases ready <;> rfl

theorem map_wake (limit : Nat) : (a.map f).wake limit = (a.wake limit).map (map f) := by
  obtain ⟨now, ready, timers⟩ := a
  cases timers with
  | nil => rfl
  | cons first timers =>
    simp only [map, wake, List.map_cons]
    split
    · rfl
    · rw [← List.map_cons (f := fun x : Nat × α => (x.1, f x.2)), List.filter_map, List.filter_map,
        List.map_map, Option.map_some, map, List.map_append, List.map_map]
      rfl

end map

end Vigil.Agenda
