import Mathlib.Data.List.Nodup
import Mathlib.Data.List.Pairwise
import Vigil.Record

/-!
What a record is read as, told without the order of its members: each field looks only at the values
under its own key, and what they make of the record does not depend on which field comes first.
Members under other keys count for nothing, as long as their text is complete.
-/

namespace Vigil

theorem Read.eq_ok_iff {α : Type} {r : Read α} {a : α} : r = .ok a ↔ r.toOption = some a := by
  cases r <;> simp [Except.toOption]

theorem Read.wrong_toOption {α : Type} (e : ShapeError) : (Read.wrong e : Read α).toOption = none :=
  rfl

variable {ν σ : Type}

/-- What the members hold under a key, in their order. -/
def under (key : String) (members : List (Member ν)) : List ν :=
  members.filterMap fun m => if m.key.toOption = some key then some m.value else none

/-- Whether the key of a member can be read, and its value passed over if the key is none of some
names. -/
def Member.isLegible (isWhole : ν → Bool) (names : List String) (m : Member ν) : Bool :=
  match m.key with
  | .error _ => false
  | .ok key => key ∈ names || isWhole m.value

theorem Member.isLegible_of_ok {m : Member ν} {key : String} (h : m.key = .ok key)
    (isWhole : ν → Bool) (names : List String) :
    m.isLegible isWhole names = (key ∈ names || isWhole m.value) := by
  rw [isLegible, h]

namespace Field

/-- What the values under its key make of a field: an optional field may have none, and no field
has two. -/
def taken (f : Field ν σ) : List ν → Option (σ → σ)
  | [] => if f.optional then some id else none
  | [v] => if (f.fault? v).isNone then (f.read v).toOption else none
  | _ => none

/-- What the values that are left make of a field when some fields were there already. -/
def takenAfter (seen : List String) (f : Field ν σ) (values : List ν) : Option (σ → σ) :=
  if f.name ∈ seen then if values.isEmpty then some id else none else f.taken values

def names (fields : List (Field ν σ)) : List String := fields.map (·.name)

/-- Whatever two fields hold, it does not matter which of them is set first. -/
def Apart (f g : Field ν σ) : Prop :=
  ∀ ⦃v w a b⦄, f.read v = .ok a → g.read w = .ok b → ∀ s, a (b s) = b (a s)

instance : Std.Symm (@Apart ν σ) :=
  ⟨fun _ _ apart _ _ _ _ readG readF s => (apart readF readG s).symm⟩

theorem apart_of_sets {f g : Field ν σ} {α β : Type} {readF : ν → Read α} {readG : ν → Read β}
    {setF : α → σ → σ} {setG : β → σ → σ} (setsF : ∀ v, f.read v = (readF v).map setF)
    (setsG : ∀ v, g.read v = (readG v).map setG)
    (commute : ∀ a b s, setF a (setG b s) = setG b (setF a s)) : Apart f g := by
  intro v w a b readsF readsG s
  rw [setsF] at readsF
  rw [setsG] at readsG
  cases heldF : readF v with
  | error e =>
    rw [heldF] at readsF
    cases readsF
  | ok x =>
    cases heldG : readG w with
    | error e =>
      rw [heldG] at readsG
      cases readsG
    | ok y =>
      rw [heldF] at readsF
      rw [heldG] at readsG
      cases readsF
      cases readsG
      exact commute x y s

/-- Fields that can be told apart by their names, and each of which sets a part of its own. -/
structure Separate (fields : List (Field ν σ)) : Prop where
  distinct : (names fields).Nodup
  parts : fields.Pairwise Apart

theorem taken_eq_some {f : Field ν σ} {values : List ν} {set : σ → σ}
    (h : f.taken values = some set) : set = id ∨ ∃ v, f.read v = .ok set := by
  match values with
  | [] =>
    rw [taken] at h
    split at h
    · exact .inl (Option.some.inj h).symm
    · cases h
  | [v] =>
    rw [taken] at h
    split at h
    · cases read : f.read v with
      | ok a =>
        rw [read] at h
        exact .inr ⟨v, read.trans (congrArg _ (Option.some.inj h))⟩
      | error e =>
        rw [read] at h
        cases h
    · cases h
  | _ :: _ :: _ => cases h

theorem takenAfter_eq_some {f : Field ν σ} {seen : List String} {values : List ν} {set : σ → σ}
    (h : f.takenAfter seen values = some set) : set = id ∨ ∃ v, f.read v = .ok set := by
  rw [takenAfter] at h
  split at h
  · split at h
    · exact .inl (Option.some.inj h).symm
    · cases h
  · exact taken_eq_some h

/-- The order of the values under one key does not matter: where there are two, none is taken. -/
theorem taken_perm (f : Field ν σ) {values values' : List ν} (same : values.Perm values') :
    f.taken values = f.taken values' := by
  match values, values', same.length_eq with
  | [], values', _ => rw [List.nil_perm.mp same]
  | [v], values', _ => rw [List.singleton_perm.mp same]
  | _ :: _ :: _, _ :: _ :: _, _ => rfl

end Field

section given

variable {α : Type}

/-- What the values under a key come to: nothing, or what the only one of them stands for. -/
def given? (read : ν → Option α) : List ν → Option (Option α)
  | [] => some none
  | [v] => (read v).map some
  | _ => none

def told? (read : ν → Read α) : List ν → Option (Option α) := given? fun v => (read v).toOption

theorem told?_eq_some {read : ν → Read α} {values : List ν} {x : Option α} :
    told? read values = some x ↔
      values = [] ∧ x = none ∨ ∃ v a, values = [v] ∧ (read v).toOption = some a ∧ x = some a := by
  rcases values with _ | ⟨v, _ | ⟨w, values⟩⟩
  · simp [told?, given?, eq_comm]
  · cases h : read v <;> simp [told?, given?, h, Except.toOption, eq_comm]
  · simp [told?, given?]

/-- What the only value under a key stands for. -/
def only? (read : ν → Read α) (values : List ν) : Option α := (told? read values).join

theorem only?_eq_some {read : ν → Read α} {values : List ν} {a : α} :
    only? read values = some a ↔ ∃ v, values = [v] ∧ (read v).toOption = some a := by
  rcases values with _ | ⟨v, _ | ⟨w, values⟩⟩
  · simp [only?, told?, given?]
  · simp [only?, told?, given?, Option.join_eq_some_iff]
  · simp [only?, told?, given?]

/-- Sets a field, if something is given for it. -/
def put (set : α → σ → σ) (given : Option α) (s : σ) : σ := given.elim s (set · s)

namespace Field

variable (name : String) (read : ν → Read α) (set : α → σ → σ) (values : List ν)

theorem taken_required :
    taken { name, read v := (read v).map set } values = (only? read values).map set := by
  rcases values with _ | ⟨v, _ | ⟨w, values⟩⟩
  · rfl
  · change ((read v).map set).toOption = (((read v).toOption.map some).join).map set
    cases read v <;> rfl
  · rfl

theorem taken_optional :
    taken { name, read v := (read v).map set, optional := true } values =
      (told? read values).map (put set) := by
  rcases values with _ | ⟨v, _ | ⟨w, values⟩⟩
  · rfl
  · change ((read v).map set).toOption = ((read v).toOption.map some).map (put set)
    cases read v <;> rfl
  · rfl

end Field

end given

open Vigil.Field (Separate names)

/-- Sets all fields in turn, unless one of them can not be set. -/
def place (change : Field ν σ → Option (σ → σ)) (fields : List (Field ν σ)) (s : σ) : Option σ :=
  fields.foldlM (fun s f => (change f).map (· s)) s

section place

variable {change change' : Field ν σ → Option (σ → σ)} {f : Field ν σ} {fields : List (Field ν σ)}

theorem place_nil (s : σ) : place change [] s = some s := rfl

theorem place_cons (s : σ) :
    place change (f :: fields) s = (change f).bind fun set => place change fields (set s) := by
  rw [place, List.foldlM_cons]
  cases change f <;> rfl

theorem place_congr (same : ∀ f ∈ fields, change f = change' f) (s : σ) :
    place change fields s = place change' fields s := by
  induction fields generalizing s with
  | nil => rfl
  | cons f fields ih =>
    obtain ⟨here, others⟩ := List.forall_mem_cons.mp same
    simp only [place_cons, here, ih others]

theorem place_eq_none (mem : f ∈ fields) (fails : change f = none) (s : σ) :
    place change fields s = none := by
  induction fields generalizing s with
  | nil => cases mem
  | cons g fields ih =>
    rw [place_cons]
    cases List.mem_cons.mp mem with
    | inl same => rw [← same, fails, Option.bind_none]
    | inr mem => simp only [ih mem, Option.bind_fun_none]

/-- A field may be set before all others, if what it sets concerns none of them. -/
theorem place_first {set : σ → σ} (distinct : (names fields).Nodup) (mem : f ∈ fields)
    (here : change f = some set) (gone : change' f = some id)
    (others : ∀ g ∈ fields, g.name ≠ f.name → change g = change' g)
    (apart : ∀ g ∈ fields, g.name ≠ f.name → ∀ a, change g = some a → ∀ s, a (set s) = set (a s))
    (s : σ) : place change fields s = place change' fields (set s) := by
  induction fields generalizing s with
  | nil => cases mem
  | cons g fields ih =>
    rw [names, List.map_cons, List.nodup_cons] at distinct
    rw [place_cons, place_cons]
    cases List.mem_cons.mp mem with
    | inl same =>
      subst same
      rw [here, gone, Option.bind_some, Option.bind_some, id]
      refine place_congr (fun g mem => others g (List.mem_cons_of_mem _ mem) fun same => ?_) _
      exact distinct.1 (same ▸ List.mem_map_of_mem mem)
    | inr mem =>
      obtain ⟨othersHere, othersRest⟩ := List.forall_mem_cons.mp others
      obtain ⟨apartHere, apartRest⟩ := List.forall_mem_cons.mp apart
      have other : g.name ≠ f.name := fun same => distinct.1 (same ▸ List.mem_map_of_mem mem)
      rw [← othersHere other]
      cases changed : change g with
      | none => rfl
      | some a =>
        rw [Option.bind_some, Option.bind_some, ih distinct.2 mem othersRest apartRest,
          apartHere other a changed]

end place

section under

variable (key : String) (m : Member ν) (rest : List (Member ν))

theorem under_cons_of_ok {name : String} (h : m.key = .ok name) :
    under key (m :: rest) = if name = key then m.value :: under key rest else under key rest := by
  by_cases same : name = key <;> simp [under, h, Except.toOption, same]

theorem under_perm {members members' : List (Member ν)} (same : members.Perm members') :
    (under key members).Perm (under key members') :=
  same.filterMap _

end under

section readFields

variable {fields : List (Field ν σ)}

/-- Nothing is missing where all fields that must be there were there. -/
theorem place_nothing (seen : List String) (s : σ) :
    place (fun f => f.takenAfter seen []) fields s =
      if fields.all (fun f => f.optional || f.name ∈ seen) then some s else none := by
  induction fields with
  | nil => rfl
  | cons f fields ih =>
    rw [place_cons, Field.takenAfter, Field.taken, List.all_cons]
    by_cases there : f.name ∈ seen
    · simp [there, ih]
    · cases optional : f.optional <;> simp [there, ih]

/-- A member that is read sets its field before all others. -/
theorem place_member (separate : Separate fields) {f : Field ν σ} (mem : f ∈ fields)
    {m : Member ν} (key : m.key = .ok f.name) {seen : List String} (fresh : f.name ∉ seen)
    (rest : List (Member ν)) (s : σ) :
    place (fun g => g.takenAfter seen (under g.name (m :: rest))) fields s =
      (f.taken [m.value]).bind fun set =>
        place (fun g => g.takenAfter (f.name :: seen) (under g.name rest)) fields (set s) := by
  have values : under f.name (m :: rest) = m.value :: under f.name rest := by
    rw [under_cons_of_ok _ _ _ key, if_pos rfl]
  cases more : under f.name rest with
  | cons v vs =>
    -- The field is there once more, which neither side accepts.
    rw [place_eq_none mem]
    · cases f.taken [m.value] with
      | none => rfl
      | some set =>
        rw [Option.bind_some, place_eq_none mem]
        simp [Field.takenAfter, more]
    · simp [Field.takenAfter, fresh, values, more, Field.taken]
  | nil =>
    rw [more] at values
    cases taken : f.taken [m.value] with
    | none =>
      rw [place_eq_none mem, Option.bind_none]
      simp [Field.takenAfter, fresh, values, taken]
    | some set =>
      rw [Option.bind_some]
      refine place_first separate.distinct mem ?_ ?_ (fun g _ other => ?_)
        (fun g gMem other a h t => ?_) s
      · simp [Field.takenAfter, fresh, values, taken]
      · simp [Field.takenAfter, more]
      · rw [under_cons_of_ok _ _ _ key, if_neg other.symm]
        simp [Field.takenAfter, other]
      · have apart := separate.parts.forall gMem mem fun same => other (congrArg _ same)
        rcases Field.takenAfter_eq_some h with rfl | ⟨v, readG⟩
        · rfl
        rcases Field.taken_eq_some taken with rfl | ⟨w, readF⟩
        · rfl
        exact apart readG readF t

variable (isWhole : ν → Bool)

/-- All members, read in their order, make of the record what the values under each key do. -/
theorem readMembers_eq (separate : Separate fields) (members : List (Member ν))
    (seen : List String) (s : σ) :
    ((readMembers isWhole fields members seen s).toOption.bind fun (seen, s) =>
        if fields.all (fun f => f.optional || f.name ∈ seen) then some s else none) =
      if members.all (·.isLegible isWhole (names fields)) then
        place (fun f => f.takenAfter seen (under f.name members)) fields s
      else none := by
  induction members generalizing seen s with
  | nil => exact (place_nothing seen s).symm
  | cons m rest ih =>
    rw [readMembers, List.all_cons]
    cases key : m.key with
    | error e =>
      simp only [Member.isLegible, key]
      rfl
    | ok name =>
      dsimp only
      cases found : fields.find? (·.name == name) with
      | none =>
        rw [List.find?_eq_none] at found
        have foreign : name ∉ names fields := by
          rw [names, List.mem_map]
          rintro ⟨f, mem, rfl⟩
          exact found f mem (beq_self_eq_true f.name)
        have legible : m.isLegible isWhole (names fields) = isWhole m.value := by
          simp only [Member.isLegible_of_ok key, foreign, decide_false, Bool.false_or]
        simp only [legible]
        cases isWhole m.value with
        | false => rfl
        | true =>
          simp only [Bool.true_and, if_true, ih]
          refine if_congr Iff.rfl (place_congr (fun f mem => ?_) s) rfl
          rw [under_cons_of_ok _ _ _ key, if_neg]
          exact fun same => foreign (same ▸ List.mem_map_of_mem mem)
      | some f =>
        have mem := List.mem_of_find?_eq_some found
        obtain rfl : f.name = name := by
          simpa using List.find?_some found
        have legible : m.isLegible isWhole (names fields) = true := by
          have known : f.name ∈ names fields := List.mem_map_of_mem mem
          simp only [Member.isLegible_of_ok key, known, decide_true, Bool.true_or]
        simp only [legible, Bool.true_and]
        by_cases there : f.name ∈ seen
        · rw [if_pos there, place_eq_none mem, ite_self]
          · rfl
          · simp [Field.takenAfter, there, under_cons_of_ok _ _ _ key]
        · rw [if_neg there, place_member separate mem key there, Field.taken]
          cases f.fault? m.value with
          | some fault => simp [Read.wrong, Except.toOption]
          | none =>
            cases f.read m.value with
            | ok set => simpa [Read.inside, Except.toOption] using ih (f.name :: seen) (set s)
            | error e =>
              rcases e with _ | ⟨_, _⟩ <;> simp [Read.inside, Except.toOption]

/-- What a record is read as, from the values under the keys of its fields. -/
theorem readFields_eq (separate : Separate fields) (members : List (Member ν)) (closed : Bool)
    (start : σ) :
    (readFields isWhole fields members closed start).toOption =
      if closed && members.all (·.isLegible isWhole (names fields)) then
        place (fun f => f.taken (under f.name members)) fields start
      else none := by
  have all := readMembers_eq isWhole separate members [] start
  simp only [Field.takenAfter, List.not_mem_nil, if_false] at all
  rw [readFields]
  cases read : readMembers isWhole fields members [] start with
  | error e =>
    rw [read] at all
    cases closed with
    | false => rfl
    | true => exact all
  | ok found =>
    obtain ⟨seen, s⟩ := found
    rw [read] at all
    cases closed with
    | false => rfl
    | true =>
      rw [Bool.true_and, ← all]
      dsimp only
      cases missing : fields.find? (fun f => !f.optional && f.name ∉ seen) with
      | some f =>
        have lacks := List.find?_some missing
        have mem := List.mem_of_find?_eq_some missing
        have incomplete : fields.all (fun f => f.optional || f.name ∈ seen) = false := by
          refine List.all_eq_false.mpr ⟨f, mem, ?_⟩
          simpa using lacks
        change none = if fields.all _ = true then _ else none
        rw [incomplete]
        rfl
      | none =>
        rw [List.find?_eq_none] at missing
        have complete : fields.all (fun f => f.optional || f.name ∈ seen) = true := by
          refine List.all_eq_true.mpr fun f mem => ?_
          simpa [or_iff_not_imp_left] using missing f mem
        change some s = if fields.all _ = true then _ else none
        rw [complete]
        rfl

/-- Neither the order of the members nor what stands under other keys has a part in what a record is
read as. -/
theorem readFields_congr (separate : Separate fields) {members members' : List (Member ν)}
    (legible : members.all (·.isLegible isWhole (names fields)) =
      members'.all (·.isLegible isWhole (names fields)))
    (same : ∀ f ∈ fields, (under f.name members).Perm (under f.name members')) (closed : Bool)
    (start : σ) :
    (readFields isWhole fields members closed start).toOption =
      (readFields isWhole fields members' closed start).toOption := by
  rw [readFields_eq isWhole separate, readFields_eq isWhole separate, legible]
  refine if_congr Iff.rfl (place_congr (fun f mem => ?_) start) rfl
  exact f.taken_perm (same f mem)

end readFields

end Vigil
