import Vigil.Proofs.Scalars

/-!
What a mapping of a document gives for the fields of a record. It is told field by field, by the
only entry under its key, and by nothing else of the document. So neither the order of the entries
nor what stands under other keys has a part in it.
-/

namespace Vigil

open Vigil.Field (Separate names)

variable (known : Yaml.Anchors)

namespace Yaml

/-- The value of the only entry under a key. -/
def Only (key : String) (entries : List (Yaml × Yaml)) (v : Yaml) : Prop :=
  ∃ before k after, entries = before ++ (k, v) :: after ∧ IsText known k key ∧
    ∀ e ∈ before ++ after, ¬IsText known e.1 key

/-- What some entries give for a key: the value of the only entry under it, or something else if
there is none. -/
inductive Gives {α : Type} (key : String) (Spells : Yaml → α → Prop) (otherwise : α)
    (entries : List (Yaml × Yaml)) : α → Prop where
  | nothing : (∀ e ∈ entries, ¬IsText known e.1 key) → Gives key Spells otherwise entries otherwise
  | value {v : Yaml} {a : α} : Only known key entries v → Spells v a →
    Gives key Spells otherwise entries a

/-- A node that stands for a mapping from texts. Under keys other than some there may be anything
that is complete. -/
structure Shaped (names : List String) (v : Yaml) (entries : List (Yaml × Yaml)) : Prop where
  holds : Holds known v entries
  keys : ∀ e ∈ entries, ∃ key, IsText known e.1 key
  others : ∀ e ∈ entries, (∀ name ∈ names, ¬IsText known e.1 name) → Complete e.2

end Yaml

section entries

variable {known} {key : String} {entries : List (Yaml × Yaml)} {α : Type}
  {Spells : Yaml → α → Prop} {otherwise a : α}

namespace Yaml

theorem member_key {e : Yaml × Yaml} :
    (member known e).key.toOption = some key ↔ IsText known e.1 key :=
  readTextAs_eq_some

theorem under_members :
    under key (entries.map (member known)) = entries.filterMap fun e =>
      if (readTextAs known "field identifier" e.1).toOption = some key then some e.2 else none := by
  rw [under, List.filterMap_map]
  rfl

theorem under_eq_nil_iff :
    under key (entries.map (member known)) = [] ↔ ∀ e ∈ entries, ¬IsText known e.1 key := by
  rw [under_members, List.filterMap_eq_nil_iff]
  simp [readTextAs_eq_some]

theorem under_eq_singleton_iff {v : Yaml} :
    under key (entries.map (member known)) = [v] ↔ Only known key entries v := by
  simp only [under_members, List.filterMap_eq_cons_iff, List.filterMap_eq_nil_iff, Only,
    readTextAs_eq_some, ite_eq_right_iff, reduceCtorEq, imp_false, Option.ite_none_right_eq_some,
    Option.some.injEq, List.forall_mem_append]
  constructor
  · rintro ⟨before, ⟨k, _⟩, after, same, front, ⟨isKey, rfl⟩, back⟩
    exact ⟨before, k, after, same, isKey, front, back⟩
  · rintro ⟨before, k, after, same, isKey, front, back⟩
    exact ⟨before, (k, v), after, same, front, ⟨isKey, rfl⟩, back⟩

/-- What is given for a key, by the values that are under it. -/
theorem gives_iff :
    Gives known key Spells otherwise entries a ↔
      under key (entries.map (member known)) = [] ∧ a = otherwise ∨
        ∃ v, under key (entries.map (member known)) = [v] ∧ Spells v a := by
  simp only [under_eq_nil_iff, under_eq_singleton_iff]
  constructor
  · rintro (missing | ⟨only, spelled⟩)
    · exact .inl ⟨missing, rfl⟩
    · exact .inr ⟨_, only, spelled⟩
  · rintro (⟨missing, rfl⟩ | ⟨v, only, spelled⟩)
    · exact .nothing missing
    · exact .value only spelled

theorem gives_of_missing (missing : under key (entries.map (member known)) = []) :
    Gives known key Spells otherwise entries otherwise :=
  gives_iff.mpr (.inl ⟨missing, rfl⟩)

theorem gives_of_single {v : Yaml} (single : under key (entries.map (member known)) = [v])
    (spelled : Spells v a) : Gives known key Spells otherwise entries a :=
  gives_iff.mpr (.inr ⟨v, single, spelled⟩)

theorem gives_iff_told {read : Yaml → Read α}
    (spells : ∀ v a, (read v).toOption = some a ↔ Spells v a) :
    Gives known key Spells otherwise entries a ↔
      ∃ x, told? read (under key (entries.map (member known))) = some x ∧ a = x.getD otherwise := by
  simp only [gives_iff, told?_eq_some, ← spells]
  constructor
  · rintro (⟨missing, rfl⟩ | ⟨v, single, spelled⟩)
    · exact ⟨none, .inl ⟨missing, rfl⟩, rfl⟩
    · exact ⟨some a, .inr ⟨v, a, single, spelled, rfl⟩, rfl⟩
  · rintro ⟨_, ⟨missing, rfl⟩ | ⟨v, a, single, spelled, rfl⟩, rfl⟩
    · exact .inl ⟨missing, rfl⟩
    · exact .inr ⟨v, single, spelled⟩

theorem shaped_iff {names : List String} {v : Yaml} :
    Shaped known names v entries ↔
      Holds known v entries ∧ (entries.map (member known)).all (·.isLegible isWhole names) := by
  have legible (e : Yaml × Yaml) : (member known e).isLegible isWhole names = true ↔
      (∃ key, IsText known e.1 key) ∧
        ((∀ name ∈ names, ¬IsText known e.1 name) → Complete e.2) := by
    simp only [← member_key, ← isWhole_iff]
    cases read : (member known e).key with
    | error fault => simp [Member.isLegible, read, Except.toOption]
    | ok key =>
      rw [Member.isLegible_of_ok read, Bool.or_eq_true, decide_eq_true_eq]
      have foreign : (∀ name ∈ names, ¬key = name) ↔ key ∉ names :=
        ⟨fun other mem => other key mem rfl, fun other name mem same => other (same ▸ mem)⟩
      simp only [Except.toOption, Option.some.injEq, foreign, exists_eq', true_and]
      exact or_iff_not_imp_left
  simp only [List.all_eq_true, List.forall_mem_map, legible]
  constructor
  · rintro ⟨holds, keys, others⟩
    exact ⟨holds, fun e mem => ⟨keys e mem, others e mem⟩⟩
  · rintro ⟨holds, each⟩
    exact ⟨holds, fun e mem => (each e mem).1, fun e mem => (each e mem).2⟩

theorem shaped_of_legible {names : List String}
    (legible : (entries.map (member known)).all (·.isLegible isWhole names)) :
    Shaped known names (mapping entries true) entries :=
  shaped_iff.mpr ⟨.inl (.mapping entries true), legible⟩

theorem readRecord_eq_some {σ : Type} {fields : List (Field Yaml σ)} (separate : Separate fields)
    {name : String} {start c : σ} {v : Yaml} :
    (readRecord known name fields start v).toOption = some c ↔
      ∃ entries, Shaped known (names fields) v entries ∧
        place (fun f => f.taken (under f.name (entries.map (member known)))) fields start =
          some c := by
  have read (entries : List (Yaml × Yaml)) (closed : Bool) :
      (readFields isWhole fields (entries.map (member known)) closed start).toOption = some c ↔
        closed = true ∧ (entries.map (member known)).all (·.isLegible isWhole (names fields)) ∧
          place (fun f => f.taken (under f.name (entries.map (member known)))) fields start =
            some c := by
    rw [readFields_eq isWhole separate]
    cases closed <;> simp
  have nothing := read [] true
  rw [List.map_nil] at nothing
  simp only [shaped_iff, holds_iff, readRecord]
  cases resolve known v with
  | mapping entries closed =>
    rw [read]
    simp [isOmitted, and_assoc]
  | scalar text style tag =>
    dsimp only
    split
    · next omitted =>
      rw [nothing]
      simp [omitted]
    · next given => simp [given, mismatch_toOption]
  | absent =>
    refine nothing.trans ?_
    simp [isOmitted]
  | _ => simp [isOmitted, mismatch_toOption]

theorem gives_missing (missing : ∀ e ∈ entries, ¬IsText known e.1 key) :
    Gives known key Spells otherwise entries a ↔ a = otherwise := by
  rw [gives_iff, under_eq_nil_iff.mpr missing]
  simp

/-- What stands under another key counts for nothing. -/
theorem gives_cons_other {k v : Yaml} {name : String} (isName : IsText known k name)
    (other : name ≠ key) :
    Gives known key Spells otherwise ((k, v) :: entries) a ↔
      Gives known key Spells otherwise entries a := by
  have key : (member known (k, v)).key = .ok name := Read.eq_ok_iff.mpr (member_key.mpr isName)
  rw [gives_iff, gives_iff, List.map_cons, under_cons_of_ok _ _ _ key, if_neg other]

/-- A value that spells what there is without it counts for nothing. -/
theorem gives_cons_otherwise {k v : Yaml} (isKey : IsText known k key)
    (missing : ∀ e ∈ entries, ¬IsText known e.1 key) (plain : ∀ a, Spells v a ↔ a = otherwise) :
    Gives known key Spells otherwise ((k, v) :: entries) a ↔
      Gives known key Spells otherwise entries a := by
  have isKey : (member known (k, v)).key = .ok key := Read.eq_ok_iff.mpr (member_key.mpr isKey)
  have value : (member known (k, v)).value = v := rfl
  rw [gives_missing missing, gives_iff, List.map_cons, under_cons_of_ok _ _ _ isKey, if_pos rfl,
    under_eq_nil_iff.mpr missing, value]
  simp [plain]

theorem exists_shaped_mapping {names : List String} {P : List (Yaml × Yaml) → Prop} :
    (∃ entries', Shaped known names (mapping entries true) entries' ∧ P entries') ↔
      Shaped known names (mapping entries true) entries ∧ P entries := by
  constructor
  · rintro ⟨entries', shaped, holds⟩
    rcases holds_iff.mp shaped.holds with same | ⟨omitted, -⟩
    · obtain rfl : entries = entries' := (mapping.inj same).1
      exact ⟨shaped, holds⟩
    · cases omitted
  · exact fun both => ⟨entries, both⟩

theorem shaped_cons {names : List String} {k v : Yaml} {name : String}
    (isName : IsText known k name) (mem : name ∈ names) :
    Shaped known names (mapping ((k, v) :: entries) true) ((k, v) :: entries) ↔
      Shaped known names (mapping entries true) entries where
  mp shaped :=
    { holds := .inl (.mapping entries true)
      keys := (List.forall_mem_cons.mp shaped.keys).2
      others := (List.forall_mem_cons.mp shaped.others).2 }
  mpr shaped :=
    { holds := .inl (.mapping _ true)
      keys := List.forall_mem_cons.mpr ⟨⟨name, isName⟩, shaped.keys⟩
      others := List.forall_mem_cons.mpr ⟨fun other => absurd isName (other name mem),
        shaped.others⟩ }

end Yaml

end entries

open Yaml (IsText Gives Shaped)

/-! ### Records -/

/-- A field that may be left out: what its value spells, and the part of the record that it sets. -/
structure Slot (σ : Type) where
  field : Field Yaml σ
  Value : Type
  read : Yaml → Read Value
  Spells : Yaml → Value → Prop
  set : Value → σ → σ
  get : σ → Value
  spells : ∀ v a, (read v).toOption = some a ↔ Spells v a
  taken : ∀ values, field.taken values = (told? read values).map (put set)
  sets : ∀ ⦃v a⦄, field.read v = .ok a → ∃ x, a = set x
  get_set : ∀ a s, get (set a s) = a

namespace Slot

variable {σ : Type}

theorem sets_of_map {α : Type} {r : Read α} {set : α → σ → σ} {a : σ → σ}
    (h : r.map set = .ok a) : ∃ x, a = set x := by
  cases r with
  | error e => cases h
  | ok x => exact ⟨x, (Except.ok.inj h).symm⟩

/-- A field without a fault of its own. -/
def of {α : Type} (name : String) {read : Yaml → Read α} {Spells : Yaml → α → Prop}
    (spells : ∀ v a, (read v).toOption = some a ↔ Spells v a) (set : α → σ → σ) (get : σ → α)
    (get_set : ∀ a s, get (set a s) = a) : Slot σ where
  field := Config.field name read set
  Value := α
  read
  Spells
  set
  get
  spells
  taken := Field.taken_optional name read set
  sets _ _ := sets_of_map
  get_set

def fields (slots : List (Slot σ)) : List (Field Yaml σ) := slots.map (·.field)

/-- The slots of a record: each sets a part of its own, and there are no other parts. -/
structure Lawful (slots : List (Slot σ)) : Prop where
  distinct : (names (fields slots)).Nodup
  apart : ∀ p ∈ slots, ∀ q ∈ slots, p.field.name ≠ q.field.name →
    ∀ a s, p.get (q.set a s) = p.get s
  ext : ∀ s t, (∀ slot ∈ slots, slot.get s = slot.get t) → s = t

variable {slots : List (Slot σ)}

theorem Lawful.eq_of_name (lawful : Lawful slots) {p q : Slot σ} (memP : p ∈ slots)
    (memQ : q ∈ slots) (same : p.field.name = q.field.name) : p = q := by
  have distinct := lawful.distinct
  rw [names, fields, List.map_map] at distinct
  exact List.inj_on_of_nodup_map distinct memP memQ same

theorem Lawful.get_put_other (lawful : Lawful slots) {p q : Slot σ} (memP : p ∈ slots)
    (memQ : q ∈ slots) (other : p.field.name ≠ q.field.name) (x : Option q.Value) (s : σ) :
    p.get (put q.set x s) = p.get s := by
  cases x with
  | none => rfl
  | some a => exact lawful.apart p memP q memQ other a s

theorem get_put (slot : Slot σ) (x : Option slot.Value) (s : σ) :
    slot.get (put slot.set x s) = x.getD (slot.get s) := by
  cases x with
  | none => rfl
  | some a => exact slot.get_set a s

theorem Lawful.separate (lawful : Lawful slots) : Separate (fields slots) where
  distinct := lawful.distinct
  parts := by
    have pairs : slots.Pairwise fun p q => p.field.name ≠ q.field.name := by
      have distinct := lawful.distinct
      rw [names, fields, List.map_map] at distinct
      exact List.pairwise_map.mp distinct
    refine List.pairwise_map.mpr (pairs.imp_of_mem fun {p q} memP memQ other => ?_)
    intro v w a b readP readQ s
    obtain ⟨x, rfl⟩ := p.sets readP
    obtain ⟨y, rfl⟩ := q.sets readQ
    refine lawful.ext _ _ fun r mem => ?_
    by_cases isP : r.field.name = p.field.name
    · obtain rfl := lawful.eq_of_name mem memP isP
      rw [r.get_set, lawful.apart r mem q memQ other, r.get_set]
    · rw [lawful.apart r mem p memP isP]
      by_cases isQ : r.field.name = q.field.name
      · obtain rfl := lawful.eq_of_name mem memQ isQ
        rw [r.get_set, r.get_set]
      · rw [lawful.apart r mem q memQ isQ, lawful.apart r mem q memQ isQ,
          lawful.apart r mem p memP isP]

/-- What values are put into a record is told slot by slot. -/
theorem Lawful.place_iff (lawful : Lawful slots) (values : String → List Yaml) {start c : σ} :
    place (fun f => f.taken (values f.name)) (fields slots) start = some c ↔
      ∀ slot ∈ slots, ∃ x, told? slot.read (values slot.field.name) = some x ∧
        slot.get c = x.getD (slot.get start) := by
  -- What is put in later leaves what was put in before.
  suffices ∀ done rest, slots = done ++ rest → ∀ s,
      place (fun f => f.taken (values f.name)) (fields rest) s = some c ↔
        (∀ slot ∈ done, slot.get c = slot.get s) ∧
        ∀ slot ∈ rest, ∃ x, told? slot.read (values slot.field.name) = some x ∧
          slot.get c = x.getD (slot.get s) by
    simpa using this [] slots rfl start
  intro done rest
  induction rest generalizing done with
  | nil =>
    intro same s
    rw [List.append_nil] at same
    subst same
    simp only [fields, List.map_nil, place_nil, Option.some.injEq, List.not_mem_nil, false_implies,
      implies_true, and_true]
    exact ⟨fun same slot _ => same ▸ rfl, fun same => (lawful.ext _ _ same).symm⟩
  | cons p rest ih =>
    intro same s
    have inSlots : p ∈ slots := by simp [same]
    have distinct := lawful.distinct
    rw [same, fields, List.map_append, names, List.map_append, List.nodup_append'] at distinct
    obtain ⟨-, distinctRest, apartDone⟩ := distinct
    rw [List.map_cons, List.map_cons, List.nodup_cons] at distinctRest
    have keepsDone (x : Option p.Value) : ∀ slot ∈ done, slot.get (put p.set x s) = slot.get s :=
      fun slot mem => lawful.get_put_other (by simp [same, mem]) inSlots
        (fun isP => apartDone (List.mem_map_of_mem (List.mem_map_of_mem mem)) (by simp [isP])) x s
    have keepsRest (x : Option p.Value) : ∀ slot ∈ rest, slot.get (put p.set x s) = slot.get s :=
      fun slot mem => lawful.get_put_other (by simp [same, mem]) inSlots
        (fun isP => distinctRest.1 (isP ▸ List.mem_map_of_mem (List.mem_map_of_mem mem))) x s
    rw [fields, List.map_cons, place_cons, p.taken]
    cases told : told? p.read (values p.field.name) with
    | none => simp [told]
    | some x =>
      rw [Option.map_some, Option.bind_some]
      refine (ih (done ++ [p]) (by simp [same]) (put p.set x s)).trans ?_
      rw [List.forall_mem_append, List.forall_mem_singleton, get_put, List.forall_mem_cons,
        and_assoc]
      refine and_congr (forall₂_congr fun slot mem => ?_)
        (and_congr ?_ (forall₂_congr fun slot mem => ?_))
      · rw [keepsDone x slot mem]
      · simp [told]
      · rw [keepsRest x slot mem]

/-- A record is read as what a node gives for it, slot by slot. -/
theorem Lawful.readRecord_eq_some (lawful : Lawful slots) {name : String} {start c : σ}
    {In : List (Yaml × Yaml) → Prop}
    (tells : ∀ entries, In entries ↔ ∀ slot ∈ slots,
      Gives known slot.field.name slot.Spells (slot.get start) entries (slot.get c)) {v : Yaml} :
    (Yaml.readRecord known name (fields slots) start v).toOption = some c ↔
      ∃ entries, Shaped known (names (fields slots)) v entries ∧ In entries := by
  rw [Yaml.readRecord_eq_some lawful.separate]
  refine exists_congr fun entries => and_congr_right fun _ => ?_
  rw [tells, lawful.place_iff fun name => under name (entries.map (Yaml.member known))]
  exact forall₂_congr fun slot _ => (Yaml.gives_iff_told slot.spells).symm

variable {known} {name : String} {start : σ} {v : Yaml}

theorem Lawful.readRecord_empty (lawful : Lawful slots) (empty : Yaml.Holds known v []) :
    (Yaml.readRecord known name (fields slots) start v).toOption = some start :=
  (lawful.readRecord_eq_some known fun _ => Iff.rfl).mpr
    ⟨[], ⟨empty, nofun, nofun⟩, fun _ _ => .nothing nofun⟩

/-- A value that spells what there is without it may be left out. -/
theorem Lawful.readRecord_cons (lawful : Lawful slots) {key : String}
    (isField : key ∈ names (fields slots)) {k : Yaml} (isKey : IsText known k key)
    {entries : List (Yaml × Yaml)} (missing : ∀ e ∈ entries, ¬IsText known e.1 key)
    (plain : ∀ slot ∈ slots, ∀ a, slot.Spells v a ↔ a = slot.get start) :
    (Yaml.readRecord known name (fields slots) start (.mapping ((k, v) :: entries) true)).toOption =
      (Yaml.readRecord known name (fields slots) start (.mapping entries true)).toOption := by
  ext c
  rw [lawful.readRecord_eq_some known fun _ => Iff.rfl,
    lawful.readRecord_eq_some known fun _ => Iff.rfl, Yaml.exists_shaped_mapping,
    Yaml.exists_shaped_mapping, Yaml.shaped_cons isKey isField]
  refine and_congr_right fun _ => forall₂_congr fun slot mem => ?_
  by_cases same : key = slot.field.name
  · subst same
    exact Yaml.gives_cons_otherwise isKey missing (plain slot mem)
  · exact Yaml.gives_cons_other isKey same

end Slot

namespace Yaml

/-- A reader of mappings to which their order is nothing, nor what stands under keys other than
some. -/
structure GoesByKeys {α : Type} (names : List String) (read : Yaml → Read α) : Prop where
  order : ∀ entries entries' : List (Yaml × Yaml), entries.Perm entries' →
    (read (mapping entries true)).toOption = (read (mapping entries' true)).toOption
  others : ∀ (k v : Yaml) (key : String) (entries : List (Yaml × Yaml)),
    IsText known k key → key ∉ names → Complete v →
    (read (mapping ((k, v) :: entries) true)).toOption = (read (mapping entries true)).toOption

theorem readRecord_goesByKeys {σ : Type} {fields : List (Field Yaml σ)}
    (separate : Separate fields) (name : String) (start : σ) :
    GoesByKeys known (names fields) (readRecord known name fields start) where
  order entries entries' same := by
    refine readFields_congr isWhole separate ?_ (fun f _ => under_perm _ (same.map _)) true start
    exact (same.map _).all_eq
  others k v key entries isText foreign complete := by
    have isKey : (member known (k, v)).key = .ok key := Read.eq_ok_iff.mpr (member_key.mpr isText)
    refine readFields_congr isWhole separate ?_ (fun f mem => ?_) true start
    · rw [List.map_cons, List.all_cons, Member.isLegible_of_ok isKey]
      simp only [foreign, decide_false, Bool.false_or]
      exact (congrArg (· && _) (isWhole_iff.mpr complete)).trans (Bool.true_and _)
    · rw [List.map_cons, under_cons_of_ok _ _ _ isKey, if_neg]
      exact fun same => foreign (same ▸ List.mem_map_of_mem mem)

end Yaml

end Vigil
