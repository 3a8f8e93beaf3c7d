import Mathlib.Algebra.Ring.Nat
import Mathlib.Data.List.Induction
import Vigil.Config.Document
import Vigil.Proofs.Reading

/-!
What the nodes of a document stand for, told by what is written: any scalar is a text, a truth value
is one of three words, and a whole number is its digits.
-/

namespace Vigil

namespace Yaml

/-! ### Digits -/

/-- A digit of some radix and its value; letters count in either case. -/
def IsDigit (radix : Nat) (c : Char) (d : Nat) : Prop :=
  d < radix ∧
    (d < 10 ∧ c.toNat = '0'.toNat + d ∨
      10 ≤ d ∧ d < 16 ∧ (c.toNat + 10 = 'a'.toNat + d ∨ c.toNat + 10 = 'A'.toNat + d))

/-- The number that some digits write. -/
inductive Digits (radix : Nat) : List Char → Nat → Prop where
  | first {c : Char} {d : Nat} : IsDigit radix c d → Digits radix [c] d
  | next {cs : List Char} {c : Char} {n d : Nat} : Digits radix cs n → IsDigit radix c d →
      Digits radix (cs ++ [c]) (n * radix + d)

/-- The numbers without sign. One in decimal starts with a zero only if that is all. -/
inductive Unsigned : List Char → Nat → Prop where
  | decimal {cs : List Char} {n : Nat} : Digits 10 cs n → (cs.head? = some '0' → cs = ['0']) →
      Unsigned cs n
  | hexadecimal {cs : List Char} {n : Nat} : Digits 16 cs n → Unsigned ('0' :: 'x' :: cs) n
  | octal {cs : List Char} {n : Nat} : Digits 8 cs n → Unsigned ('0' :: 'o' :: cs) n
  | binary {cs : List Char} {n : Nat} : Digits 2 cs n → Unsigned ('0' :: 'b' :: cs) n

/-- The numbers that are not written as negative. -/
inductive Numeral : List Char → Nat → Prop where
  | bare {cs : List Char} {n : Nat} : Unsigned cs n → Numeral cs n
  | plus {cs : List Char} {n : Nat} : Unsigned cs n → Numeral ('+' :: cs) n

theorem char_le_iff {c c' : Char} : c ≤ c' ↔ c.toNat ≤ c'.toNat := by
  rw [Char.le_def, UInt32.le_iff_toNat_le]
  rfl

section

variable {radix : Nat}

theorem digit?_eq_some (small : radix ≤ 16) {c : Char} {d : Nat} :
    Text.digit? radix c = some d ↔ IsDigit radix c d := by
  simp only [Text.digit?, IsDigit, char_le_iff, Char.reduceToNat]
  split_ifs <;> simp only [Option.some.injEq, false_iff] <;> omega

theorem number?_concat (cs : List Char) (c : Char) :
    Text.number? radix (cs ++ [c]) =
      (if cs = [] then some 0 else Text.number? radix cs).bind fun n =>
        (Text.digit? radix c).map (n * radix + ·) := by
  cases cs with
  | nil => simp [Text.number?]
  | cons first cs => simp [Text.number?, List.foldlM_append, Option.bind_assoc]

theorem number?_eq_some (small : radix ≤ 16) {cs : List Char} {n : Nat} :
    Text.number? radix cs = some n ↔ Digits radix cs n := by
  constructor
  · intro read
    induction cs using List.reverseRecOn generalizing n with
    | nil => cases read
    | append_singleton cs c ih =>
      rw [number?_concat] at read
      obtain ⟨m, front, last⟩ := Option.bind_eq_some_iff.mp read
      obtain ⟨d, isDigit, rfl⟩ := Option.map_eq_some_iff.mp last
      rw [digit?_eq_some small] at isDigit
      split at front
      · next none =>
        cases front
        rw [none, List.nil_append, Nat.zero_mul, Nat.zero_add]
        exact .first isDigit
      · exact .next (ih front) isDigit
  · intro digits
    induction digits with
    | first isDigit =>
      rw [← List.nil_append [_], number?_concat, (digit?_eq_some small).mpr isDigit]
      simp
    | next digits isDigit ih =>
      rw [number?_concat, if_neg, ih, (digit?_eq_some small).mpr isDigit]
      · rfl
      · rintro rfl
        cases ih

theorem Digits.digit {cs : List Char} {n : Nat} (digits : Digits radix cs n) :
    ∀ c ∈ cs, ∃ d, IsDigit radix c d := by
  induction digits with
  | first isDigit => exact List.forall_mem_singleton.mpr ⟨_, isDigit⟩
  | next _ isDigit ih =>
    exact List.forall_mem_append.mpr ⟨ih, List.forall_mem_singleton.mpr ⟨_, isDigit⟩⟩

end

theorem IsDigit.isDigit {c : Char} {d : Nat} (digit : IsDigit 10 c d) : c.isDigit = true := by
  obtain ⟨small, value⟩ := digit
  simp only [Char.isDigit, Bool.and_eq_true, decide_eq_true_eq, ge_iff_le, ← Char.le_def,
    char_le_iff]
  simp only [Char.reduceToNat] at value ⊢
  omega

theorem IsDigit.not_sign {c : Char} {radix d : Nat} (digit : IsDigit radix c d) :
    c ≠ '+' ∧ c ≠ '-' := by
  refine ⟨?_, ?_⟩ <;>
  · rintro rfl
    simp only [IsDigit, Char.reduceToNat] at digit
    omega

theorem Digits.bare {radix : Nat} {cs : List Char} {n : Nat} (digits : Digits radix cs n) :
    cs.head? ≠ some '+' ∧ cs.head? ≠ some '-' := by
  have figures := digits.digit
  cases cs with
  | nil => simp
  | cons c cs =>
    obtain ⟨d, first⟩ := figures c List.mem_cons_self
    simpa using first.not_sign

theorem splitSign_bare {cs : List Char} (bare : cs.head? ≠ some '+' ∧ cs.head? ≠ some '-') :
    splitSign cs = (none, cs) := by
  rw [splitSign]
  · rintro _ rfl
    exact bare.1 rfl
  · rintro _ rfl
    exact bare.2 rfl

/-- Digits in decimal are no number if they start with a zero that is not all. -/
theorem hasIdleZero_eq_false {cs : List Char} {n : Nat} (digits : Digits 10 cs n) :
    hasIdleZero cs = false ↔ (cs.head? = some '0' → cs = ['0']) := by
  have figures := digits.digit
  cases cs with
  | nil => simp [hasIdleZero, splitSign]
  | cons c cs =>
    obtain ⟨⟨_, first⟩, others⟩ := List.forall_mem_cons.mp figures
    have all : cs.all Char.isDigit = true :=
      List.all_eq_true.mpr fun c mem => (others c mem).choose_spec.isDigit
    rw [hasIdleZero, splitSign_bare digits.bare]
    by_cases zero : c = '0'
    · subst zero
      cases cs <;> simp [all]
    · simp [zero]

theorem unsigned_iff {cs : List Char} {n : Nat} :
    (match cs with
      | '0' :: 'x' :: ds => Text.number? 16 ds
      | '0' :: 'o' :: ds => Text.number? 8 ds
      | '0' :: 'b' :: ds => Text.number? 2 ds
      | ds => if hasIdleZero ds then none else Text.number? 10 ds) = some n ↔ Unsigned cs n := by
  constructor
  · intro read
    split at read
    · exact .hexadecimal ((number?_eq_some (by decide)).mp read)
    · exact .octal ((number?_eq_some (by decide)).mp read)
    · exact .binary ((number?_eq_some (by decide)).mp read)
    · split at read
      · cases read
      · next idle =>
        have digits := (number?_eq_some (by decide)).mp read
        exact .decimal digits ((hasIdleZero_eq_false digits).mp (Bool.eq_false_iff.mpr idle))
  · intro written
    cases written with
    | decimal digits alone =>
      -- A letter behind the zero is no digit.
      have letter (c : Char) (digit : ∃ d, IsDigit 10 c d) : c ≠ 'x' ∧ c ≠ 'o' ∧ c ≠ 'b' := by
        obtain ⟨d, digit⟩ := digit
        refine ⟨?_, ?_, ?_⟩ <;>
        · rintro rfl
          simp only [IsDigit, Char.reduceToNat] at digit
          omega
      have figures := digits.digit
      split
      · exact absurd rfl (letter 'x' (figures _ (by simp))).1
      · exact absurd rfl (letter 'o' (figures _ (by simp))).2.1
      · exact absurd rfl (letter 'b' (figures _ (by simp))).2.2
      · rw [if_neg, (number?_eq_some (by decide)).mpr digits]
        exact Bool.eq_false_iff.mp ((hasIdleZero_eq_false digits).mpr alone)
    | hexadecimal digits => exact (number?_eq_some (by decide)).mpr digits
    | octal digits => exact (number?_eq_some (by decide)).mpr digits
    | binary digits => exact (number?_eq_some (by decide)).mpr digits

theorem Unsigned.bare {cs : List Char} {n : Nat} (written : Unsigned cs n) :
    cs.head? ≠ some '+' ∧ cs.head? ≠ some '-' := by
  cases written with
  | decimal digits => exact digits.bare
  | _ => simp

theorem whole?_eq_some {cs : List Char} {n : Nat} :
    whole? cs = some ⟨false, n⟩ ↔ Numeral cs n := by
  have sound {sign : Option Char} {body : List Char} (split : splitSign cs = (sign, body)) :
      whole? cs = some ⟨false, n⟩ ↔ sign ≠ some '-' ∧ Unsigned body n := by
    rw [whole?, split, ← unsigned_iff]
    dsimp only
    rw [Option.map_eq_some_iff]
    simp only [Whole.mk.injEq, decide_eq_false_iff_not]
    constructor
    · rintro ⟨m, read, sign, rfl⟩
      exact ⟨sign, read⟩
    · rintro ⟨sign, read⟩
      exact ⟨n, read, sign, rfl⟩
  constructor
  · intro read
    fun_cases splitSign cs with
    | case1 rest => exact .plus ((sound rfl).mp read).2
    | case2 rest => exact absurd rfl ((sound rfl).mp read).1
    | case3 _ noPlus noMinus =>
      have bare : splitSign cs = (none, cs) := by
        rw [splitSign]
        · exact noPlus
        · exact noMinus
      exact .bare ((sound bare).mp read).2
  · intro written
    cases written with
    | bare written => exact (sound (splitSign_bare written.bare)).mpr ⟨by simp, written⟩
    | plus written => exact (sound rfl).mpr ⟨by simp, written⟩

/-! ### Nodes -/

variable (known : Anchors)

/-- The node that stands at some place. An anchor is put before a node, and an alias stands for the
first node with its anchor among those that are known. -/
inductive Stands : Yaml → Yaml → Prop where
  | scalar (text : String) (style : Style) (tag : Option String) :
    Stands (scalar text style tag) (scalar text style tag)
  | sequence (items : List Yaml) (closed : Bool) :
    Stands (sequence items closed) (sequence items closed)
  | mapping (entries : List (Yaml × Yaml)) (closed : Bool) :
    Stands (mapping entries closed) (mapping entries closed)
  | absent : Stands absent absent
  | anchored (n : Nat) (v : Yaml) : Stands (anchored n v) v
  | repeated {n : Nat} {v : Yaml} {before after : Anchors} : known = before ++ (n, v) :: after →
    (∀ a ∈ before, a.1 ≠ n) → Stands (repeated n) v

/-- Any scalar stands for its text. -/
def IsText (v : Yaml) (s : String) : Prop := ∃ style tag, Stands known v (scalar s style tag)

/-- A scalar that may stand for more than its text: one without quotes, or a literal block with a
tag for it. -/
def Typed (type : String) (style : Style) (tag : Option String) : Prop :=
  style = .plain ∨ style = .literal ∧ tag = some ("tag:yaml.org,2002:" ++ type)

def IsTruth (v : Yaml) (b : Bool) : Prop :=
  ∃ text style tag, Stands known v (scalar text style tag) ∧ Typed "bool" style tag ∧
    text ∈ if b then ["true", "True", "TRUE"] else ["false", "False", "FALSE"]

def IsNumber (v : Yaml) (n : Nat) : Prop :=
  ∃ text style tag, Stands known v (scalar text style tag) ∧ Typed "int" style tag ∧
    Numeral text.toList n

/-- The values that name a leader, or say that there is none. -/
def NamesLeader (v : Yaml) : Option String → Prop
  | none =>
    Stands known v absent ∨
      (∃ text ∈ ["", "null", "Null", "NULL", "~"], Stands known v (scalar text .plain none)) ∨
      ∃ text ∈ ["null", "Null", "NULL", "~"],
        Stands known v (scalar text .plain (some "tag:yaml.org,2002:null"))
  | some id => ∃ style tag, Stands known v (scalar id style tag) ∧
    (style = .plain → tag ≠ some "tag:yaml.org,2002:null" ∧
      (tag = none → id ∉ ["", "null", "Null", "NULL", "~"]))

/-- A node that is left out. -/
def Omitted (v : Yaml) : Prop :=
  Stands known v absent ∨ ∃ tag, Stands known v (scalar "" .plain tag)

/-- The entries of a node that stands for a mapping; one that is left out has none. -/
def Holds (v : Yaml) (entries : List (Yaml × Yaml)) : Prop :=
  Stands known v (mapping entries true) ∨ Omitted known v ∧ entries = []

/-- The items of a node that stands for a sequence; one that is left out has none. -/
def Lists (v : Yaml) (items : List Yaml) : Prop :=
  Stands known v (sequence items true) ∨ Omitted known v ∧ items = []

/-- The nodes that break off nowhere but at their end. -/
inductive Complete : Yaml → Prop where
  | scalar (text : String) (style : Style) (tag : Option String) : Complete (scalar text style tag)
  | sequence (items : List Yaml) : Complete (sequence items true)
  | mapping (entries : List (Yaml × Yaml)) : Complete (mapping entries true)
  | anchored (n : Nat) {v : Yaml} : Complete v → Complete (anchored n v)
  | repeated (n : Nat) : Complete (repeated n)
  | absent : Complete absent

variable {known} {v w : Yaml}

theorem resolve_eq_iff (readable : w ≠ cut) : resolve known v = w ↔ Stands known v w := by
  constructor
  · rintro rfl
    cases v with
    | repeated n =>
      rw [resolve] at readable ⊢
      cases found : known.lookup n with
      | none =>
        rw [found] at readable
        exact absurd rfl readable
      | some node =>
        obtain ⟨before, after, same, others⟩ := List.lookup_eq_some_iff.mp found
        exact .repeated same fun a mem => (bne_iff_ne.mp (others a mem)).symm
    | cut => exact absurd rfl readable
    | _ => constructor
  · intro stands
    cases stands with
    | repeated same others =>
      rw [resolve, List.lookup_eq_some_iff.mpr ⟨_, _, same, fun a mem => ?_⟩]
      · rfl
      · exact bne_iff_ne.mpr (others a mem).symm
    | _ => rfl

theorem stands_scalar {text : String} {style : Style} {tag : Option String} :
    Stands known v (scalar text style tag) ↔ resolve known v = scalar text style tag :=
  (resolve_eq_iff (by nofun)).symm

theorem stands_sequence {items : List Yaml} {closed : Bool} :
    Stands known v (sequence items closed) ↔ resolve known v = sequence items closed :=
  (resolve_eq_iff (by nofun)).symm

theorem stands_mapping {entries : List (Yaml × Yaml)} {closed : Bool} :
    Stands known v (mapping entries closed) ↔ resolve known v = mapping entries closed :=
  (resolve_eq_iff (by nofun)).symm

theorem stands_absent : Stands known v absent ↔ resolve known v = absent :=
  (resolve_eq_iff (by nofun)).symm

theorem omitted_iff : Omitted known v ↔ (resolve known v).isOmitted = true := by
  simp only [Omitted, stands_absent, stands_scalar]
  cases resolve known v <;> simp [isOmitted]

theorem holds_iff {entries : List (Yaml × Yaml)} :
    Holds known v entries ↔
      resolve known v = mapping entries true ∨ (resolve known v).isOmitted ∧ entries = [] :=
  or_congr stands_mapping (and_congr_left' omitted_iff)

theorem lists_iff {items : List Yaml} :
    Lists known v items ↔
      resolve known v = sequence items true ∨ (resolve known v).isOmitted ∧ items = [] :=
  or_congr stands_sequence (and_congr_left' omitted_iff)

theorem mismatch_toOption {α : Type} (v : Yaml) (expected : String) :
    (v.mismatch expected : Read α).toOption = none := by
  cases v <;> rfl

theorem readTextAs_eq_some {expected s : String} :
    (readTextAs known expected v).toOption = some s ↔ IsText known v s := by
  simp only [IsText, stands_scalar, readTextAs]
  cases resolve known v with
  | scalar text style tag => simp [Except.toOption]
  | _ => simp [mismatch_toOption]

theorem boolean?_eq_some {s : String} {b : Bool} :
    boolean? s = some b ↔
      s ∈ if b then ["true", "True", "TRUE"] else ["false", "False", "FALSE"] := by
  simp only [boolean?]
  constructor
  · intro read
    split_ifs at read <;> cases read <;> simpa
  · intro mem
    cases b <;> simp only [if_true, Bool.false_eq_true, if_false, List.mem_cons,
      List.not_mem_nil, or_false] at mem <;> rcases mem with rfl | rfl | rfl <;> decide

theorem fits_iff {type : String} {style : Style} {tag : Option String} :
    fits type style tag = true ↔ Typed type style tag := by
  simp only [fits, Bool.or_eq_true, Bool.and_eq_true, beq_iff_eq]
  exact Iff.rfl

theorem readBool_eq_some (known : Anchors) (v : Yaml) (b : Bool) :
    (readBool known v).toOption = some b ↔ IsTruth known v b := by
  simp only [IsTruth, stands_scalar, readBool, ← boolean?_eq_some, ← fits_iff]
  cases resolve known v with
  | scalar text style tag =>
    cases fit : fits "bool" style tag with
    | false => simp [fit, mismatch_toOption]
    | true =>
      cases read : boolean? text with
      | none => simp [fit, read, mismatch_toOption]
      | some b => simp [fit, read, Except.toOption]
  | _ => simp [mismatch_toOption]

theorem readNat_eq_some {bits n : Nat} :
    (readNat known bits v).toOption = some n ↔ IsNumber known v n ∧ n < 2 ^ bits := by
  simp only [IsNumber, stands_scalar, readNat, ← whole?_eq_some, ← fits_iff]
  cases resolve known v with
  | scalar text style tag =>
    cases fit : fits "int" style tag with
    | false => simp [fit, mismatch_toOption]
    | true =>
      rcases read : whole? text.toList with _ | ⟨_ | _, m⟩
      · simp [fit, read, mismatch_toOption]
      · suffices (if m < 1 <<< bits then Except.ok m
            else if m < UInt64.size then Read.wrong (.invalidValue (.integer m) _)
            else mismatch _ (scalar text style tag)).toOption = some n ↔ m = n ∧ n < 2 ^ bits by
          simpa [fit, read]
        rw [Nat.one_shiftLeft]
        split_ifs with small
        · simp only [Except.toOption, Option.some.injEq]
          exact ⟨fun same => ⟨same, same ▸ small⟩, And.left⟩
        all_goals
          refine iff_of_false ?_ fun both => small (both.1 ▸ both.2)
        · simp [Read.wrong, Except.toOption]
        · simp [mismatch_toOption]
      · simp [fit, read, mismatch_toOption]
  | _ => simp [mismatch_toOption]

theorem isWhole_iff : v.isWhole = true ↔ Complete v := by
  constructor
  · intro whole
    induction v using isWhole.induct with
    | case1 items closed =>
      obtain rfl : closed = true := whole
      exact .sequence items
    | case2 entries closed =>
      obtain rfl : closed = true := whole
      exact .mapping entries
    | case3 n v ih => exact .anchored n (ih whole)
    | case4 => cases whole
    | case5 v notSequence notMapping notAnchored notCut =>
      cases v with
      | sequence items closed => cases notSequence items closed rfl
      | mapping entries closed => cases notMapping entries closed rfl
      | anchored n v => cases notAnchored n v rfl
      | cut => cases notCut rfl
      | _ => constructor
  · intro complete
    induction complete with
    | anchored n _ ih => exact ih
    | _ => rfl

theorem map_readNat_eq_some {α : Type} {bits : Nat} {ofNat : Nat → α} {toNat : α → Nat}
    (below : ∀ a, toNat a < 2 ^ bits) (ofNat_toNat : ∀ a, ofNat (toNat a) = a)
    (toNat_ofNat : ∀ n, n < 2 ^ bits → toNat (ofNat n) = n) {a : α} :
    (ofNat <$> readNat known bits v).toOption = some a ↔ IsNumber known v (toNat a) := by
  trans (readNat known bits v).toOption.map ofNat = some a
  · cases readNat known bits v <;> rfl
  simp only [Option.map_eq_some_iff, readNat_eq_some]
  constructor
  · rintro ⟨n, ⟨isNumber, small⟩, rfl⟩
    rwa [toNat_ofNat n small]
  · exact fun isNumber => ⟨toNat a, ⟨isNumber, below a⟩, ofNat_toNat a⟩

end Yaml

open Yaml (IsNumber)

variable (known : Yaml.Anchors) (v : Yaml)

theorem readUInt16_eq_some (n : UInt16) :
    (readUInt16 known v).toOption = some n ↔ IsNumber known v n.toNat :=
  Yaml.map_readNat_eq_some UInt16.toNat_lt (fun _ => UInt16.ofNat_toNat)
    fun _ => UInt16.toNat_ofNat_of_lt'

theorem readUInt32_eq_some (n : UInt32) :
    (readUInt32 known v).toOption = some n ↔ IsNumber known v n.toNat :=
  Yaml.map_readNat_eq_some UInt32.toNat_lt (fun _ => UInt32.ofNat_toNat)
    fun _ => UInt32.toNat_ofNat_of_lt'

theorem readUInt64_eq_some (n : UInt64) :
    (readUInt64 known v).toOption = some n ↔ IsNumber known v n.toNat :=
  Yaml.map_readNat_eq_some UInt64.toNat_lt (fun _ => UInt64.ofNat_toNat)
    fun _ => UInt64.toNat_ofNat_of_lt'

end Vigil
