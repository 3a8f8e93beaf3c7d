import Vigil.Json.Token

/-!
Numbers and their texts. Digits are read as far as they go, so the text of a number is read as that
number where nothing follows that a number could go on with.
-/

namespace Vigil.Json

/-- Whether a text does not go on with a character of some kind. -/
def Stops (kind : Char → Bool) (rest : List Letter) : Prop :=
  ∀ c, rest.head? = some (some c) → kind c = false

/-- Whether a number can go on with a character. -/
def continues (c : Char) : Bool := isDigit c || c = '.' || c = 'e' || c = 'E'

theorem Stops.mono {kind kind' : Char → Bool} {rest : List Letter}
    (implies : ∀ c, kind' c = true → kind c = true) (stops : Stops kind rest) :
    Stops kind' rest := by
  intro c head
  cases held : kind' c with
  | false => rfl
  | true => exact absurd (implies c held) (by simp [stops c head])

structure Digits (ds : List Char) : Prop where
  nonempty : ds ≠ []
  all : ∀ d ∈ ds, isDigit d = true

/-- The digits behind the point, and a text of them. -/
inductive FractionText : List Char → List Char → Prop where
  | none : FractionText [] []
  | digits {ds : List Char} : Digits ds → FractionText ds ('.' :: ds)

/-- Whether an exponent is below zero, and a text of that. -/
inductive SignText : Bool → List Char → Prop where
  | none : SignText false []
  | plus : SignText false ['+']
  | minus : SignText true ['-']

inductive ExponentText : Option (Bool × List Char) → List Char → Prop where
  | none : ExponentText none []
  | digits {e : Char} {falling : Bool} {sign ds : List Char} : e = 'e' ∨ e = 'E' →
      SignText falling sign → Digits ds → ExponentText (some (falling, ds)) (e :: (sign ++ ds))

/-- A number and a text of it, apart from its sign. The digits before the point start with a zero
only if that is all. -/
inductive NumeralText : Numeral → List Char → Prop where
  | mk {negative : Bool} {whole fraction : List Char} {exponent : Option (Bool × List Char)}
      {fractionText exponentText : List Char} : Digits whole →
      (whole.head? = some '0' → whole = ['0']) → FractionText fraction fractionText →
      ExponentText exponent exponentText →
      NumeralText ⟨negative, whole, fraction, exponent⟩ (whole ++ (fractionText ++ exponentText))

section

variable {rest : List Letter}

theorem digitsOnto_append {ds : List Char} (digits : ∀ d ∈ ds, isDigit d = true)
    (stops : Stops isDigit rest) (done : List Char) :
    digitsOnto done (ds.map some ++ rest) = (ds.reverse ++ done, rest) := by
  induction ds generalizing done with
  | nil =>
    match rest with
    | [] => rfl
    | none :: _ => rfl
    | some c :: rest =>
      have other := stops c rfl
      simp [digitsOnto, other]
  | cons d ds ih =>
    obtain ⟨here, others⟩ := List.forall_mem_cons.mp digits
    rw [List.map_cons, List.cons_append, digitsOnto, if_pos here, ih others, List.reverse_cons,
      List.append_assoc]
    rfl

theorem lexDigits_append {ds : List Char} (digits : ∀ d ∈ ds, isDigit d = true)
    (stops : Stops isDigit rest) : lexDigits (ds.map some ++ rest) = (ds, rest) := by
  rw [lexDigits, digitsOnto_append digits stops, List.append_nil]
  simp only [List.reverse_reverse]

theorem lexWhole_append {ds : List Char} (digits : Digits ds)
    (alone : ds.head? = some '0' → ds = ['0']) (stops : Stops isDigit rest) :
    lexWhole (ds.map some ++ rest) = some (ds, rest) := by
  rw [lexWhole, lexDigits_append digits.all stops]
  match ds, digits.nonempty, alone with
  | [], nonempty, _ => exact absurd rfl nonempty
  | [d], _, _ =>
    split
    · next same => cases same
    · next same => cases same
    · rfl
  | d :: d' :: ds, _, alone =>
    split
    · next same => cases same
    · next same =>
      cases same
      cases alone rfl
    · rfl

theorem lexFraction_append {ds text : List Char} (written : FractionText ds text)
    (stops : Stops (fun c => isDigit c || c = '.') rest) :
    lexFraction (text.map some ++ rest) = some (ds, rest) := by
  cases written with
  | none =>
    match rest with
    | [] => rfl
    | none :: _ => rfl
    | some c :: rest =>
      have other : c ≠ '.' := by
        rintro rfl
        cases stops '.' rfl
      rw [List.map_nil, List.nil_append, lexFraction]
      rintro _ ⟨⟩
      exact other rfl
  | digits digits =>
    have noDigit : Stops isDigit rest := stops.mono (by simp +contextual)
    rw [List.map_cons, List.cons_append, lexFraction, lexDigits_append digits.all noDigit]
    match ds, digits.nonempty with
    | [], nonempty => exact absurd rfl nonempty
    | d :: ds, _ => rfl

theorem lexSign_append {falling : Bool} {sign ds : List Char} (written : SignText falling sign)
    (digits : Digits ds) :
    lexSign (sign.map some ++ (ds.map some ++ rest)) = (falling, ds.map some ++ rest) := by
  cases written with
  | none =>
    match ds, digits with
    | [], digits => exact absurd rfl digits.nonempty
    | d :: ds, digits =>
      have isDigit := digits.all d List.mem_cons_self
      rw [List.map_nil, List.nil_append, List.map_cons, List.cons_append, lexSign]
      · rintro _ ⟨⟩
        cases isDigit
      · rintro _ ⟨⟩
        cases isDigit
  | plus => rfl
  | minus => rfl

theorem lexExponent_append {exponent : Option (Bool × List Char)} {text : List Char}
    (written : ExponentText exponent text) (stops : Stops continues rest) :
    lexExponent (text.map some ++ rest) = some (exponent, rest) := by
  cases written with
  | none =>
    match rest with
    | [] => rfl
    | none :: _ => rfl
    | some c :: rest =>
      have other := stops c rfl
      simp only [continues, Bool.or_eq_false_iff, decide_eq_false_iff_not] at other
      rw [List.map_nil, List.nil_append, lexExponent, if_neg]
      rintro (same | same)
      · exact other.1.2 same
      · exact other.2 same
  | digits isE sign digits =>
    have noDigit : Stops isDigit rest := stops.mono (by simp +contextual [continues])
    rw [List.map_cons, List.cons_append, lexExponent, if_pos isE, List.map_append,
      List.append_assoc, lexSign_append sign digits]
    dsimp only
    rw [lexDigits_append digits.all noDigit]
    split
    · next same => exact absurd (congrArg Prod.fst same) digits.nonempty
    · next same =>
      cases same
      rfl

theorem ExponentText.stops {exponent : Option (Bool × List Char)} {text : List Char}
    (written : ExponentText exponent text) (stops : Stops continues rest) :
    Stops (fun c => isDigit c || c = '.') (text.map some ++ rest) := by
  cases written with
  | none => exact stops.mono (by simp +contextual [continues])
  | digits isE _ _ =>
    rintro _ ⟨⟩
    rcases isE with rfl | rfl <;> rfl

theorem FractionText.stops {fraction text : List Char} (written : FractionText fraction text)
    (stops : Stops (fun c => isDigit c || c = '.') rest) :
    Stops isDigit (text.map some ++ rest) := by
  cases written with
  | none => exact stops.mono (by simp +contextual)
  | digits _ =>
    rintro _ ⟨⟩
    rfl

/-- The text of a number is read as the number, if nothing follows that it could go on with. -/
theorem lexNumeral_append {n : Numeral} {text : List Char} (written : NumeralText n text)
    (stops : Stops continues rest) :
    lexNumeral n.negative (text.map some ++ rest) = some (n, rest) := by
  cases written with
  | mk whole alone fraction exponent =>
    have afterFraction := exponent.stops stops
    simp only [List.map_append, List.append_assoc, lexNumeral, Option.bind_eq_bind,
      lexWhole_append whole alone (fraction.stops afterFraction),
      lexFraction_append fraction afterFraction, lexExponent_append exponent stops,
      Option.bind_some]
    rfl

end

theorem lexWord_digit {c : Char} (digit : isDigit c = true) (rest : List Letter) :
    lexWord c rest = ((lexNumeral false (some c :: rest)).map
      fun (n, rest) => (Token.number n.value, rest)).getD (.stray, []) := by
  rw [lexWord]
  · simp only [digit, if_true]
  all_goals
    rintro rfl
    cases digit

/-- The text of a number with its sign. -/
def Numeral.signed (n : Numeral) (text : List Char) : List Char :=
  if n.negative then '-' :: text else text

theorem NumeralText.lex {n : Numeral} {text : List Char} (written : NumeralText n text) :
    ∃ c more, n.signed text = c :: more ∧ isBlank c = false ∧
      ∀ rest, Stops continues rest →
        lexWord c (more.map some ++ rest) = (.number n.value, rest) := by
  have read (rest : List Letter) := @lexNumeral_append rest n text written
  cases negative : n.negative with
  | true =>
    refine ⟨'-', text, by rw [Numeral.signed, if_pos negative], rfl, fun rest stops => ?_⟩
    rw [negative] at read
    simp only [lexWord, read rest stops]
    rfl
  | false =>
    obtain ⟨c, more, rfl, digit⟩ : ∃ c more, text = c :: more ∧ isDigit c = true := by
      cases written with
      | @mk _ whole _ _ _ _ digits _ _ _ =>
        match whole, digits with
        | [], digits => exact absurd rfl digits.nonempty
        | c :: whole, digits => exact ⟨c, _, rfl, digits.all c List.mem_cons_self⟩
    refine ⟨c, more, by rw [Numeral.signed, negative]; rfl, ?_, fun rest stops => ?_⟩
    · simp only [isBlank, decide_eq_false_iff_not]
      rintro (rfl | rfl | rfl | rfl) <;> cases digit
    · have all := read rest stops
      rw [negative, List.map_cons, List.cons_append] at all
      rw [lexWord_digit digit, all]
      rfl

end Vigil.Json
