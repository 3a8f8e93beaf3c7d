import Mathlib.Data.List.Chain
import Vigil.Json.Parse
import Vigil.Proofs.Numerals

/-!
Texts and the words that they spell. Between words there may be blanks, and a character of a string
may be written as it is, by a letter behind a backslash, or by its number. Every text that spells
some words is read as these words, if no two of them are numbers side by side.
-/

namespace Vigil.Json

/-- The ways in which a character can be written inside a string. -/
inductive Written : Char → List Char → Prop where
  | plain (c : Char) : c ≠ '"' → c ≠ '\\' → ¬ c.val < 0x20 → Written c [c]
  | letter (c e : Char) : escape? e = some c → Written c ['\\', e]
  | number (c a b d e : Char) : unit? a b d e = some c.toNat → Written c ['\\', 'u', a, b, d, e]
  /-- A character beyond 16 bits is written as two halves. -/
  | halves (c a b d e a' b' d' e' : Char) (u v : Nat) :
      unit? a b d e = some u → unit? a' b' d' e' = some v →
      StringSoFar.isFirstHalf u = true → StringSoFar.isSecondHalf v = true →
      c.toNat = 0x10000 + (u - 0xd800) * 0x400 + (v - 0xdc00) →
      Written c ['\\', 'u', a, b, d, e, '\\', 'u', a', b', d', e']

/-- Characters and a text of them inside a string. -/
inductive Writes : List Char → List Char → Prop where
  | nil : Writes [] []
  | cons {c : Char} {chars first text : List Char} : Written c first → Writes chars text →
      Writes (c :: chars) (first ++ text)

/-- A word and a text of it. -/
inductive Spelled : Token → List Char → Prop where
  | openArray : Spelled .openArray ['[']
  | closeArray : Spelled .closeArray [']']
  | openObject : Spelled .openObject ['\x7b']
  | closeObject : Spelled .closeObject ['\x7d']
  | comma : Spelled .comma [',']
  | colon : Spelled .colon [':']
  | null : Spelled .null ['n', 'u', 'l', 'l']
  | trueWord : Spelled (.boolean true) ['t', 'r', 'u', 'e']
  | falseWord : Spelled (.boolean false) ['f', 'a', 'l', 's', 'e']
  | string {chars text : List Char} : Writes chars text →
      Spelled (.string (some (String.ofList chars))) ('"' :: (text ++ ['"']))
  | number {n : Numeral} {text : List Char} : NumeralText n text →
      Spelled (.number n.value) (n.signed text)

/-- Words and a text of them, in which there may be blanks. -/
inductive Spells : List Token → List Char → Prop where
  | nil : Spells [] []
  | blank {words : List Token} {text : List Char} (c : Char) : isBlank c = true →
      Spells words text → Spells words (c :: text)
  | word {word : Token} {first : List Char} {words : List Token} {text : List Char} :
      Spelled word first → Spells words text → Spells (word :: words) (first ++ text)

def Token.isNumber : Token → Bool
  | .number _ => true
  | _ => false

/-- No number stands right behind another one. -/
def Separated (words : List Token) : Prop :=
  words.IsChain fun a b => ¬(a.isNumber = true ∧ b.isNumber = true)

theorem Separated.cons {word : Token} {words : List Token} (solid : word.isNumber = false)
    (separated : Separated words) : Separated (word :: words) :=
  List.isChain_cons.mpr ⟨fun _ _ both => by simp [solid] at both, separated⟩

theorem Separated.append {words words' : List Token} {word : Token} (separated : Separated words)
    (solid : word.isNumber = false) (separated' : Separated words') :
    Separated (words ++ word :: words') := by
  refine List.isChain_append.mpr ⟨separated, separated'.cons solid, ?_⟩
  rintro _ _ _ ⟨⟩ both
  simp [solid] at both

theorem isFirstHalf_toNat (c : Char) : StringSoFar.isFirstHalf c.toNat = false := by
  have valid := c.valid
  simp only [UInt32.isValidChar, Nat.isValidChar] at valid
  simp only [StringSoFar.isFirstHalf, Char.toNat, decide_eq_false_iff_not]
  omega

theorem isSecondHalf_toNat (c : Char) : StringSoFar.isSecondHalf c.toNat = false := by
  have valid := c.valid
  simp only [UInt32.isValidChar, Nat.isValidChar] at valid
  simp only [StringSoFar.isSecondHalf, Char.toNat, decide_eq_false_iff_not]
  omega

namespace StringSoFar

variable (done : List Char)

theorem push_some (c : Char) :
    push { chars := some done } c = { chars := some (c :: done) } := rfl

theorem pushUnit_toNat (c : Char) :
    pushUnit { chars := some done } c.toNat = { chars := some (c :: done) } := by
  simp only [pushUnit, isFirstHalf_toNat, isSecondHalf_toNat, Bool.false_eq_true, if_false,
    push_some, Char.ofNat_toNat]

theorem pushUnit_halves {c : Char} {u v : Nat} (first : isFirstHalf u = true)
    (second : isSecondHalf v = true)
    (same : c.toNat = 0x10000 + (u - 0xd800) * 0x400 + (v - 0xdc00)) :
    pushUnit (pushUnit { chars := some done } u) v = { chars := some (c :: done) } := by
  simp only [pushUnit, first, second, if_true, ← same, Char.ofNat_toNat, Option.map_some]

end StringSoFar

/-- However a character is written, it is read as itself. -/
theorem lexString_written {c : Char} {text : List Char} (written : Written c text)
    (done : List Char) (rest : List Letter) :
    lexString { chars := some done } (text.map some ++ rest) =
      lexString { chars := some (c :: done) } rest := by
  cases written with
  | plain quote slash high =>
    simp only [List.map_cons, List.map_nil, List.singleton_append]
    rw [lexString]
    · simp only [slash, high, or_self, if_false, StringSoFar.push_some]
    · exact quote
    · exact fun _ _ _ _ _ _ => slash
    · exact fun _ _ _ => slash
  | letter e means =>
    -- The letter of a number stands for no character.
    have other : e ≠ 'u' := by
      rintro rfl
      cases means
    simp only [List.map_cons, List.map_nil, List.cons_append, List.nil_append]
    rw [lexString, means]
    · rfl
    · exact fun _ _ _ _ _ _ => other
  | number a b d e value =>
    simp only [List.map_cons, List.map_nil, List.cons_append, List.nil_append]
    rw [lexString, value]
    simp only [StringSoFar.pushUnit_toNat]
  | halves a b d e a' b' d' e' u v value value' first second same =>
    simp only [List.map_cons, List.map_nil, List.cons_append, List.nil_append]
    rw [lexString, value]
    dsimp only
    rw [lexString, value']
    simp only [StringSoFar.pushUnit_halves done first second same]

theorem lexString_writes {chars text : List Char} (writes : Writes chars text) (done : List Char)
    (rest : List Letter) :
    lexString { chars := some done } (text.map some ++ some '"' :: rest) =
      some (some (String.ofList (done.reverse ++ chars)), rest) := by
  induction writes generalizing done with
  | nil => simp [lexString, StringSoFar.finish]
  | cons written _ ih =>
    rw [List.map_append, List.append_assoc, lexString_written written, ih]
    simp

/-- A text of a word is not empty, starts with no blank, and is read as the word, whatever follows
it; only a number has to end there. -/
theorem Spelled.lex {word : Token} {text : List Char} (spelled : Spelled word text) :
    ∃ c more, text = c :: more ∧ isBlank c = false ∧
      (word.isNumber = false → continues c = false) ∧
      ∀ rest, (word.isNumber = true → Stops continues rest) →
        lexWord c (more.map some ++ rest) = (word, rest) := by
  cases spelled with
  | string writes =>
    refine ⟨_, _, rfl, rfl, fun _ => rfl, fun rest _ => ?_⟩
    have read := lexString_writes writes [] rest
    simp only [lexWord, List.map_append, List.map_cons, List.map_nil, List.append_assoc,
      List.singleton_append]
    rw [read]
    rfl
  | number written =>
    obtain ⟨c, more, same, solid, lex⟩ := written.lex
    exact ⟨c, more, same, solid, (by simp [Token.isNumber]),
      fun rest stops => lex rest (stops rfl)⟩
  | _ => exact ⟨_, _, rfl, rfl, fun _ => rfl, fun rest _ => rfl⟩

/-- A number ends where no number follows. -/
theorem Spells.stops {words : List Token} {text : List Char} (spells : Spells words text)
    (other : ∀ word ∈ words.head?, word.isNumber = false) : Stops continues (text.map some) := by
  cases spells with
  | nil =>
    intro _ head
    cases head
  | blank c blank _ =>
    rintro _ ⟨⟩
    simp only [isBlank, decide_eq_true_eq] at blank
    rcases blank with rfl | rfl | rfl | rfl <;> rfl
  | word spelled _ =>
    obtain ⟨c, more, rfl, -, ends, -⟩ := spelled.lex
    rintro _ ⟨⟩
    exact ends (other _ rfl)

theorem lexOnto_spells {words : List Token} {text : List Char} (spells : Spells words text)
    (separated : Separated words) {fuel : Nat} (enough : text.length < fuel) (read : List Token) :
    lexOnto fuel read (text.map some) = words.reverse ++ read := by
  induction spells generalizing fuel read with
  | nil =>
    obtain ⟨fuel, rfl⟩ := Nat.exists_eq_add_one_of_ne_zero (Nat.ne_of_gt enough)
    rfl
  | blank c blank _ ih =>
    obtain ⟨fuel, rfl⟩ := Nat.exists_eq_add_one_of_ne_zero (Nat.ne_zero_of_lt enough)
    rw [List.length_cons, Nat.add_lt_add_iff_right] at enough
    rw [List.map_cons, lexOnto, if_pos blank, ih separated enough]
  | word spelled spells ih =>
    obtain ⟨c, more, rfl, solid, -, lex⟩ := spelled.lex
    obtain ⟨fuel, rfl⟩ := Nat.exists_eq_add_one_of_ne_zero (Nat.ne_zero_of_lt enough)
    obtain ⟨apart, separated⟩ := List.isChain_cons.mp separated
    rw [List.cons_append, List.length_cons, List.length_append] at enough
    rw [List.cons_append, List.map_cons, List.map_append, lexOnto, solid, lex]
    · simp only [Bool.false_eq_true, if_false]
      rw [ih separated (by omega), List.reverse_cons, List.append_assoc]
      rfl
    · intro isNumber
      refine spells.stops fun word first => ?_
      simpa [isNumber] using apart word first

/-- A text is read as the words that it spells. -/
theorem tokens_spells {words : List Token} {text : List Char} (spells : Spells words text)
    (separated : Separated words) : tokens (text.map some) = words := by
  rw [tokens, lexOnto_spells spells separated (by simp), List.append_nil, List.reverse_reverse]

theorem Spells.append {words words' : List Token} {text text' : List Char}
    (spells : Spells words text) (spells' : Spells words' text') :
    Spells (words ++ words') (text ++ text') := by
  induction spells with
  | nil => exact spells'
  | blank c blank _ ih => exact .blank c blank ih
  | word spelled _ ih =>
    rw [List.cons_append, List.append_assoc]
    exact .word spelled ih

end Vigil.Json
