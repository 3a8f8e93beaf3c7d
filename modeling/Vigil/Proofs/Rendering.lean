import Vigil.Proofs.Spelling
import Vigil.Json.Record

/-!
Values and their texts. The words of a value are read as that value, whatever it is part of; so a
text that spells them is read as the value, and what is written of a value is such a text.
-/

namespace Vigil.Json

mutual

/-- The words of a value. -/
def words : Json → List Token
  | null => [.null]
  | boolean value => [.boolean value]
  | number value => [.number value]
  | string value => [.string value]
  | array items _ => .openArray :: (itemWords items ++ [.closeArray])
  | object members _ => .openObject :: (memberWords members ++ [.closeObject])
  | broken => []

def itemWords : List Json → List Token
  | [] => []
  | [item] => words item
  | item :: rest => words item ++ .comma :: itemWords rest

def memberWords : List (Option String × Json) → List Token
  | [] => []
  | [(key, value)] => .string key :: .colon :: words value
  | (key, value) :: rest => .string key :: .colon :: (words value ++ .comma :: memberWords rest)

end

/-- What follows once a value is read that stands inside some arrays and objects. -/
def resume (v : Json) (rest : List Token) : List Frame → Json × Bool
  | [] => (v, rest.isEmpty)
  | frame :: outer => build rest (settle v (frame :: outer)) .more

theorem itemWords_cons (item next : Json) (items : List Json) :
    itemWords (item :: next :: items) = item.words ++ .comma :: itemWords (next :: items) := by
  simp only [itemWords]

theorem memberWords_cons (key : Option String) (value : Json) (next : Option String × Json)
    (members : List (Option String × Json)) :
    memberWords ((key, value) :: next :: members) =
      .string key :: .colon :: (value.words ++ .comma :: memberWords (next :: members)) := by
  simp only [memberWords]

/-- No value starts with the end of an array. -/
theorem words_head {depth : Nat} {v : Json} (readable : v.isReadable depth = true) :
    ∃ word more, v.words = word :: more ∧ word ≠ .closeArray := by
  cases v with
  | broken => simp [isReadable] at readable
  | _ => exact ⟨_, _, rfl, nofun⟩

theorem itemWords_head {depth : Nat} {item : Json} (readable : item.isReadable depth = true)
    (items : List Json) :
    ∃ word more, itemWords (item :: items) = word :: more ∧ word ≠ .closeArray := by
  obtain ⟨word, more, same, other⟩ := words_head readable
  cases items with
  | nil => exact ⟨word, more, same, other⟩
  | cons next items =>
    rw [itemWords_cons, same, List.cons_append]
    exact ⟨_, _, rfl, other⟩

theorem memberWords_head (member : Option String × Json) (members : List (Option String × Json)) :
    ∃ more, memberWords (member :: members) = .string member.1 :: more := by
  cases members with
  | nil => exact ⟨_, rfl⟩
  | cons next members =>
    rw [memberWords_cons]
    exact ⟨_, rfl⟩

section build

variable (rest : List Token) (outer : List Frame)

theorem build_closeArray (items : List Json) (expected : Expected)
    (may : expected = .itemOrEnd ∨ expected = .more) :
    build (.closeArray :: rest) (.array items :: outer) expected =
      resume (.array items.reverse true) rest outer := by
  rcases may with rfl | rfl <;> cases outer <;> rfl

theorem build_closeObject (members : List (Option String × Json)) (expected : Expected)
    (may : expected = .memberOrEnd ∨ expected = .more) :
    build (.closeObject :: rest) (.object members none :: outer) expected =
      resume (.object members.reverse true) rest outer := by
  rcases may with rfl | rfl <;> cases outer <;> rfl

theorem build_itemOrEnd {word : Token} (other : word ≠ .closeArray) :
    build (word :: rest) outer .itemOrEnd = build (word :: rest) outer .value := by
  cases word <;> first | rfl | contradiction

variable {depth : Nat}
  (inner : ∀ v : Json, v.isReadable depth = true → ∀ rest outer,
    build (v.words ++ rest) outer .value = resume v rest outer)
include inner

/-- The items of an array, of which some are read already. -/
theorem build_items {item : Json} {items : List Json}
    (readable : areReadable depth (item :: items) = true) (done : List Json) :
    build (itemWords (item :: items) ++ .closeArray :: rest) (.array done :: outer) .value =
      resume (.array (done.reverse ++ item :: items) true) rest outer := by
  induction items generalizing item done with
  | nil =>
    rw [areReadable, Bool.and_eq_true] at readable
    rw [itemWords, inner item readable.1, resume, settle, build_closeArray _ _ _ _ (.inr rfl),
      List.reverse_cons]
  | cons next items ih =>
    rw [areReadable, Bool.and_eq_true] at readable
    have others := ih readable.2 (item :: done)
    rw [List.reverse_cons, List.append_assoc, List.singleton_append] at others
    rw [itemWords_cons, List.append_assoc, inner item readable.1, resume, settle, List.cons_append]
    exact others

/-- The members of an object, of which some are read already. -/
theorem build_members {member : Option String × Json} {members : List (Option String × Json)}
    (readable : membersReadable depth (member :: members) = true)
    (done : List (Option String × Json)) :
    build (memberWords (member :: members) ++ .closeObject :: rest) (.object done none :: outer)
        .member =
      resume (.object (done.reverse ++ member :: members) true) rest outer := by
  induction members generalizing member done with
  | nil =>
    obtain ⟨key, value⟩ := member
    rw [membersReadable, Bool.and_eq_true, Bool.and_eq_true] at readable
    have first := inner value readable.1.2 (.closeObject :: rest) (.object done (some key) :: outer)
    rw [resume, settle, build_closeObject _ _ _ _ (.inr rfl), List.reverse_cons] at first
    rw [memberWords]
    exact first
  | cons next members ih =>
    obtain ⟨key, value⟩ := member
    rw [membersReadable, Bool.and_eq_true, Bool.and_eq_true] at readable
    have first := inner value readable.1.2
      (.comma :: (memberWords (next :: members) ++ .closeObject :: rest))
      (.object done (some key) :: outer)
    have others := ih readable.2 ((key, value) :: done)
    rw [List.reverse_cons, List.append_assoc, List.singleton_append] at others
    rw [memberWords_cons, List.cons_append, List.cons_append, List.append_assoc]
    exact first.trans others

end build

/-- The words of a value are read as the value, inside whatever is open. -/
theorem build_words {depth : Nat} {v : Json} (readable : v.isReadable depth = true)
    (rest : List Token) (outer : List Frame) :
    build (v.words ++ rest) outer .value = resume v rest outer := by
  induction depth generalizing v rest outer with
  | zero => cases v <;> first | (cases outer <;> rfl) | simp [isReadable] at readable
  | succ depth ih =>
    have inner := fun v readable => ih (v := v) readable
    cases v with
    | array items closed =>
      rw [isReadable, Bool.and_eq_true] at readable
      obtain ⟨inside, rfl⟩ := readable
      rw [words, List.cons_append, List.append_assoc]
      cases items with
      | nil => exact build_closeArray rest outer [] .itemOrEnd (.inl rfl)
      | cons item items =>
        have read := build_items rest outer inner inside []
        rw [areReadable, Bool.and_eq_true] at inside
        obtain ⟨word, more, same, other⟩ := itemWords_head inside.1 items
        rw [same, List.cons_append, ← build_itemOrEnd _ _ other, ← List.cons_append, ← same] at read
        exact read
    | object members closed =>
      rw [isReadable, Bool.and_eq_true] at readable
      obtain ⟨inside, rfl⟩ := readable
      rw [words, List.cons_append, List.append_assoc]
      cases members with
      | nil => exact build_closeObject rest outer [] .memberOrEnd (.inl rfl)
      | cons member members =>
        have read := build_members rest outer inner inside []
        -- Before its first member an object may also end, but a key is what comes.
        obtain ⟨more, same⟩ := memberWords_head member members
        rw [same] at read
        change build (memberWords (member :: members) ++ .closeObject :: rest) _ .memberOrEnd = _
        rw [same]
        exact read
    | broken => simp [isReadable] at readable
    | _ => cases outer <;> rfl

mutual

/-- The words of a value never hold two numbers side by side. -/
theorem words_separated : ∀ v : Json, Separated v.words
  | .null | .boolean _ | .number _ | .string _ => .singleton _
  | .array items _ => .cons rfl (.append (itemWords_separated items) rfl .nil)
  | .object members _ => .cons rfl (.append (memberWords_separated members) rfl .nil)
  | .broken => .nil

theorem itemWords_separated : ∀ items : List Json, Separated (itemWords items)
  | [] => .nil
  | [item] => words_separated item
  | item :: next :: items => by
    rw [itemWords_cons]
    exact .append (words_separated item) rfl (itemWords_separated (next :: items))

theorem memberWords_separated :
    ∀ members : List (Option String × Json), Separated (memberWords members)
  | [] => .nil
  | [(_, value)] => .cons rfl (.cons rfl (words_separated value))
  | (_, value) :: next :: members => by
    rw [memberWords_cons]
    exact .cons rfl (.cons rfl
      (.append (words_separated value) rfl (memberWords_separated (next :: members))))

end

/-- A text that spells the words of a value is read as the value, and nothing is left of it. -/
theorem parse_spells {depth : Nat} {v : Json} (readable : v.isReadable depth = true)
    {text : List Char} (spells : Spells v.words text) : parse (text.map some) = (v, true) := by
  have read := build_words readable [] []
  rw [List.append_nil] at read
  rw [parse, tokens_spells spells v.words_separated, read]
  rfl

theorem unit?_control : ∀ n < 0x20,
    unit? '0' '0' (Nat.digitChar (n / 16)) (Nat.digitChar (n % 16)) = some n := by
  decide

theorem written_quotedChar (c : Char) : Written c (quotedChar c) := by
  by_cases quote : c = '"'
  · exact quote ▸ .letter '"' '"' rfl
  by_cases slash : c = '\\'
  · exact slash ▸ .letter '\\' '\\' rfl
  rw [quotedChar, if_neg quote, if_neg slash]
  split
  · next same => exact same ▸ .letter '\x08' 'b' rfl
  split
  · next same => exact same ▸ .letter '\x0c' 'f' rfl
  split
  · next same => exact same ▸ .letter '\n' 'n' rfl
  split
  · next same => exact same ▸ .letter '\r' 'r' rfl
  split
  · next same => exact same ▸ .letter '\t' 't' rfl
  split
  · next low => exact .number c _ _ _ _ (unit?_control c.toNat low)
  · next high => exact .plain c quote slash high

/-- What is written of a string is one of its texts. -/
theorem spelled_quoted (s : String) : Spelled (.string (some s)) (quoted s) := by
  have writes (chars : List Char) : Writes chars (chars.flatMap quotedChar) := by
    induction chars with
    | nil => exact .nil
    | cons c chars ih => exact .cons (written_quotedChar c) ih
  have spelled := Spelled.string (writes s.toList)
  rwa [String.ofList_toList] at spelled

theorem spells_text (s : String) : Spells (text s).words (text s).render := by
  have spells := Spells.word (spelled_quoted s) .nil
  rwa [List.append_nil] at spells

/-- What is written of a record spells it, if that holds of all its members. -/
theorem spells_record {members : List (String × Json)}
    (inner : ∀ m ∈ members, Spells m.2.words m.2.render) :
    Spells (record members).words (record members).render := by
  have one (m : String × Json) (here : Spells m.2.words m.2.render) :
      Spells (.string (some m.1) :: .colon :: m.2.words) (quoted m.1 ++ ':' :: m.2.render) :=
    .word (spelled_quoted m.1) (.word .colon here)
  have all : Spells (memberWords (members.map fun m => (some m.1, m.2)))
      (renderMembers (members.map fun m => (some m.1, m.2))) := by
    induction members with
    | nil => exact .nil
    | cons m members ih =>
      obtain ⟨here, others⟩ := List.forall_mem_cons.mp inner
      have rest := ih others
      cases members with
      | nil => exact one m here
      | cons next members =>
        simp only [List.map_cons] at rest ⊢
        rw [memberWords_cons]
        have spells := (one m here).append (.word .comma rest)
        simpa [renderMembers] using spells
  have opened := Spells.word .openObject (all.append (.word .closeObject .nil))
  exact opened

/-- A reader of a text that spells the words of a value gets the value. -/
theorem readText_spells {α : Type} {depth : Nat} {v : Json} (readable : v.isReadable depth = true)
    {text : List Char} (spells : Spells v.words text) (read : Json → Read α) :
    readText read (text.map some) = read v := by
  rw [readText, parse_spells readable spells]
  dsimp only
  cases read v <;> rfl

end Vigil.Json
