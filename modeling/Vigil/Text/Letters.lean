/-!
The parts that texts are read from: the letters of bytes, and digits with the numbers that they
write.
-/

namespace Vigil

/-- Ten to some power. -/
def tenTo (n : Nat) : Nat := Nat.pow 10 n

namespace Text

/-- The value of a digit; letters count in either case. -/
def digit? (radix : Nat) (c : Char) : Option Nat :=
  let value :=
    if '0' ≤ c ∧ c ≤ '9' then c.toNat - '0'.toNat
    else if 'a' ≤ c ∧ c ≤ 'f' then c.toNat - 'a'.toNat + 10
    else if 'A' ≤ c ∧ c ≤ 'F' then c.toNat - 'A'.toNat + 10
    else radix
  if value < radix then some value else none

/-- The number that some digits write; there is at least one, and nothing else. -/
def number? (radix : Nat) (cs : List Char) : Option Nat :=
  if cs.isEmpty then none else cs.foldlM (fun n c => (digit? radix c).map (n * radix + ·)) 0

/-- The character that some bytes start with, and the number of its bytes. -/
def firstChar? (bytes : List UInt8) : Option (Char × Nat) :=
  [1, 2, 3, 4].findSome? fun n =>
    match (String.fromUTF8? ⟨(bytes.take n).toArray⟩).map String.toList with
    | some [c] => some (c, n)
    | _ => none

/-- Puts the letters of some bytes, of which the first few are read already, behind others. -/
def lettersOnto (done : List (Option Char)) : Nat → List UInt8 → List (Option Char)
  | _, [] => done.reverse
  | skip + 1, _ :: rest => lettersOnto done skip rest
  | 0, b :: rest =>
    match firstChar? (b :: rest) with
    | some (c, n) => lettersOnto (some c :: done) (n - 1) rest
    | none => lettersOnto (none :: done) 0 rest

/-- The characters of a text, with a gap for each byte that belongs to none. -/
def letters (bytes : ByteArray) : List (Option Char) :=
  match String.fromUTF8? bytes with
  | some s => s.toList.map some
  | none => lettersOnto [] 0 bytes.toList

end Text

end Vigil
