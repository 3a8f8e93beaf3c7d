/-!
Cluster members. A node keeps its id and address over restarts and draws a new ephemeral id each
time it starts, so two incarnations of one node are different values.
-/

namespace Vigil

/-- One incarnation of a cluster member. -/
structure Node where
  id : String
  ephemeralId : String
  address : String
deriving DecidableEq, Repr, Inhabited

/-- The text of a node gives its three parts, each in braces. -/
def Node.text (n : Node) : String :=
  "\x7b" ++ n.id ++ "\x7d\x7b" ++ n.ephemeralId ++ "\x7d\x7b" ++ n.address ++ "\x7d"

/-- The name of a cluster; the empty name stands for none. -/
abbrev ClusterName := String

namespace EphemeralId

def byteDigits (b : UInt8) : List Char :=
  [Nat.digitChar (b.toNat / 16), Nat.digitChar (b.toNat % 16)]

/-- Marks sixteen random bytes as a random identifier: the version digit is 4, and the two high
bits of the ninth byte are `10`. -/
def mark (bytes : List UInt8) : List UInt8 :=
  (bytes.modify 6 fun b => b &&& 0x0f ||| 0x40).modify 8 fun b => b &&& 0x3f ||| 0x80

/-- The identifier drawn from sixteen random bytes, in lower case hexadecimal digits. -/
def ofBytes (bytes : List UInt8) : String :=
  String.ofList ((mark bytes).flatMap byteDigits)

end EphemeralId

/-- A new incarnation, from sixteen random bytes. -/
def Node.fresh (id address : String) (bytes : List UInt8) : Node :=
  ⟨id, EphemeralId.ofBytes bytes, address⟩

end Vigil
