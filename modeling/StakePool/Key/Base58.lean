import StakePool.Key
/-!
# Keys as text

A key is written in base 58, most significant digit first, over the alphabet that leaves out `0`,
`O`, `I` and `l`. A number does not show the zero bytes in front of it, so each of them is written as
one leading zero digit.
-/

namespace StakePool

namespace Base58

def alphabet : String := "123456789ABCDEFGHJKLMNPQRSTUVWXYZabcdefghijkmnopqrstuvwxyz"

def digit (value : Nat) : Char := alphabet.toList.getD value '1'

/-- The digits of a number, none of them for zero. -/
def digits (n : Nat) : List Char :=
  if n = 0 then [] else digits (n / 58) ++ [digit (n % 58)]
termination_by n

def encode (bytes : Bytes) : String :=
  String.ofList ((bytes.takeWhile (· == 0)).map (fun _ => digit 0) ++ digits (Bytes.toNat bytes.reverse))

end Base58

def Key.text (key : Key) : String := Base58.encode key.bytes

instance : ToString Key := ⟨Key.text⟩

end StakePool
