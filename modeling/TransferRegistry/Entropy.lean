import TransferRegistry.Crypto.Words

/-!
# Random choices

`Entropy` is an endless supply of random bytes with the place up to which it is used. Whatever needs a random value
takes it as an argument and gives it back further on, so what a program does is a function of its supply.
-/

namespace TransferRegistry

open Crypto (Bytes)

/-- Random bytes, and how many of them are used. -/
structure Entropy where
  stream : Nat → UInt8
  used : Nat

namespace Entropy

instance : Inhabited Entropy := ⟨⟨fun _ => 0, 0⟩⟩

def take (n : Nat) (e : Entropy) : Bytes × Entropy :=
  ((List.range n).map fun i => e.stream (e.used + i), { e with used := e.used + n })

@[simp] theorem length_take (n : Nat) (e : Entropy) : (e.take n).1.length = n := by simp [take]

/-- A number below `n`, for a positive `n`, from eight bytes. -/
def below (n : Nat) (e : Entropy) : Nat × Entropy :=
  let (bytes, e) := e.take 8
  (bytes.foldl (fun (x : Nat) (b : UInt8) => x * 256 + b.toNat) 0 % n, e)

theorem below_lt {n : Nat} (h : 0 < n) (e : Entropy) : (e.below n).1 < n := Nat.mod_lt _ h

end Entropy

end TransferRegistry
