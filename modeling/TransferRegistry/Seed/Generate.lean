import TransferRegistry.Entropy

/-!
# Random seeds

`generateSeeds count length` draws `count` texts of `length` characters from `a` to `z` and `0` to `9`.
-/

namespace TransferRegistry

def seedCharset : List Char := "abcdefghijklmnopqrstuvwxyz0123456789".toList

/-- A random character of seeds. -/
def seedChar (e : Entropy) : Char × Entropy :=
  let (n, e) := e.below seedCharset.length
  (seedCharset.getD n 'a', e)

/-- `n` values drawn one after the other, in front of others in the reverse order. -/
def drawOnto {α : Type} (draw : Entropy → α × Entropy) (drawn : List α) (e : Entropy) : Nat → List α × Entropy
  | 0 => (drawn, e)
  | n + 1 =>
    let (a, e) := draw e
    drawOnto draw (a :: drawn) e n

/-- `n` values drawn one after the other. -/
def drawMany {α : Type} (draw : Entropy → α × Entropy) (n : Nat) (e : Entropy) : List α × Entropy :=
  let (drawn, e) := drawOnto draw [] e n
  (drawn.reverse, e)

def generateSeed (length : Nat) (e : Entropy) : String × Entropy :=
  let (cs, e) := drawMany seedChar length e
  (String.ofList cs, e)

def generateSeeds (count length : Nat) (e : Entropy) : List String × Entropy :=
  drawMany (generateSeed length) count e

end TransferRegistry
