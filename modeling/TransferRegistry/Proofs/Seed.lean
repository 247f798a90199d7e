import Mathlib.Data.List.GetD
import TransferRegistry.Seed.Generate

/-!
# Random seeds

* `length_drawMany`, `forall_mem_drawMany`: as many values are drawn as were asked for, each of them as one draw gives it.
* `generateSeeds_spec`: as many seeds as were asked for, each of the length that was asked for, from the alphabet.
-/

namespace TransferRegistry

section

variable {α : Type} {draw : Entropy → α × Entropy}

theorem length_drawOnto (drawn : List α) (e : Entropy) (n : Nat) :
    (drawOnto draw drawn e n).1.length = drawn.length + n := by
  induction n generalizing drawn e with
  | zero => rfl
  | succ n ih =>
    rw [drawOnto, ih, List.length_cons]
    omega

theorem forall_mem_drawOnto {P : α → Prop} (hdraw : ∀ e, P (draw e).1) {drawn : List α} (h : ∀ a ∈ drawn, P a)
    (e : Entropy) (n : Nat) : ∀ a ∈ (drawOnto draw drawn e n).1, P a := by
  induction n generalizing drawn e with
  | zero => exact h
  | succ n ih => exact ih (List.forall_mem_cons.2 ⟨hdraw e, h⟩) (draw e).2

theorem length_drawMany (n : Nat) (e : Entropy) : (drawMany draw n e).1.length = n := by
  rw [drawMany, List.length_reverse, length_drawOnto]
  exact Nat.zero_add n

/-- What every draw gives, every drawn value has. -/
theorem forall_mem_drawMany {P : α → Prop} (hdraw : ∀ e, P (draw e).1) (n : Nat) (e : Entropy) :
    ∀ a ∈ (drawMany draw n e).1, P a := by
  intro a ha
  rw [drawMany, List.mem_reverse] at ha
  exact forall_mem_drawOnto hdraw (List.forall_mem_nil _) e n a ha

end

theorem seedChar_mem (e : Entropy) : (seedChar e).1 ∈ seedCharset := by
  have hlt : (e.below seedCharset.length).1 < seedCharset.length := e.below_lt (by decide)
  have hchar : (seedChar e).1 = seedCharset[(e.below seedCharset.length).1] := List.getD_eq_getElem _ _ hlt
  rw [hchar]
  exact List.getElem_mem hlt

/-- A text of some length from the alphabet of seeds. -/
structure IsSeed (length : Nat) (seed : String) : Prop where
  length_eq : seed.toList.length = length
  drawn : ∀ c ∈ seed.toList, c ∈ seedCharset

theorem isSeed_generateSeed (length : Nat) (e : Entropy) : IsSeed length (generateSeed length e).1 := by
  unfold generateSeed
  constructor
  · rw [String.toList_ofList, length_drawMany]
  · rw [String.toList_ofList]
    exact forall_mem_drawMany seedChar_mem length e

theorem generateSeeds_spec (count length : Nat) (e : Entropy) :
    (generateSeeds count length e).1.length = count ∧ ∀ seed ∈ (generateSeeds count length e).1, IsSeed length seed :=
  ⟨length_drawMany count e, forall_mem_drawMany (isSeed_generateSeed length) count e⟩

end TransferRegistry
