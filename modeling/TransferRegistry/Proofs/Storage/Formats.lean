import TransferRegistry.Proofs.Storage.Document

/-!
# Stored forms that are read as they were written

* `Json.masked`: a value without what is written of its ratios, which alone may be read as another number.
* `Rated`: types whose codec keeps all but ratios, in the value that is read and in what is written of it again.
* `RoundTrips`, `roundTrips`: a value that is written in either layout is read as a value that differs in ratios alone
  and is written alike. `roundTrips_stored` says so of all that is stored.
-/

namespace TransferRegistry

open Crypto (Bytes)
open Json (Codec Faithful reread toJson fromJson?)

/-! ## Ratios in what is written -/

namespace Json

mutual

/-- The value with null for each member that is named as the ratio of an item. -/
def masked : Json → Json
  | .arr es => .arr (maskedElements es)
  | .obj ms => .obj (maskedMembers ms)
  | v => v

def maskedElements : List Json → List Json
  | [] => []
  | e :: es => masked e :: maskedElements es

def maskedMembers : List (Text × Json) → List (Text × Json)
  | [] => []
  | (name, v) :: ms => (name, if name = some "ratio" then .null else masked v) :: maskedMembers ms

end

theorem maskedElements_eq_map (es : List Json) : maskedElements es = es.map masked := by
  induction es with
  | nil => rfl
  | cons e es ih => rw [maskedElements, ih, List.map_cons]

theorem maskedMembers_eq_map (ms : List (Text × Json)) :
    maskedMembers ms = ms.map fun m => (m.1, if m.1 = some "ratio" then .null else m.2.masked) := by
  induction ms with
  | nil => rfl
  | cons m ms ih => rw [maskedMembers, ih, List.map_cons]

/-- Records that agree in each member but the ratio are masked alike. -/
theorem masked_record_congr {ms others : List (String × Json)}
    (h : List.Forall₂ (fun m other => m.1 = other.1 ∧ (m.1 = "ratio" ∨ m.2.masked = other.2.masked)) ms others) :
    (record ms).masked = (record others).masked := by
  rw [record, record, masked, masked, maskedMembers_eq_map, maskedMembers_eq_map]
  refine congrArg Json.obj ?_
  induction h with
  | nil => rfl
  | @cons m other ms others hm _ ih =>
    obtain ⟨hname, hvalue⟩ := hm
    rw [List.map_cons, List.map_cons, List.map_cons, List.map_cons, ih, ← hname]
    rcases hvalue with hratio | hsame
    · rw [hratio, if_pos rfl, if_pos rfl]
    · rw [hsame]

end Json

/-! ## Types with ratios -/

/-- A type whose values are read as they were written, but for ratios. -/
class Rated (α : Type) [Codec α] [Faithful α] where
  /-- The value with every ratio zero. -/
  unrated : α → α
  unrated_reread : ∀ a : α, unrated (reread a) = unrated a
  masked_reread : ∀ a : α, (toJson (reread a)).masked = (toJson a).masked

export Rated (unrated)

instance : Rated Item where
  unrated i := { i with ratio := .zero }
  unrated_reread _ := rfl
  masked_reread i := by
    refine Json.masked_record_congr ?_
    -- the ratio is masked, and every other member is read as it was
    repeat first
      | exact .nil
      | refine .cons ⟨rfl, Or.inl rfl⟩ ?_
      | refine .cons ⟨rfl, Or.inr rfl⟩ ?_

instance : Rated HiddenRecord where
  unrated r := { r with item := unrated r.item }
  unrated_reread r := by
    show HiddenRecord.mk r.entry (unrated (reread r.item)) = _
    rw [Rated.unrated_reread]
  masked_reread r :=
    Json.masked_record_congr (.cons ⟨rfl, Or.inr rfl⟩ (.cons ⟨rfl, Or.inr (Rated.masked_reread r.item)⟩ .nil))

instance : Rated SeedConfig where
  unrated := id
  unrated_reread _ := rfl
  masked_reread _ := rfl

instance : Rated SealedDocument where
  unrated := id
  unrated_reread _ := rfl
  masked_reread _ := rfl

section

variable {α : Type} [Codec α] [Faithful α] [Rated α]

instance : Rated (List α) where
  unrated := List.map unrated
  unrated_reread as := by
    show (as.map reread).map unrated = as.map unrated
    rw [List.map_map]
    exact List.map_congr_left fun a _ => Rated.unrated_reread a
  masked_reread as := by
    show (Json.arr ((as.map reread).map toJson)).masked = (Json.arr (as.map toJson)).masked
    rw [Json.masked, Json.masked, Json.maskedElements_eq_map, Json.maskedElements_eq_map, List.map_map, List.map_map,
      List.map_map]
    exact congrArg Json.arr (List.map_congr_left fun a _ => Rated.masked_reread a)

instance : Rated (StateDocument α) where
  unrated d := { d with data := unrated d.data }
  unrated_reread d := by
    show StateDocument.mk d.version (unrated (reread d.data)) = _
    rw [Rated.unrated_reread]
  masked_reread d :=
    Json.masked_record_congr (.cons ⟨rfl, Or.inr rfl⟩ (.cons ⟨rfl, Or.inr (Rated.masked_reread d.data)⟩ .nil))

/-! ## Written and read -/

/-- The bytes of a value with a line for each part. -/
def prettyBytes (a : α) : Bytes := Text.utf8 (toJson a).pretty

/-- Two values are the same in all but ratios, and so is what is written of them. -/
structure SameButRatio (a b : α) : Prop where
  value : unrated b = unrated a
  compact : (toJson b).masked.compact = (toJson a).masked.compact
  pretty : (toJson b).masked.pretty = (toJson a).masked.pretty

/-- What is written of a value, in either layout, is read as a value that is the same in all but ratios. -/
structure RoundTrips (a : α) : Prop where
  compact : ∃ b, decodeBytes? (compactBytes a) = some b ∧ SameButRatio a b
  pretty : ∃ b, decodeBytes? (prettyBytes a) = some b ∧ SameButRatio a b

theorem sameButRatio_reread (a : α) : SameButRatio a (reread a) where
  value := Rated.unrated_reread a
  compact := by rw [Rated.masked_reread]
  pretty := by rw [Rated.masked_reread]

theorem roundTrips (a : α) : RoundTrips a where
  compact := ⟨reread a, decodeBytes?_compactBytes a, sameButRatio_reread a⟩
  pretty := ⟨reread a, decodeBytes?_pretty a, sameButRatio_reread a⟩

end

/-- **Whatever is stored is read as it was written**, but for ratios: an item, a hidden record, the seeds, a sealed
document, and documents of these in any version. -/
theorem roundTrips_stored :
    (∀ item : Item, RoundTrips item) ∧ (∀ record : HiddenRecord, RoundTrips record) ∧
      (∀ seeds : SeedConfig, RoundTrips seeds) ∧ (∀ sealed : SealedDocument, RoundTrips sealed) ∧
      (∀ document : StateDocument (List Item), RoundTrips document) ∧
      (∀ document : StateDocument SeedConfig, RoundTrips document) ∧
      (∀ document : StateDocument SealedDocument, RoundTrips document) :=
  ⟨roundTrips, roundTrips, roundTrips, roundTrips, roundTrips, roundTrips, roundTrips⟩

end TransferRegistry
