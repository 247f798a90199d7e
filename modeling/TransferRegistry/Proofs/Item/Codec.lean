import TransferRegistry.Item.Codec
import TransferRegistry.Proofs.Json.Codec
import TransferRegistry.Proofs.Text

/-!
# Items that are read as they were written

Ids, peers and files are read as they were written, and items too, but for the ratio, which `Item.refreshRatio`
computes again (`Item.refreshRatio_reread`).
-/

namespace TransferRegistry

open Crypto (Bytes)
open Json (Codec Faithful reread toJson fromJson? proper_record bind_readMembers? required_of_lookup defaulted_of_lookup)

/-! ## Ids -/

namespace ItemId

open Text (utf8 utf8_ofList length_utf8 hexDigit hexByte hexValue? hexValue?_hexDigit)

/-- The two bytes of the digits of a byte. -/
theorem utf8_hexByte (b : UInt8) : ∃ x y, (hexByte b).flatMap String.utf8EncodeChar = [x, y] ∧
    hexValue? (Char.ofNat x.toNat) = some (b.toNat / 16) ∧ hexValue? (Char.ofNat y.toNat) = some (b.toNat % 16) := by
  have hdigit : ∀ n < 16, ∃ x, String.utf8EncodeChar (hexDigit n) = [x] ∧
      Char.ofNat x.toNat = hexDigit n := by decide
  have hb := b.toNat_lt
  obtain ⟨x, hx, hx'⟩ := hdigit (b.toNat / 16) (by omega)
  obtain ⟨y, hy, hy'⟩ := hdigit (b.toNat % 16) (by omega)
  refine ⟨x, y, ?_, ?_, ?_⟩
  · rw [hexByte, List.flatMap_cons, List.flatMap_cons, List.flatMap_nil, hx, hy]
    rfl
  · rw [hx', hexValue?_hexDigit (by omega)]
  · rw [hy', hexValue?_hexDigit (by omega)]

theorem readPairs_utf8 (bytes : Bytes) (offset : Nat) :
    readPairs offset ((bytes.flatMap hexByte).flatMap String.utf8EncodeChar) = .ok bytes := by
  induction bytes generalizing offset with
  | nil => rfl
  | cons b bytes ih =>
    obtain ⟨x, y, hxy, hx, hy⟩ := utf8_hexByte b
    have hbyte : UInt8.ofNat (16 * (b.toNat / 16) + b.toNat % 16) = b := by
      rw [Nat.div_add_mod, UInt8.ofNat_toNat]
    rw [List.flatMap_cons, List.flatMap_append, hxy, List.cons_append, List.singleton_append, readPairs]
    simp only [digitAt, hx, hy, ih, bind, Except.bind, pure, Except.pure, hbyte]

theorem length_utf8_text (bytes : Bytes) :
    ((bytes.flatMap hexByte).flatMap String.utf8EncodeChar).length = 2 * bytes.length := by
  induction bytes with
  | nil => rfl
  | cons b bytes ih =>
    obtain ⟨x, y, hxy, -⟩ := utf8_hexByte b
    rw [List.flatMap_cons, List.flatMap_append, hxy, List.length_append, ih, List.length_cons]
    simp only [List.length_cons, List.length_nil]
    omega

theorem parse_text (id : ItemId) : parse id.text = .ok id := by
  have hutf8 : utf8 id.text = (id.bytes.toList.flatMap hexByte).flatMap String.utf8EncodeChar := utf8_ofList _
  have hlength := length_utf8_text id.bytes.toList
  rw [Vector.length_toList] at hlength
  have hsize : id.bytes.toList.toArray.size = 32 := by simp
  have hid : (⟨⟨id.bytes.toList.toArray, hsize⟩⟩ : ItemId) = id := by
    obtain ⟨⟨array, harray⟩⟩ := id
    rfl
  simp only [parse, hutf8, hlength, readPairs_utf8, bind, Except.bind, pure, Except.pure, dif_pos hsize, hid]
  rfl

theorem ofField_text (id : ItemId) : ofField id.text = .ok id := by
  have hsize : id.text.utf8ByteSize = 64 := by
    have hlength := length_utf8_text id.bytes.toList
    rw [← utf8_ofList, length_utf8, Vector.length_toList] at hlength
    exact hlength
  rw [ofField, if_neg (not_not.2 hsize), parse_text]

end ItemId

instance : Faithful ItemId where
  reread := id
  proper id := .str _
  fromJson?_toJson id := by
    show (ItemId.ofField id.text).toOption = some id
    rw [ItemId.ofField_text]
    rfl

/-! ## Items -/

instance : Faithful ItemState where
  reread := id
  proper s := .str _
  fromJson?_toJson s := by cases s <;> rfl

instance : Faithful PeerState where
  reread := id
  proper s := .str _
  fromJson?_toJson s := by cases s <;> rfl

instance : Faithful ItemPeer where
  reread := id
  proper p := by
    refine proper_record fun m hm => ?_
    simp only [List.mem_cons, List.not_mem_nil, or_false] at hm
    rcases hm with rfl | rfl | rfl | rfl <;> exact Faithful.proper _
  fromJson?_toJson p := by
    refine Eq.trans (bind_readMembers? _ rfl (by decide)) ?_
    rw [required_of_lookup (a := p.id) rfl, required_of_lookup (a := p.state) rfl,
      required_of_lookup (a := p.downRate) rfl, required_of_lookup (a := p.upRate) rfl]
    rfl

instance : Faithful ItemFile where
  reread := id
  proper f := by
    refine proper_record fun m hm => ?_
    simp only [List.mem_cons, List.not_mem_nil, or_false] at hm
    rcases hm with rfl | rfl | rfl <;> exact Faithful.proper _
  fromJson?_toJson f := by
    refine Eq.trans (bind_readMembers? _ rfl (by decide)) ?_
    rw [required_of_lookup (a := f.path) rfl, required_of_lookup (a := f.length) rfl,
      required_of_lookup (a := f.remaining) rfl]
    rfl

theorem reread_list {α : Type} [Codec α] [Faithful α] (h : ∀ a : α, reread a = a) (as : List α) : reread as = as := by
  show as.map reread = as
  rw [List.map_congr_left fun a _ => h a, List.map_id']

instance : Faithful Item where
  reread i := { i with ratio := reread i.ratio }
  proper i := by
    refine proper_record fun m hm => ?_
    simp only [List.mem_cons, List.not_mem_nil, or_false] at hm
    rcases hm with rfl | rfl | rfl | rfl | rfl | rfl | rfl | rfl | rfl | rfl | rfl | rfl | rfl <;>
      exact Faithful.proper _
  fromJson?_toJson i := by
    refine Eq.trans (bind_readMembers? _ rfl (by decide)) ?_
    rw [required_of_lookup (a := i.id) rfl, required_of_lookup (a := i.name) rfl,
      required_of_lookup (a := i.state) rfl, defaulted_of_lookup (a := i.archived) rfl,
      required_of_lookup (a := i.downloaded) rfl, required_of_lookup (a := i.uploaded) rfl,
      required_of_lookup (a := i.ratio) rfl, required_of_lookup (a := i.fileSize) rfl,
      required_of_lookup (a := i.remaining) rfl, defaulted_of_lookup (a := i.downRate) rfl,
      defaulted_of_lookup (a := i.upRate) rfl, defaulted_of_lookup (a := i.peers) rfl,
      defaulted_of_lookup (a := i.files) rfl, reread_list (fun _ => rfl) i.peers, reread_list (fun _ => rfl) i.files]
    rfl

@[simp] theorem Item.id_reread (item : Item) : (reread item).id = item.id := rfl

/-- The ratio is all that can change when an item is read. -/
@[simp] theorem Item.refreshRatio_reread (item : Item) : (reread item).refreshRatio = item.refreshRatio := rfl

end TransferRegistry
