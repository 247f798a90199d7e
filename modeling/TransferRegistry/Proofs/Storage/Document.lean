import TransferRegistry.Proofs.Item.Codec
import TransferRegistry.Storage.Directory

/-!
# Stored documents that are read as they were written

* `StateDocument.ofBytes_bytes`: data that was stored is read back.
* `SealKey.decrypt?_encrypt`: what was sealed is opened with the same key.
* `openRecord_encrypt`: a sealed hidden record is read back, with the ratio of its item read anew.
-/

namespace TransferRegistry

open Crypto (Bytes)
open Json (Codec Faithful reread toJson fromJson? proper_record bind_readMembers? required_of_lookup defaulted_of_lookup)

/-! ## Records -/

instance : Faithful HiddenEntry where
  reread := id
  proper e := by
    refine proper_record fun m hm => ?_
    simp only [List.mem_cons, List.not_mem_nil, or_false] at hm
    rcases hm with rfl | rfl <;> exact Faithful.proper _
  fromJson?_toJson e := by
    refine Eq.trans (bind_readMembers? _ rfl (by decide)) ?_
    rw [required_of_lookup (a := e.id) rfl, required_of_lookup (a := e.hiddenAt) rfl]
    rfl

instance : Faithful HiddenRecord where
  reread r := { r with item := reread r.item }
  proper r := by
    refine proper_record fun m hm => ?_
    simp only [List.mem_cons, List.not_mem_nil, or_false] at hm
    rcases hm with rfl | rfl <;> exact Faithful.proper _
  fromJson?_toJson r := by
    refine Eq.trans (bind_readMembers? _ rfl (by decide)) ?_
    rw [required_of_lookup (a := r.entry) rfl, required_of_lookup (a := r.item) rfl]
    rfl

instance : Faithful SeedConfig where
  reread := id
  proper c := by
    refine proper_record fun m hm => ?_
    simp only [List.mem_cons, List.not_mem_nil, or_false] at hm
    rcases hm with rfl | rfl | rfl | rfl <;> exact Faithful.proper _
  fromJson?_toJson c := by
    refine Eq.trans (bind_readMembers? _ rfl (by decide)) ?_
    rw [required_of_lookup (a := c.seeds) rfl, required_of_lookup (a := c.seedLength) rfl,
      required_of_lookup (a := c.seedCount) rfl, defaulted_of_lookup (a := c.restartRequired) rfl,
      reread_list (fun _ => rfl) c.seeds]
    rfl

instance : Faithful SealedRecord where
  reread := id
  proper r := by
    refine proper_record fun m hm => ?_
    simp only [List.mem_cons, List.not_mem_nil, or_false] at hm
    rcases hm with rfl | rfl <;> exact Faithful.proper _
  fromJson?_toJson r := by
    refine Eq.trans (bind_readMembers? _ rfl (by decide)) ?_
    rw [required_of_lookup (a := r.nonce) rfl, required_of_lookup (a := r.ciphertext) rfl]
    rfl

instance : Faithful SealedDocument where
  reread := id
  proper d := by
    refine proper_record fun m hm => ?_
    simp only [List.mem_cons, List.not_mem_nil, or_false] at hm
    rcases hm with rfl | rfl <;> exact Faithful.proper _
  fromJson?_toJson d := by
    refine Eq.trans (bind_readMembers? _ rfl (by decide)) ?_
    rw [required_of_lookup (a := d.salt) rfl, required_of_lookup (a := d.records) rfl,
      reread_list (fun _ => rfl) d.records]
    rfl

/-! ## Documents -/

section Documents

variable {α : Type} [Codec α] [Faithful α]

instance : Faithful (StateDocument α) where
  reread d := { d with data := reread d.data }
  proper d := by
    refine proper_record fun m hm => ?_
    simp only [List.mem_cons, List.not_mem_nil, or_false] at hm
    rcases hm with rfl | rfl <;> exact Faithful.proper _
  fromJson?_toJson d := by
    refine Eq.trans (bind_readMembers? _ rfl (by decide)) ?_
    rw [required_of_lookup (a := d.version) rfl, required_of_lookup (a := d.data) rfl]
    rfl

theorem decodeBytes?_compactBytes (a : α) : decodeBytes? (compactBytes a) = some (reread a) := by
  simp only [decodeBytes?, compactBytes, Text.ofUtf8?_utf8, Json.parse?_compact (Faithful.proper a),
    Faithful.fromJson?_toJson, Option.bind_eq_bind, Option.bind_some]

theorem decodeBytes?_pretty (a : α) : decodeBytes? (Text.utf8 (toJson a).pretty) = some (reread a) := by
  simp only [decodeBytes?, Text.ofUtf8?_utf8, Json.parse?_pretty (Faithful.proper a), Faithful.fromJson?_toJson,
    Option.bind_eq_bind, Option.bind_some]

theorem StateDocument.ofBytes_bytes (name : String) (data : α) : ofBytes name (bytes data) = .ok (reread data) := by
  rw [ofBytes, bytes, decodeBytes?_pretty]
  rfl

end Documents

/-! ## Sealed records -/

theorem SealKey.decrypt?_encrypt (k : SealKey) {nonce : Bytes} (h : nonce.length = parameters.nonceLength)
    (plain : Bytes) : k.decrypt? (k.encrypt nonce plain) = some plain := by
  simp only [decrypt?, encrypt, Text.Base64.decode?_encode, Crypto.Gcm.decrypt?_encrypt, h, Option.bind_eq_bind,
    Option.bind_some]
  rfl

theorem StateDirectory.openRecord_encrypt (k : SealKey) {nonce : Bytes}
    (h : nonce.length = SealKey.parameters.nonceLength) (record : HiddenRecord) :
    openRecord k (k.encrypt nonce (compactBytes record)) = .ok (reread record) := by
  simp only [openRecord, k.decrypt?_encrypt h, decodeBytes?_compactBytes]

end TransferRegistry
