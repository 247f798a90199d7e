import TransferRegistry.Item.Basic

/-!
# Items as JSON

The JSON forms of ids, items, peers, files and progress reports.
-/

namespace TransferRegistry

open Json (Codec toJson fromJson? optionJson)

instance : Codec ItemId where
  toJson id := .ofString id.text
  fromJson? v := do
    let s ← Json.text? v
    (ItemId.ofField s).toOption

instance : Codec ItemPeer where
  toJson p := .record
    [("id", toJson p.id), ("state", toJson p.state), ("downRate", toJson p.downRate), ("upRate", toJson p.upRate)]
  fromJson? v := do
    let ms ← Json.readMembers? ["id", "state", "downRate", "upRate"] v
    return {
      id := ← ms.required "id" fromJson?
      state := ← ms.required "state" fromJson?
      downRate := ← ms.required "downRate" fromJson?
      upRate := ← ms.required "upRate" fromJson? }

instance : Codec ItemFile where
  toJson f := .record [("path", toJson f.path), ("length", toJson f.length), ("remaining", toJson f.remaining)]
  fromJson? v := do
    let ms ← Json.readMembers? ["path", "length", "remaining"] v
    return {
      path := ← ms.required "path" fromJson?
      length := ← ms.required "length" fromJson?
      remaining := ← ms.required "remaining" fromJson? }

def Item.memberNames : List String :=
  ["id", "name", "state", "archived", "downloaded", "uploaded", "ratio", "fileSize", "remaining", "downRate",
    "upRate", "peers", "files"]

instance : Codec Item where
  toJson i := .record
    [("id", toJson i.id), ("name", toJson i.name), ("state", toJson i.state), ("archived", toJson i.archived),
      ("downloaded", toJson i.downloaded), ("uploaded", toJson i.uploaded), ("ratio", toJson i.ratio),
      ("fileSize", toJson i.fileSize), ("remaining", toJson i.remaining), ("downRate", toJson i.downRate),
      ("upRate", toJson i.upRate), ("peers", toJson i.peers), ("files", toJson i.files)]
  fromJson? v := do
    let ms ← Json.readMembers? Item.memberNames v
    return {
      id := ← ms.required "id" fromJson?
      name := ← ms.required "name" fromJson?
      state := ← ms.required "state" fromJson?
      archived := ← ms.defaulted "archived" fromJson? false
      downloaded := ← ms.required "downloaded" fromJson?
      uploaded := ← ms.required "uploaded" fromJson?
      ratio := ← ms.required "ratio" fromJson?
      fileSize := ← ms.required "fileSize" fromJson?
      remaining := ← ms.required "remaining" fromJson?
      downRate := ← ms.defaulted "downRate" fromJson? 0
      upRate := ← ms.defaulted "upRate" fromJson? 0
      peers := ← ms.defaulted "peers" fromJson? []
      files := ← ms.defaulted "files" fromJson? [] }

instance : Codec ProgressUpdate where
  toJson u := .record
    [("downloaded", toJson u.downloaded), ("uploaded", toJson u.uploaded), ("remaining", toJson u.remaining),
      ("downRate", toJson u.downRate), ("upRate", toJson u.upRate), ("peers", optionJson u.peers),
      ("files", optionJson u.files)]
  fromJson? v := do
    let ms ← Json.readMembers?
      ["downloaded", "uploaded", "remaining", "downRate", "upRate", "peers", "files"] v
    return {
      downloaded := ← ms.required "downloaded" fromJson?
      uploaded := ← ms.required "uploaded" fromJson?
      remaining := ← ms.required "remaining" fromJson?
      downRate := ← ms.required "downRate" fromJson?
      upRate := ← ms.required "upRate" fromJson?
      peers := ← ms.optional "peers" fromJson?
      files := ← ms.optional "files" fromJson? }

end TransferRegistry
