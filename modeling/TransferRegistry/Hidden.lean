import Std.Data.ExtTreeMap
import TransferRegistry.Item.Codec
import TransferRegistry.Passkey

/-!
# Hidden ids

`HiddenSet` holds the hidden ids with the time each was hidden at, and the passkey that ends their hiding. How many
there are anyone may know; `HiddenSet.unhide`, `HiddenSet.unhideAll` and `HiddenSet.gatedEntries` need the passkey,
and an empty one never opens anything.
-/

namespace TransferRegistry

open Json (Codec toJson fromJson?)

/-- A hidden id and the time it was hidden at, in seconds since 1970. -/
structure HiddenEntry where
  id : ItemId
  hiddenAt : Int64
deriving DecidableEq

/-- What is stored of a hidden item. -/
structure HiddenRecord where
  entry : HiddenEntry
  item : Item
deriving DecidableEq

instance : Codec HiddenEntry where
  toJson e := .record [("id", toJson e.id), ("hiddenAt", toJson e.hiddenAt)]
  fromJson? v := do
    let ms ← Json.readMembers? ["id", "hiddenAt"] v
    return { id := ← ms.required "id" fromJson?, hiddenAt := ← ms.required "hiddenAt" fromJson? }

instance : Codec HiddenRecord where
  toJson r := .record [("entry", toJson r.entry), ("item", toJson r.item)]
  fromJson? v := do
    let ms ← Json.readMembers? ["entry", "item"] v
    return { entry := ← ms.required "entry" fromJson?, item := ← ms.required "item" fromJson? }

/-- A request without the passkey. -/
inductive HiddenError where
  | unauthorized
deriving DecidableEq

def HiddenError.message : HiddenError → String
  | unauthorized => "Unauthorized: invalid or missing passkey"

/-- The hidden ids with their times, and the passkey. -/
structure HiddenSet where
  times : Std.ExtTreeMap ItemId Int64
  passkey : String

namespace HiddenSet

def empty (passkey : String) : HiddenSet := ⟨∅, passkey⟩

def size (h : HiddenSet) : Nat := h.times.size

def contains (h : HiddenSet) (id : ItemId) : Bool := h.times.contains id

def entry? (h : HiddenSet) (id : ItemId) : Option HiddenEntry := h.times[id]?.map fun time => ⟨id, time⟩

/-- The entries, in the order of their ids. -/
def entries (h : HiddenSet) : List HiddenEntry := h.times.toList.map fun (id, time) => ⟨id, time⟩

/-- Hides an id from a time on; a hidden one keeps its time. -/
def hide (h : HiddenSet) (id : ItemId) (now : Int64) : HiddenSet :=
  if h.contains id then h else { h with times := h.times.insert id now }

def erase (h : HiddenSet) (id : ItemId) : HiddenSet := { h with times := h.times.erase id }

/-- Takes stored entries over, with their times. -/
def restore (h : HiddenSet) (entries : List HiddenEntry) : HiddenSet :=
  { h with times := entries.foldl (fun times e => times.insert e.id e.hiddenAt) h.times }

/-! ## With the passkey -/

/-- Whether what is given is the passkey. -/
def opens (h : HiddenSet) (passkey : Option String) : Bool :=
  match passkey with
  | some given => !h.passkey.isEmpty && !given.isEmpty && Passkey.same given h.passkey
  | none => false

def verify (h : HiddenSet) (passkey : Option String) : Except HiddenError Unit :=
  if h.opens passkey then .ok () else .error .unauthorized

/-- Takes the listed ids out that are hidden; gives their entries in the order of the list. -/
def takeOut (h : HiddenSet) : List ItemId → List HiddenEntry × HiddenSet
  | [] => ([], h)
  | id :: ids =>
    match h.entry? id with
    | none => takeOut h ids
    | some entry =>
      let (entries, h) := takeOut (h.erase id) ids
      (entry :: entries, h)

def unhide (h : HiddenSet) (ids : List ItemId) (passkey : Option String) :
    Except HiddenError (List HiddenEntry × HiddenSet) := do
  h.verify passkey
  return h.takeOut ids

def unhideAll (h : HiddenSet) (passkey : Option String) : Except HiddenError (List HiddenEntry × HiddenSet) := do
  h.verify passkey
  return (h.entries, { h with times := ∅ })

def gatedEntries (h : HiddenSet) (passkey : Option String) : Except HiddenError (List HiddenEntry) := do
  h.verify passkey
  return h.entries

/-- How the set is shown where secrets must not be. -/
def debugText (h : HiddenSet) : String :=
  s!"HiddenSet \x7b count: {h.size}, passkey: \"<redacted>\" \x7d"

end HiddenSet

end TransferRegistry
