import TransferRegistry.Hidden
import TransferRegistry.Pending

/-!
# Changes to stored collections

A `Change` is what is to be done with the stored record of an id. `applyChanges` does a set of them to a collection
that is kept by id: a change without a record, or one that removes, takes the record out; any other puts its record
in.
-/

namespace TransferRegistry

/-- What is to be done with the stored record of an id. -/
structure Change (α : Type) where
  record : Option α
  action : UpdatesAction
deriving DecidableEq

abbrev Changes (α : Type) := Std.ExtTreeMap ItemId (Change α)

abbrev ItemChanges := Changes Item
abbrev HiddenChanges := Changes HiddenRecord

/-- The record that is stored after a change. -/
def Change.result {α : Type} (c : Change α) : Option α :=
  match c.action with
  | .remove => none
  | .add | .update => c.record

/-- A collection after a change of the record of an id. -/
def Change.applyTo {α : Type} (c : Change α) (id : ItemId) (stored : Std.ExtTreeMap ItemId α) :
    Std.ExtTreeMap ItemId α :=
  match c.result with
  | some record => stored.insert id record
  | none => stored.erase id

def applyChanges {α : Type} (stored : Std.ExtTreeMap ItemId α) (changes : Changes α) : Std.ExtTreeMap ItemId α :=
  changes.foldl (fun stored id c => c.applyTo id stored) stored

/-- A collection by id; the last record of an id counts. -/
def byId {α : Type} (id : α → ItemId) (records : List α) : Std.ExtTreeMap ItemId α :=
  records.foldl (fun stored record => stored.insert (id record) record) ∅

end TransferRegistry
