import Std.Data.ExtTreeMap
import TransferRegistry.Item.Codec

/-!
# Pending changes

`Pending` holds what is to be stored of each id, at most one action for each. `UpdatesAction.after` says what two
actions for one id come down to: an update leaves a pending addition or removal as it is, any other action takes the
place of what was pending. `Pending.restore` puts entries back that could not be stored.
-/

namespace TransferRegistry

open Json (Codec)

/-- What is to be done with the stored record of an id. -/
inductive UpdatesAction where
  | add
  | remove
  | update
deriving DecidableEq

namespace UpdatesAction

def all : List UpdatesAction := [add, remove, update]

def name : UpdatesAction → String
  | add => "Add"
  | remove => "Remove"
  | update => "Update"

instance : Codec UpdatesAction := .ofNames all name

/-- The action that does what a pending one and this one do. -/
def after (action : UpdatesAction) (pending : Option UpdatesAction) : UpdatesAction :=
  match pending, action with
  | some .add, .update => .add
  | some .remove, .update => .remove
  | _, action => action

end UpdatesAction

/-- What is to be stored of each id. -/
abbrev Pending := Std.ExtTreeMap ItemId UpdatesAction

namespace Pending

def push (pending : Pending) (id : ItemId) (action : UpdatesAction) : Pending :=
  pending.insert id (action.after pending[id]?)

/-- Puts drained entries back, but for ids that have an entry again. -/
def restore (pending drained : Pending) : Pending := drained.insertMany pending.toList

end Pending

end TransferRegistry
