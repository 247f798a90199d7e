import TransferRegistry.Item.Id
import TransferRegistry.Item.State

/-!
# What can be wrong with a request for an item

`ItemError` has the causes and `ItemError.message` their wording.
-/

namespace TransferRegistry

/-- The counters of an item that only move one way. -/
inductive Counter where
  | downloaded
  | uploaded
  | remaining
deriving DecidableEq

def Counter.name : Counter → String
  | downloaded => "downloaded"
  | uploaded => "uploaded"
  | remaining => "remaining"

/-- Why a request for an item is refused. -/
inductive ItemError where
  | notFound (id : ItemId)
  | alreadyExists (id : ItemId)
  | invalidTransition (id : ItemId) (action : ItemAction) (state : ItemState)
  | counterRegression (id : ItemId) (counter : Counter) (previous reported : UInt64)
deriving DecidableEq

def ItemError.message : ItemError → String
  | notFound id => s!"Item not found: {id}"
  | alreadyExists id => s!"Item already exists: {id}"
  | invalidTransition id action state => s!"Invalid transition: cannot {action} item {id} in state {state}"
  | counterRegression id counter previous reported =>
    s!"Counter regression on item {id}: {counter.name} went from {previous} to {reported}"

end TransferRegistry
