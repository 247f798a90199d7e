import TransferRegistry.Item.Basic

/-!
# The life of an item

`ItemAction.plan` decides what an action does to an item in its state, or refuses it; `Transition.applyTo` does to the
record what can be done there. An archived item never leaves `stopped` by an action: to pause it does nothing, and
to resume it is refused.
-/

namespace TransferRegistry

/-- What an action comes down to. -/
inductive Transition where
  /-- The action is allowed and has nothing to do. -/
  | unchanged
  | setState (state : ItemState)
  /-- Stops the item and sets its flag. -/
  | archive
  /-- Takes the item out of the store and the hidden set. -/
  | remove
  /-- Puts the id into the hidden set; the record stays as it is. -/
  | hide
deriving DecidableEq

def ItemAction.plan (action : ItemAction) (item : Item) : Except ItemError Transition :=
  let refused := .error (.invalidTransition item.id action item.state)
  match action with
  | pause =>
    if item.archived then .ok .unchanged
    else
      match item.state with
      | .error => refused
      | .paused => .ok .unchanged
      | _ => .ok (.setState .paused)
  | archive =>
    match item.state with
    | .stopped => if item.archived then .ok .unchanged else .ok .archive
    | .seeding => .ok .archive
    | _ => refused
  | delete => .ok .remove
  | hide => .ok .hide
  | resume =>
    if item.archived then refused
    else
      match item.state with
      | .paused | .stopped | .error => .ok (.setState item.derivedState)
      | _ => .ok .unchanged

/-- The record after a transition. -/
def Transition.applyTo (transition : Transition) (item : Item) : Item :=
  match transition with
  | setState state => { item with state }
  | archive => { item with state := .stopped, archived := true }
  | unchanged | remove | hide => item

def Transition.changes (transition : Transition) (item : Item) : Bool :=
  match transition with
  | setState state => item.state ≠ state
  | archive => item.state ≠ .stopped || !item.archived
  | unchanged | remove | hide => false

end TransferRegistry
