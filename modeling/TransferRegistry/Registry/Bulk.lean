import Std.Data.ExtTreeSet
import TransferRegistry.Bulk
import TransferRegistry.Item.Lifecycle
import TransferRegistry.Registry.Hidden

/-!
# Bulk requests to the registry

* `Registry.applyOne` does one action to one item and tells what became of it; for who pauses, archives or resumes, a
  hidden item is as good as absent.
* `Registry.applyAction` does so for each distinct id, in the order of the ids.
* `Registry.unhide` and `Registry.unhideAll` end the hiding of ids, for who has the passkey.
-/

namespace TransferRegistry

/-- The distinct ids of a list, in order. -/
def distinctIds (ids : List ItemId) : List ItemId := (Std.ExtTreeSet.ofList ids compare).toList

namespace Registry

/-! ## One item -/

/-- Takes an item out, and its id out of the hidden set. -/
def deleteOne (r : Registry) (id : ItemId) : Step Registry ItemOutcome :=
  let removed := r.items.slot? id
  let r := { r with items := r.items.remove id }
  let r :=
    if r.hidden.contains id then ({ r with hidden := r.hidden.erase id }.queueHidden id .remove).countHidden else r
  match removed with
  | some slot =>
    ⟨(r.addStat .items (-1)).queueItem id .remove, .applied, [.itemDeleted id slot.item.name]⟩
  | none => ⟨r, .alreadyProcessed, []⟩

def hideOne (r : Registry) (now : Int64) (id : ItemId) : Step Registry ItemOutcome :=
  if r.hidden.contains id then ⟨r, .unchanged, []⟩
  else
    ⟨({ r with hidden := r.hidden.hide id now }.queueHidden id .add).countHidden, .applied, [.hid id]⟩

/-- Does to the record of an item what was planned. -/
def changeOne (r : Registry) (id : ItemId) (item : Item) (transition : Transition) : Step Registry ItemOutcome :=
  if transition.changes item then
    ⟨{ r with items := r.items.put id (transition.applyTo item) }.queueItem id .update, .applied, []⟩
  else ⟨r, .unchanged, []⟩

def applyOne (r : Registry) (now : Int64) (action : ItemAction) (id : ItemId) : Step Registry ItemOutcome :=
  if action = .delete then r.deleteOne id
  else
    match r.items.item? id with
    | none => ⟨r, .notFound, []⟩
    | some item =>
      if action ≠ .hide && r.hidden.contains id then ⟨r, .notFound, []⟩
      else
        match action.plan item with
        | .error e => ⟨r, .invalidTransition, [.actionRefused e]⟩
        | .ok .hide => r.hideOne now id
        | .ok transition => r.changeOne id item transition

/-! ## Many items -/

def applyEach (r : Registry) (now : Int64) (action : ItemAction) : List ItemId → Step Registry (List ItemOutcome)
  | [] => ⟨r, [], []⟩
  | id :: ids =>
    let first := r.applyOne now action id
    let rest := applyEach first.state now action ids
    ⟨rest.state, first.answer :: rest.answer, first.log ++ rest.log⟩

def recordTally (r : Registry) (tally : BulkTally) : Registry :=
  (r.addStat .itemsProcessed (tallied tally.processed)).addStat .itemsFailed (tallied (tally.notFound + tally.invalid))

/-- Does an action to the distinct ids of a list. The clock is read once, so all that one request hides is hidden at the
same time; reading it anew for each id would only tell apart the times of what is hidden. -/
def applyAction (r : Registry) (now : Int64) (action : ItemAction) (ids : List ItemId) :
    Step Registry (Except BulkError BulkResponse) :=
  if ids = [] then ⟨r, .error .emptyIds, []⟩
  else
    let done := (r.addStat .bulkCalls 1).applyEach now action (distinctIds ids)
    let tally := BulkTally.ofOutcomes done.answer
    let r := done.state.recordTally tally
    let response := tally.response action.name r.hiddenCount
    ⟨r, .ok response, done.log ++ [.bulkDone response.message]⟩

/-! ## The end of hiding -/

/-- The warnings for entries without an item. -/
def orphanWarnings (r : Registry) (removed : List HiddenEntry) : List Event :=
  removed.filterMap fun entry => if r.items.contains entry.id then none else some (.orphanDropped entry.id)

/-- Queues and counts entries that were taken out of the hidden set, and answers for them. -/
def finishUnhide (r : Registry) (requested : Nat) (removed : List HiddenEntry) :
    Step Registry (Except BulkError BulkResponse) :=
  let log := r.orphanWarnings removed
  let r := removed.foldl (fun r entry => r.queueHidden entry.id .remove) (r.addStat .bulkCalls 1)
  let tally : BulkTally := ⟨requested, removed.length, requested - removed.length, 0⟩
  let r := (r.recordTally tally).countHidden
  let response := tally.response "unhide" r.hiddenCount
  ⟨r, .ok response, log ++ [.bulkDone response.message]⟩

def unhide (r : Registry) (ids : List ItemId) (passkey : Option String) :
    Step Registry (Except BulkError BulkResponse) :=
  if ids = [] then ⟨r, .error .emptyIds, []⟩
  else
    match r.hidden.unhide (distinctIds ids) passkey with
    | .error _ => r.unauthorized .unauthorized
    | .ok (removed, hidden) => finishUnhide { r with hidden } (distinctIds ids).length removed

def unhideAll (r : Registry) (passkey : Option String) : Step Registry (Except BulkError BulkResponse) :=
  match r.hidden.unhideAll passkey with
  | .error _ => r.unauthorized .unauthorized
  | .ok (removed, hidden) => finishUnhide { r with hidden } removed.length removed

/-- Does what a bulk request asks; only the end of hiding needs the passkey. -/
def apply (r : Registry) (now : Int64) (action : BulkAction) (ids : List ItemId) (passkey : Option String) :
    Step Registry (Except BulkError BulkResponse) :=
  match action with
  | .item action => r.applyAction now action ids
  | .unhide => r.unhide ids passkey

end Registry

end TransferRegistry
