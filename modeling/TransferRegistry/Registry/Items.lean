import TransferRegistry.Registry.Basic

/-!
# Requests for one item

* `Registry.addItem` stores a new item.
* `Registry.reportProgress`, `Registry.reportError` and `Registry.resetUploaded` change the record of an item, hidden
  or not, and queue it to be stored.
-/

namespace TransferRegistry.Registry

def addItem (r : Registry) (item : Item) : Step Registry (Except ItemError Unit) :=
  match r.items.insert item with
  | .error e => ⟨r, .error e, []⟩
  | .ok items =>
    let r := { r with items }.addStat .items 1
    ⟨r.queueItem item.id .add, .ok (), [.itemAdded item.id item.name]⟩

/-- Takes over what the transfer of an item reports; the answer is the state after it. -/
def reportProgress (r : Registry) (id : ItemId) (update : ProgressUpdate) :
    Step Registry (Except ItemError ItemState) :=
  match r.items.get id with
  | .error e => ⟨r, .error e, []⟩
  | .ok item =>
    match item.applyProgress update with
    | .error e => ⟨r, .error e, []⟩
    | .ok next =>
      let r := { r with items := r.items.put id next }.addStat .progressReports 1
      ⟨r.queueItem id .update, .ok next.state, []⟩

def reportError (r : Registry) (id : ItemId) : Step Registry (Except ItemError Unit) :=
  match r.items.updateState id .error with
  | .error e => ⟨r, .error e, []⟩
  | .ok (previous, items) =>
    let r := { r with items }
    if previous = .error then ⟨r, .ok (), []⟩
    else ⟨r.queueItem id .update, .ok (), [.itemFailed id previous]⟩

def resetUploaded (r : Registry) (id : ItemId) : Step Registry (Except ItemError Unit) :=
  match r.items.modify id Item.resetUploaded with
  | .error e => ⟨r, .error e, []⟩
  | .ok items => ⟨{ r with items }.queueItem id .update, .ok (), [.uploadReset id]⟩

end TransferRegistry.Registry
