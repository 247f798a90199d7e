import TransferRegistry.Registry.Basic
import TransferRegistry.Storage.Backend

/-!
# Loading

`Registry.load` takes over what a backend keeps: first the visible items, then the hidden records with their entries,
then the seeds. An item whose id is there already is left out; a hidden record whose entry has another id than its
item is dropped, and one whose item is visible too hides it again. What is repaired so is queued to be stored.
-/

namespace TransferRegistry.Registry

/-- Stores loaded items; the answer is how many. -/
def insertLoaded (r : Registry) : List Item → Step Registry Nat
  | [] => ⟨r, 0, []⟩
  | item :: items =>
    match r.items.insert item with
    | .ok store =>
      let rest := insertLoaded { r with items := store } items
      { rest with answer := rest.answer + 1 }
    | .error _ => (insertLoaded r items).after [.duplicateSkipped item.id]

/-- Stores the items of loaded hidden records; the answer is the entries that stay hidden. -/
def insertHidden (r : Registry) : List HiddenRecord → Step Registry (List HiddenEntry)
  | [] => ⟨r, [], []⟩
  | record :: records =>
    let id := record.entry.id
    if record.item.id ≠ id then
      (insertHidden (r.queueHidden id .remove) records).after [.mismatchDropped id record.item.id]
    else
      match r.items.insert record.item with
      | .ok store =>
        let rest := insertHidden { r with items := store } records
        { rest with answer := record.entry :: rest.answer }
      | .error _ =>
        let rest := (insertHidden (r.queueItem id .update) records).after [.storedTwice id]
        { rest with answer := record.entry :: rest.answer }

def loadItems (r : Registry) (items : List Item) : Step Registry Unit :=
  let done := r.insertLoaded items
  ⟨done.state, (), done.log ++ [.itemsLoaded done.answer]⟩

/-- Takes loaded hidden records over, and counts what there is. -/
def loadHidden (r : Registry) (records : List HiddenRecord) : Step Registry Unit :=
  let done := r.insertHidden records
  let r := { done.state with hidden := done.state.hidden.restore done.answer }
  ⟨(r.setStat .items (tallied r.items.size)).countHidden, (), done.log ++ [.hiddenLoaded done.answer.length]⟩

/-- Takes loaded seeds over, if there are some. -/
def loadSeeds (r : Registry) (seeds : Option SeedConfig) : Step Registry Unit :=
  match seeds with
  | some config => ⟨{ r with seeds := r.seeds.restore config }, (), [.seedsLoaded config.seeds.length]⟩
  | none => ⟨r, (), [.seedsAbsent]⟩

/-- Takes over what a backend keeps, up to the first call that fails. -/
def load {σ : Type} (r : Registry) (backend : Backend σ) (s : σ) :
    Step (Registry × σ) (Except StorageError Unit) :=
  let items := backend.loadItems s
  match items.answer with
  | .error e => ⟨(r, items.state), .error e, items.log⟩
  | .ok loaded =>
    let r := r.loadItems loaded
    let hidden := backend.loadHidden items.state
    let log := items.log ++ r.log ++ hidden.log
    match hidden.answer with
    | .error e => ⟨(r.state, hidden.state), .error e, log⟩
    | .ok loaded =>
      let r := r.state.loadHidden loaded
      let seeds := backend.loadSeeds hidden.state
      let log := log ++ r.log ++ seeds.log
      match seeds.answer with
      | .error e => ⟨(r.state, seeds.state), .error e, log⟩
      | .ok loaded =>
        let r := r.state.loadSeeds loaded
        ⟨(r.state, seeds.state), .ok (), log ++ r.log⟩

end TransferRegistry.Registry
