import TransferRegistry.Registry.Flush
import TransferRegistry.Registry.Items
import TransferRegistry.Registry.Load
import TransferRegistry.Registry.Seeds

/-!
# Runs of a registry

* `Request`: what can be asked of a registry alone, `Operation`: a request, or loading from or flushing to a backend
  that may answer anything and fail in any call.
* `Registry.perform` is the registry after an operation and `Registry.run` the one after a list of them;
  `Registry.run_induction` carries an invariant over a run.
-/

namespace TransferRegistry

/-- What can be asked of a registry alone. -/
inductive Request where
  | addItem (item : Item)
  | reportProgress (id : ItemId) (update : ProgressUpdate)
  | reportError (id : ItemId)
  | resetUploaded (id : ItemId)
  | applyOne (now : Int64) (action : ItemAction) (id : ItemId)
  | applyAction (now : Int64) (action : ItemAction) (ids : List ItemId)
  | unhide (ids : List ItemId) (passkey : Option String)
  | unhideAll (passkey : Option String)
  | hiddenEntries (passkey : Option String)
  | hiddenItems (passkey : Option String)
  | saveSeeds (seeds : List String)
  | autoGenerateSeeds (entropy : Entropy)
  | acknowledgeRestart
  | queueItem (id : ItemId) (action : UpdatesAction)
  | queueHidden (id : ItemId) (action : UpdatesAction)

/-- What can be done with a registry. -/
inductive Operation : Type 1 where
  | request (q : Request)
  | load {σ : Type} (backend : Backend σ) (s : σ)
  | flush (now : Int64) {σ : Type} (backend : Backend σ) (s : σ)

namespace Registry

/-- The registry after a request. -/
def serve (r : Registry) : Request → Registry
  | .addItem item => (r.addItem item).state
  | .reportProgress id update => (r.reportProgress id update).state
  | .reportError id => (r.reportError id).state
  | .resetUploaded id => (r.resetUploaded id).state
  | .applyOne now action id => (r.applyOne now action id).state
  | .applyAction now action ids => (r.applyAction now action ids).state
  | .unhide ids passkey => (r.unhide ids passkey).state
  | .unhideAll passkey => (r.unhideAll passkey).state
  | .hiddenEntries passkey => (r.hiddenEntries passkey).state
  | .hiddenItems passkey => (r.hiddenItems passkey).state
  | .saveSeeds seeds => (r.saveSeeds seeds).state
  | .autoGenerateSeeds entropy => (r.autoGenerateSeeds entropy).1.state
  | .acknowledgeRestart => r.acknowledgeRestart.state
  | .queueItem id action => r.queueItem id action
  | .queueHidden id action => r.queueHidden id action

/-- The registry after an operation. -/
def perform (r : Registry) : Operation → Registry
  | .request q => r.serve q
  | .load backend s => (r.load backend s).state.1
  | .flush now backend s => (r.flush now backend s).state.1

/-- The registry after operations. -/
def run (r : Registry) (ops : List Operation) : Registry := ops.foldl perform r

/-- What holds at the start and is kept by each operation holds after every run. -/
theorem run_induction {P : Registry → Prop} (hstep : ∀ r op, P r → P (r.perform op)) (ops : List Operation)
    {r : Registry} (h : P r) : P (r.run ops) := by
  induction ops generalizing r with
  | nil => exact h
  | cons op ops ih => exact ih (hstep r op h)

/-- What holds before and after one operation holds all the way. -/
theorem holds_run_take_singleton {P : Registry → Prop} {r : Registry} {op : Operation} (hbefore : P r)
    (hafter : P (r.perform op)) (k : Nat) : P (r.run ([op].take k)) := by
  cases k with
  | zero => exact hbefore
  | succ k =>
    rw [List.take_succ_cons, List.take_nil]
    exact hafter

end Registry

namespace Sample

/-- A configuration with one seed. -/
def configuration : Configuration := ⟨"info", ⟨"open sesame"⟩, ⟨8, 2, ["seed"]⟩, ⟨true, ".", 60⟩⟩

/-- An item is added. -/
def adding : Operation := .request (.addItem (.fresh default "item" 10))

/-- The item is to be hidden. -/
def concealing (now : Int64) : Operation := .request (.applyOne now .hide default)

end Sample

end TransferRegistry
