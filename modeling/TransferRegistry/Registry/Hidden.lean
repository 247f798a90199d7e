import TransferRegistry.Registry.Basic

/-!
# Looking at hidden items

`Registry.hiddenEntries` and `Registry.hiddenItems` answer who has the passkey; a request without it is counted.
-/

namespace TransferRegistry.Registry

/-- A request that was refused for want of the passkey. -/
def unauthorized {α ε : Type} (r : Registry) (e : ε) : Step Registry (Except ε α) :=
  ⟨r.addStat .unauthorized 1, .error e, [.passkeyRejected]⟩

/-- The hidden ids with their times, in the order of the ids. -/
def hiddenEntries (r : Registry) (passkey : Option String) :
    Step Registry (Except HiddenError (List HiddenEntry)) :=
  match r.hidden.gatedEntries passkey with
  | .error e => r.unauthorized e
  | .ok entries => ⟨r, .ok entries, []⟩

def hiddenItems (r : Registry) (passkey : Option String) : Step Registry (Except HiddenError (List Item)) :=
  match r.hidden.gatedEntries passkey with
  | .error e => r.unauthorized e
  | .ok entries => ⟨r, .ok (entries.filterMap fun entry => r.items.item? entry.id), []⟩

end TransferRegistry.Registry
