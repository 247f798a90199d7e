import TransferRegistry.Item.Error

/-!
# Items

* `Item`: the record of one transfer. `downloaded` and `uploaded` only grow and `remaining` only shrinks, but for
  `Item.resetUploaded`; `ratio` is `uploaded / downloaded`, which `Item.refreshRatio` computes. A ratio is always
  finite, since it is computed from counters (`ratioOf`) or read from a JSON number, of which none is infinite.
* `Item.derivedState`: the active state that the counters and peers tell.
* `Item.applyProgress`: takes a report over as a whole, or refuses it for the first counter that moves the wrong way.
-/

namespace TransferRegistry

open Number (Binary64)

structure ItemPeer where
  id : String
  state : PeerState
  downRate : UInt64
  upRate : UInt64
deriving DecidableEq

structure ItemFile where
  path : String
  length : UInt64
  remaining : UInt64
deriving DecidableEq

/-- One transfer. -/
structure Item where
  id : ItemId
  name : String
  state : ItemState
  archived : Bool
  downloaded : UInt64
  uploaded : UInt64
  ratio : Binary64
  fileSize : UInt64
  remaining : UInt64
  downRate : UInt64
  upRate : UInt64
  peers : List ItemPeer
  files : List ItemFile
deriving DecidableEq, Inhabited

/-- What the transfer of an item reports; peers and files that are not given stay as they are. -/
structure ProgressUpdate where
  downloaded : UInt64
  uploaded : UInt64
  remaining : UInt64
  downRate : UInt64
  upRate : UInt64
  peers : Option (List ItemPeer)
  files : Option (List ItemFile)
deriving DecidableEq

/-- How much was uploaded for what was downloaded; zero where nothing was. It is finite: a counter is below `2 ^ 64`, and
what it is divided by is at least 1. -/
def ratioOf (uploaded downloaded : UInt64) : Binary64 :=
  if downloaded = 0 then .zero else (Binary64.ofNat uploaded.toNat).div (Binary64.ofNat downloaded.toNat)

namespace Item

/-- An item that was just submitted: queued, with everything still to be transferred. -/
def fresh (id : ItemId) (name : String) (fileSize : UInt64) : Item where
  id
  name
  state := .queued
  archived := false
  downloaded := 0
  uploaded := 0
  ratio := .zero
  fileSize
  remaining := fileSize
  downRate := 0
  upRate := 0
  peers := []
  files := []

def withState (item : Item) (state : ItemState) : Item := { item with state }

def complete (item : Item) : Bool := item.remaining = 0

def refreshRatio (item : Item) : Item := { item with ratio := ratioOf item.uploaded item.downloaded }

/-- The active state that the counters and peers tell. -/
def derivedState (item : Item) : ItemState :=
  if item.complete then .seeding
  else if item.peers.any (·.state.connected) then .downloading
  else .stalled

/-- The first counter that a report moves the wrong way. -/
def regression? (item : Item) (update : ProgressUpdate) : Option ItemError :=
  if update.downloaded < item.downloaded then
    some (.counterRegression item.id .downloaded item.downloaded update.downloaded)
  else if update.uploaded < item.uploaded then
    some (.counterRegression item.id .uploaded item.uploaded update.uploaded)
  else if item.remaining < update.remaining then
    some (.counterRegression item.id .remaining item.remaining update.remaining)
  else none

/-- The record with what a report tells, its ratio and, in an active state, its derived state. -/
def takeProgress (item : Item) (update : ProgressUpdate) : Item :=
  let next := refreshRatio
    { item with
      downloaded := update.downloaded
      uploaded := update.uploaded
      remaining := update.remaining
      downRate := update.downRate
      upRate := update.upRate
      peers := update.peers.getD item.peers
      files := update.files.getD item.files }
  if next.state.active then { next with state := next.derivedState } else next

/-- Takes a report over, or refuses it as a whole. -/
def applyProgress (item : Item) (update : ProgressUpdate) : Except ItemError Item :=
  match item.regression? update with
  | some e => .error e
  | none => .ok (item.takeProgress update)

def resetUploaded (item : Item) : Item := refreshRatio { item with uploaded := 0, upRate := 0 }

end Item

end TransferRegistry
