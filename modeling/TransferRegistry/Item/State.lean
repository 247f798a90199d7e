import TransferRegistry.Json.Codec

/-!
# States and actions

The states of an item and of a peer, and the actions on an item, with their names. `ItemState.active` are the states
that progress reports move between; `ItemAction.parse` reads a name in any case.
-/

namespace TransferRegistry

/-! ## Items -/

inductive ItemState where
  | downloading
  | seeding
  | stopped
  | paused
  | queued
  | stalled
  | error
deriving DecidableEq, Inhabited

namespace ItemState

def all : List ItemState := [downloading, seeding, stopped, paused, queued, stalled, error]

def name : ItemState → String
  | downloading => "downloading"
  | seeding => "seeding"
  | stopped => "stopped"
  | paused => "paused"
  | queued => "queued"
  | stalled => "stalled"
  | error => "error"

instance : ToString ItemState := ⟨name⟩

instance : Json.Codec ItemState := .ofNames all name

/-- The states that the transfer itself moves between. -/
def active : ItemState → Bool
  | downloading | seeding | queued | stalled => true
  | stopped | paused | error => false

end ItemState

/-! ## Peers -/

/-- How far the connection to a peer is. -/
inductive PeerState where
  | connecting
  | handshake
  | active
  | closed
deriving DecidableEq, Inhabited

namespace PeerState

def all : List PeerState := [connecting, handshake, active, closed]

def name : PeerState → String
  | connecting => "connecting"
  | handshake => "handshake"
  | active => "active"
  | closed => "closed"

instance : ToString PeerState := ⟨name⟩

instance : Json.Codec PeerState := .ofNames all name

/-- Whether data is exchanged with the peer. -/
def connected : PeerState → Bool
  | handshake | active => true
  | connecting | closed => false

end PeerState

/-! ## Actions -/

inductive ItemAction where
  | pause
  | archive
  | delete
  | hide
  | resume
deriving DecidableEq, Inhabited

/-- Whether two texts differ at most in the case of ASCII letters. -/
def sameIgnoringCase (a b : String) : Bool := a.toList.map Char.toLower == b.toList.map Char.toLower

structure UnknownAction where
  name : String
deriving DecidableEq

def UnknownAction.message (e : UnknownAction) : String := s!"unknown action: {e.name}"

namespace ItemAction

def all : List ItemAction := [pause, archive, delete, hide, resume]

def name : ItemAction → String
  | pause => "pause"
  | archive => "archive"
  | delete => "delete"
  | hide => "hide"
  | resume => "resume"

instance : ToString ItemAction := ⟨name⟩

instance : Json.Codec ItemAction := .ofNames all name

/-- The action with a name, in any case of its letters. -/
def parse (s : String) : Except UnknownAction ItemAction :=
  match all.find? fun action => sameIgnoringCase action.name s with
  | some action => .ok action
  | none => .error ⟨s⟩

end ItemAction

end TransferRegistry
