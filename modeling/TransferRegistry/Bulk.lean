import TransferRegistry.Item.State
import TransferRegistry.Json.Codec

/-!
# Bulk requests

A bulk request asks one thing of many items. Each item has an `ItemOutcome`; `BulkTally` counts them, so that
`requested = processed + notFound + invalid` where the tally is that of a list, and `BulkTally.response` is the
answer.
-/

namespace TransferRegistry

open Json (Codec toJson fromJson?)

/-- A number with a noun, which has an `s` but for one. -/
def counted (n : Nat) (noun : String) : String := if n = 1 then s!"{n} {noun}" else s!"{n} {noun}s"

inductive BulkAction where
  | item (action : ItemAction)
  /-- The inverse of hiding, for who has the passkey. -/
  | unhide
deriving DecidableEq

namespace BulkAction

def name : BulkAction → String
  | item action => action.name
  | unhide => "unhide"

/-- The action with a name, in any case of its letters. -/
def parse (s : String) : Except UnknownAction BulkAction :=
  if sameIgnoringCase s "unhide" then .ok .unhide else (ItemAction.parse s).map .item

end BulkAction

/-- What became of one item of a request. -/
inductive ItemOutcome where
  | applied
  /-- Allowed, and nothing was to be done. -/
  | unchanged
  /-- The item is gone, as was asked. -/
  | alreadyProcessed
  | notFound
  | invalidTransition
deriving DecidableEq

namespace ItemOutcome

def all : List ItemOutcome := [applied, unchanged, alreadyProcessed, notFound, invalidTransition]

def name : ItemOutcome → String
  | applied => "applied"
  | unchanged => "unchanged"
  | alreadyProcessed => "already_processed"
  | notFound => "not_found"
  | invalidTransition => "invalid_transition"

/-- Whether the item is as was asked. -/
def processed : ItemOutcome → Bool
  | applied | unchanged | alreadyProcessed => true
  | notFound | invalidTransition => false

end ItemOutcome

/-- The answer to a bulk request; `hidden` is how many ids are hidden after it. -/
structure BulkResponse where
  processed : Nat
  hidden : Nat
  remaining : Nat
  successful : Bool
  message : String
deriving DecidableEq

/-- The number of things in a record, of 64 bits. -/
def count? : Json.Decoder Nat := fun v => (Json.uint64? v).map UInt64.toNat

instance : Codec BulkResponse where
  toJson r := .record
    [("processed", .ofNat r.processed), ("hidden", .ofNat r.hidden), ("remaining", .ofNat r.remaining),
      ("successful", toJson r.successful), ("message", toJson r.message)]
  fromJson? v := do
    let ms ← Json.readMembers? ["processed", "hidden", "remaining", "successful", "message"] v
    return {
      processed := ← ms.required "processed" count?
      hidden := ← ms.required "hidden" count?
      remaining := ← ms.required "remaining" count?
      successful := ← ms.required "successful" fromJson?
      message := ← ms.required "message" fromJson? }

/-- How many items were asked for and what became of them. -/
structure BulkTally where
  requested : Nat
  processed : Nat
  notFound : Nat
  invalid : Nat
deriving DecidableEq, Inhabited

namespace BulkTally

def empty : BulkTally := ⟨0, 0, 0, 0⟩

def record (t : BulkTally) (outcome : ItemOutcome) : BulkTally :=
  match outcome with
  | .applied | .unchanged | .alreadyProcessed => { t with processed := t.processed + 1 }
  | .notFound => { t with notFound := t.notFound + 1 }
  | .invalidTransition => { t with invalid := t.invalid + 1 }

def ofOutcomes (outcomes : List ItemOutcome) : BulkTally :=
  outcomes.foldl (fun t outcome => { t.record outcome with requested := t.requested + 1 }) empty

def remaining (t : BulkTally) : Nat := t.requested - t.processed

def message (t : BulkTally) (label : String) : String :=
  let requested := counted t.requested "item"
  let invalid := counted t.invalid "invalid transition"
  s!"{label}: processed {t.processed}/{requested}"
    ++ (if 0 < t.notFound then s!", {t.notFound} not found" else "")
    ++ (if 0 < t.invalid then s!", {invalid}" else "")

def response (t : BulkTally) (label : String) (hidden : Nat) : BulkResponse where
  processed := t.processed
  hidden
  remaining := t.remaining
  successful := t.remaining = 0
  message := t.message label

end BulkTally

/-- Why a bulk request as a whole is refused. -/
inductive BulkError where
  | emptyIds
  | unauthorized
deriving DecidableEq

def BulkError.message : BulkError → String
  | emptyIds => "No item IDs given"
  | unauthorized => "Unauthorized: invalid or missing passkey"

end TransferRegistry
