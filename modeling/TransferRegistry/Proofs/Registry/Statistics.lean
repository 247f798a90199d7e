import Mathlib.Data.List.Dedup
import TransferRegistry.Proofs.Bulk
import TransferRegistry.Proofs.Registry.Batch
import TransferRegistry.Proofs.Registry.Flush
import TransferRegistry.Proofs.Registry.Views

/-!
# What the statistics say

* `Request.news`: by how much a request raises the totals, read off what it answers.
* `Registry.Counts`: a change after which items, hidden ids and queues are counted if they were before it, and the totals
  are raised by what is given. Every request is one (`serve_counts`), and so are a flush (`counts_flush`) and a load that
  succeeds (`counts_load`). Any other load counts the queues at least (`countsQueues_load`).
* `Registry.Mirrors`: after a run the counters are those of the registry and of what was asked of it. `mirrors_run` says
  so of every run in which loading succeeds; `queuesCounted_run`: the queues are counted in any case.
-/

namespace TransferRegistry

/-- The counter is only added to, by requests. -/
def StatsEvent.isTotal : StatsEvent → Bool
  | .bulkCalls | .itemsProcessed | .itemsFailed | .unauthorized | .progressReports | .seedChanges => true
  | _ => false

theorem Stats.get_set_of_ne {event other : StatsEvent} (h : event ≠ other) (s : Stats) (value : Int64) :
    (s.set event value).get other = s.get other := (s.get_set event other value).trans (if_neg h)

theorem Registry.tallied_add (m n : Nat) : tallied (m + n) = tallied m + tallied n := Int64.ofNat_add m n

/-! ## What was asked and answered -/

/-- A bulk request that was answered: for how many ids, and the answer. -/
structure AnsweredBulk where
  requested : Nat
  response : BulkResponse

namespace Request

/-- The bulk request, if it is answered. -/
def bulk? (q : Request) (r : Registry) : Option AnsweredBulk :=
  match q with
  | .applyAction now action ids => (r.applyAction now action ids).answer.toOption.map (⟨ids.dedup.length, ·⟩)
  | .unhide ids passkey => (r.unhide ids passkey).answer.toOption.map (⟨ids.dedup.length, ·⟩)
  | .unhideAll passkey => (r.unhideAll passkey).answer.toOption.map (⟨r.hiddenCount, ·⟩)
  | _ => none

/-- The request is refused for want of the passkey. -/
def refused (q : Request) (r : Registry) : Bool :=
  match q with
  | .unhide ids passkey => (r.unhide ids passkey).answer = .error .unauthorized
  | .unhideAll passkey => (r.unhideAll passkey).answer = .error .unauthorized
  | .hiddenEntries passkey => (r.hiddenEntries passkey).answer = .error .unauthorized
  | .hiddenItems passkey => (r.hiddenItems passkey).answer = .error .unauthorized
  | _ => false

/-- The request is a report on an item that is taken over. -/
def reported (q : Request) (r : Registry) : Bool :=
  match q with
  | .reportProgress id update => (r.reportProgress id update).answer.isOk
  | _ => false

/-- The request gives the seeds a new list. -/
def renewsSeeds : Request → Bool
  | .saveSeeds _ | .autoGenerateSeeds _ => true
  | _ => false

/-- By how much the request raises the totals. -/
def news (q : Request) (r : Registry) : StatsEvent → Nat
  | .bulkCalls => (q.bulk? r).toList.length
  | .itemsProcessed => ((q.bulk? r).toList.map (·.response.processed)).sum
  | .itemsFailed => ((q.bulk? r).toList.map (·.response.remaining)).sum
  | .unauthorized => (q.refused r).toNat
  | .progressReports => (q.reported r).toNat
  | .seedChanges => q.renewsSeeds.toNat
  | _ => 0

end Request

namespace Registry

/-! ## Changes that are counted -/

/-- One registry comes of another by changes that count the queues, and raise the totals by `news`. -/
structure CountsQueues (r s : Registry) (news : StatsEvent → Nat) : Prop where
  itemUpdates : r.stats.itemsUpdates = tallied r.itemUpdates.size → s.stats.itemsUpdates = tallied s.itemUpdates.size
  hiddenUpdates : r.stats.hiddenUpdates = tallied r.hiddenUpdates.size →
    s.stats.hiddenUpdates = tallied s.hiddenUpdates.size
  totals (event : StatsEvent) : event.isTotal = true → s.stats.get event = r.stats.get event + tallied (news event)

/-- The changes count the items and the hidden ids too. -/
structure Counts (r s : Registry) (news : StatsEvent → Nat) : Prop extends CountsQueues r s news where
  items : r.stats.items = tallied r.items.size → s.stats.items = tallied s.items.size
  hidden : r.stats.hidden = tallied r.hidden.size → s.stats.hidden = tallied s.hidden.size

/-- No total is raised. -/
def quiet : StatsEvent → Nat := fun _ => 0

/-- One total is raised. -/
def raise (event : StatsEvent) (n : Nat) : StatsEvent → Nat := fun other => if event = other then n else 0

section Changes

variable {r s t : Registry} {news more : StatsEvent → Nat}

theorem CountsQueues.refl (r : Registry) : CountsQueues r r quiet :=
  ⟨id, id, fun event _ => (Int64.add_zero (r.stats.get event)).symm⟩

theorem CountsQueues.trans (h : CountsQueues r s news) (h' : CountsQueues s t more) :
    CountsQueues r t fun event => news event + more event where
  itemUpdates := h'.itemUpdates ∘ h.itemUpdates
  hiddenUpdates := h'.hiddenUpdates ∘ h.hiddenUpdates
  totals event hevent := by
    rw [h'.totals event hevent, h.totals event hevent, tallied_add, Int64.add_assoc]

theorem CountsQueues.congr (h : CountsQueues r s news)
    (hnews : ∀ event, event.isTotal = true → news event = more event) : CountsQueues r s more where
  __ := h
  totals event hevent := hnews event hevent ▸ h.totals event hevent

/-- A quiet change is followed by another one. -/
theorem CountsQueues.then (h : CountsQueues r s quiet) (h' : CountsQueues s t news) : CountsQueues r t news :=
  (h.trans h').congr fun event _ => Nat.zero_add (news event)

theorem Counts.refl (r : Registry) : Counts r r quiet := ⟨CountsQueues.refl r, id, id⟩

theorem counts_raise_zero (r : Registry) (event : StatsEvent) : Counts r r (raise event 0) where
  __ := (CountsQueues.refl r).congr fun _ _ => (ite_self 0).symm
  items := id
  hidden := id

theorem Counts.trans (h : Counts r s news) (h' : Counts s t more) : Counts r t fun event => news event + more event where
  __ := h.toCountsQueues.trans h'.toCountsQueues
  items := h'.items ∘ h.items
  hidden := h'.hidden ∘ h.hidden

theorem Counts.congr (h : Counts r s news) (hnews : ∀ event, event.isTotal = true → news event = more event) :
    Counts r s more where
  __ := h.toCountsQueues.congr hnews
  items := h.items
  hidden := h.hidden

theorem Counts.then (h : Counts r s quiet) (h' : Counts s t news) : Counts r t news where
  __ := h.toCountsQueues.then h'.toCountsQueues
  items := h'.items ∘ h.items
  hidden := h'.hidden ∘ h.hidden

theorem counts_addStat (r : Registry) {event : StatsEvent} (hevent : event.isTotal = true) (n : Nat) :
    Counts r (r.addStat event (tallied n)) (raise event n) := by
  have hfield : ∀ other, other.isTotal = false → (r.stats.add event (tallied n)).get other = r.stats.get other := by
    intro other hother
    refine Stats.get_set_of_ne ?_ _ _
    rintro rfl
    rw [hevent] at hother
    cases hother
  refine ⟨⟨(hfield .itemsUpdates rfl).trans, (hfield .hiddenUpdates rfl).trans, fun other hother => ?_⟩,
    (hfield .items rfl).trans, (hfield .hidden rfl).trans⟩
  show (r.stats.add event (tallied n)).get other = _
  rw [Stats.add, Stats.get_set, raise]
  split
  · rename_i heq
    rw [heq]
  · exact (Int64.add_zero (r.stats.get other)).symm

/-- Setting a counter that is no total leaves the totals alone. -/
theorem totals_set {event other : StatsEvent} (hevent : event.isTotal = false) (hother : other.isTotal = true)
    (s : Stats) (value : Int64) : (s.set event value).get other = s.get other := by
  refine Stats.get_set_of_ne ?_ s value
  rintro rfl
  rw [hother] at hevent
  cases hevent

theorem totals_set_set {first second other : StatsEvent} (hfirst : first.isTotal = false)
    (hsecond : second.isTotal = false) (hother : other.isTotal = true) (s : Stats) (value last : Int64) :
    ((s.set first value).set second last).get other = s.get other :=
  (totals_set hsecond hother (s.set first value) last).trans (totals_set hfirst hother s value)

theorem counts_queueItem (r : Registry) (id : ItemId) (action : UpdatesAction) :
    Counts r (r.queueItem id action) quiet where
  items h := h
  hidden h := h
  itemUpdates _ := rfl
  hiddenUpdates h := h
  totals event hevent := (totals_set rfl hevent _ _).trans (Int64.add_zero (r.stats.get event)).symm

theorem counts_queueHidden (r : Registry) (id : ItemId) (action : UpdatesAction) :
    Counts r (r.queueHidden id action) quiet where
  items h := h
  hidden h := h
  itemUpdates h := h
  hiddenUpdates _ := rfl
  totals event hevent := (totals_set rfl hevent _ _).trans (Int64.add_zero (r.stats.get event)).symm

theorem Counts.countHidden {hidden : HiddenSet} (h : Counts { r with hidden } s news) : Counts r s.countHidden news where
  items := h.items
  hidden _ := rfl
  itemUpdates := h.itemUpdates
  hiddenUpdates := h.hiddenUpdates
  totals event hevent := (totals_set rfl hevent _ _).trans (h.totals event hevent)

end Changes

/-! ## One item -/

section Items

variable (r : Registry) (id : ItemId)

theorem tallied_pred {n m : Nat} (h : n + 1 = m) : tallied n = tallied m + (-1) := by
  have hback : tallied 1 + (-1) = 0 := by decide
  rw [← h, tallied_add, Int64.add_assoc, hback, Int64.add_zero]

theorem counts_items {r : Registry} {items : Store} {value : Int64}
    (h : r.stats.items = tallied r.items.size → r.stats.items + value = tallied items.size) :
    Counts r ({ r with items }.addStat .items value) quiet where
  items := h
  hidden h := h
  itemUpdates h := h
  hiddenUpdates h := h
  totals event hevent := (totals_set rfl hevent _ _).trans (Int64.add_zero (r.stats.get event)).symm

theorem counts_add {r : Registry} {item : Item} {items : Store} (h : r.items.insert item = .ok items) :
    Counts r ({ r with items }.addStat .items 1) quiet := by
  obtain ⟨hnone, rfl⟩ := Store.insert_eq_ok h
  refine counts_items fun hitems => ?_
  rw [hitems, Store.size_put_of_none hnone, tallied_add]
  rfl

theorem counts_remove {r : Registry} {id : ItemId} {slot : Slot} (h : r.items.slot? id = some slot) :
    Counts r ({ r with items := r.items.remove id }.addStat .items (-1)) quiet := by
  refine counts_items fun hitems => ?_
  rw [hitems, tallied_pred (Store.size_remove h)]

theorem counts_put {r : Registry} {id : ItemId} {item : Item} (h : r.items.item? id = some item) (next : Item) :
    Counts r { r with items := r.items.put id next } quiet where
  __ := Counts.refl r
  items hitems := by rw [hitems, Store.size_put_of_some (Store.slot?_of_item? h)]

theorem counts_seeds (keeper : SeedKeeper) : Counts r { r with seeds := keeper } quiet where
  __ := Counts.refl r

theorem counts_deleteOne : Counts r (r.deleteOne id).state quiet := by
  unfold deleteOne
  -- the end of the hiding and the removal of the item are each counted, whichever of them there is
  by_cases hhidden : r.hidden.contains id = true <;> cases hslot : r.items.slot? id <;>
    simp only [hhidden, if_true, if_false, Bool.false_eq_true]
  · rw [Store.remove_of_none hslot]
    exact (counts_queueHidden _ id .remove).countHidden
  · rename_i slot
    have hqueued := counts_queueHidden { r with hidden := r.hidden.erase id } id .remove
    have h := (hqueued.countHidden).then (counts_remove hslot)
    exact h.then (counts_queueItem _ id .remove)
  · rw [Store.remove_of_none hslot]
    exact Counts.refl r
  · exact (counts_remove hslot).then (counts_queueItem _ id .remove)

theorem counts_applyOne (now : Int64) (action : ItemAction) : Counts r (r.applyOne now action id).state quiet := by
  rcases r.applyOne_cases now action id with h | ⟨-, h⟩ | ⟨-, -, hshown, h⟩ | ⟨item, transition, hitem, -, -, -, h⟩
  · rw [h]
    exact Counts.refl r
  · rw [h]
    exact counts_deleteOne r id
  · rw [h]
    exact (counts_queueHidden _ id .add).countHidden
  · rw [h]
    exact (counts_put hitem _).then (counts_queueItem _ id .update)

theorem counts_applyEach (now : Int64) (action : ItemAction) (ids : List ItemId) (r : Registry) :
    Counts r (r.applyEach now action ids).state quiet := by
  induction ids generalizing r with
  | nil => exact Counts.refl r
  | cons id ids ih => exact (counts_applyOne r id now action).then (ih _)

end Items

/-! ## Bulk requests -/

/-- By how much an answered bulk request raises the totals. -/
def bulkNews (processed failed : Nat) : StatsEvent → Nat
  | .bulkCalls => 1
  | .itemsProcessed => processed
  | .itemsFailed => failed
  | _ => 0

/-- By how much a bulk request raises the totals, by its answer. -/
def answerNews : Except BulkError BulkResponse → StatsEvent → Nat
  | .ok response => bulkNews response.processed response.remaining
  | .error .unauthorized => raise .unauthorized 1
  | .error .emptyIds => quiet

section Bulk

variable {r : Registry}

theorem length_distinctIds (ids : List ItemId) : (distinctIds ids).length = ids.dedup.length := by
  refine List.Perm.length_eq ((List.perm_ext_iff_of_nodup (nodup_distinctIds ids) ids.nodup_dedup).2 fun id => ?_)
  rw [mem_distinctIds, List.mem_dedup]

theorem length_applyEach (now : Int64) (action : ItemAction) (ids : List ItemId) (r : Registry) :
    (r.applyEach now action ids).answer.length = ids.length := by
  induction ids generalizing r with
  | nil => rfl
  | cons id ids ih =>
    rw [applyEach, List.length_cons, List.length_cons, ih]

theorem Counts.recordTally {s : Registry} (h : Counts (r.addStat .bulkCalls 1) s quiet) (tally : BulkTally) :
    Counts r (s.recordTally tally) (bulkNews tally.processed (tally.notFound + tally.invalid)) := by
  have hcalls : Counts r s (raise .bulkCalls 1) := (counts_addStat r rfl 1).trans h
  have hprocessed := counts_addStat s (rfl : StatsEvent.itemsProcessed.isTotal = true) tally.processed
  have hfailed := counts_addStat (s.addStat .itemsProcessed (tallied tally.processed))
    (rfl : StatsEvent.itemsFailed.isTotal = true) (tally.notFound + tally.invalid)
  refine ((hcalls.trans hprocessed).trans hfailed).congr fun event _ => ?_
  cases event <;> simp [raise, bulkNews]

theorem counts_finishUnhide (r : Registry) (hidden : HiddenSet) (requested : Nat) (removed : List HiddenEntry) :
    Counts r (finishUnhide { r with hidden } requested removed).state
      (bulkNews removed.length (requested - removed.length)) := by
  have hqueued : ∀ s : Registry, Counts s (queueTaken s removed) quiet := by
    intro s
    induction removed generalizing s with
    | nil => exact Counts.refl s
    | cons entry removed ih => exact (counts_queueHidden s entry.id .remove).then (ih _)
  exact (Counts.recordTally (hqueued _) ⟨requested, removed.length, requested - removed.length, 0⟩).countHidden

theorem counts_applyAction (r : Registry) (now : Int64) (action : ItemAction) (ids : List ItemId) :
    Counts r (r.applyAction now action ids).state (answerNews (r.applyAction now action ids).answer) := by
  unfold applyAction
  split
  · exact Counts.refl r
  · have heach := counts_applyEach now action (distinctIds ids) (r.addStat .bulkCalls 1)
    generalize (r.addStat .bulkCalls 1).applyEach now action (distinctIds ids) = done at heach
    obtain ⟨hrequested, hsum⟩ := BulkTally.balanced_ofOutcomes done.answer
    have hfailed : (BulkTally.ofOutcomes done.answer).remaining =
        (BulkTally.ofOutcomes done.answer).notFound + (BulkTally.ofOutcomes done.answer).invalid := by
      rw [BulkTally.remaining]
      omega
    show Counts r _ (bulkNews _ (BulkTally.ofOutcomes done.answer).remaining)
    rw [hfailed]
    exact heach.recordTally (BulkTally.ofOutcomes done.answer)

theorem counts_unhide (r : Registry) (ids : List ItemId) (passkey : Option String) :
    Counts r (r.unhide ids passkey).state (answerNews (r.unhide ids passkey).answer) := by
  unfold unhide
  split
  · exact Counts.refl r
  · split
    · exact counts_addStat r rfl 1
    · exact counts_finishUnhide r _ _ _

theorem counts_unhideAll (r : Registry) (passkey : Option String) :
    Counts r (r.unhideAll passkey).state (answerNews (r.unhideAll passkey).answer) := by
  unfold unhideAll
  split
  · exact counts_addStat r rfl 1
  · exact counts_finishUnhide r _ _ _

theorem settled_finishUnhide {requested : Nat} {removed : List HiddenEntry} {response : BulkResponse}
    (hle : removed.length ≤ requested) (h : (finishUnhide r requested removed).answer.toOption = some response) :
    response.processed + response.remaining = requested := by
  obtain rfl := Option.some.inj h
  exact Nat.add_sub_cancel' hle

/-- What was processed of a bulk request and what was not are all that it asked for. -/
theorem settled_bulk {q : Request} {bulk : AnsweredBulk} (h : q.bulk? r = some bulk) :
    bulk.response.processed + bulk.response.remaining = bulk.requested := by
  cases q with
  | applyAction now action ids =>
    obtain ⟨response, hresponse, rfl⟩ := Option.map_eq_some_iff.1 h
    unfold applyAction at hresponse
    split at hresponse
    · cases hresponse
    · obtain rfl := Option.some.inj hresponse
      have hlength := length_applyEach now action (distinctIds ids) (r.addStat .bulkCalls 1)
      rw [length_distinctIds] at hlength
      obtain ⟨hrequested, hsum⟩ := BulkTally.balanced_ofOutcomes
        ((r.addStat .bulkCalls 1).applyEach now action (distinctIds ids)).answer
      simp only [BulkTally.response, BulkTally.remaining]
      omega
  | unhide ids passkey =>
    obtain ⟨response, hresponse, rfl⟩ := Option.map_eq_some_iff.1 h
    by_cases hids : ids = []
    · rw [unhide, if_pos hids] at hresponse
      cases hresponse
    rw [unhide_eq r hids] at hresponse
    split at hresponse
    · rw [← length_distinctIds]
      exact settled_finishUnhide (r.hidden.length_takeOut_le (distinctIds ids)) hresponse
    · cases hresponse
  | unhideAll passkey =>
    obtain ⟨response, hresponse, rfl⟩ := Option.map_eq_some_iff.1 h
    rw [unhideAll_eq] at hresponse
    split at hresponse
    · have hle := r.hidden.length_takeOut_le (r.hidden.entries.map (·.id))
      rw [List.length_map, HiddenSet.length_entries] at hle
      exact settled_finishUnhide hle hresponse
    · cases hresponse
  | _ => cases h

end Bulk

/-! ## Requests -/

section Requests

variable (r : Registry)

theorem counts_addItem (item : Item) : Counts r (r.addItem item).state quiet := by
  unfold addItem
  split
  · exact Counts.refl r
  · rename_i items hinsert
    exact (counts_add hinsert).then (counts_queueItem _ item.id .add)

theorem counts_reportProgress (id : ItemId) (update : ProgressUpdate) :
    Counts r (r.reportProgress id update).state
      (raise .progressReports (r.reportProgress id update).answer.isOk.toNat) := by
  unfold reportProgress Store.get
  cases hitem : r.items.item? id with
  | none => exact counts_raise_zero r _
  | some item =>
    simp only
    split
    · exact counts_raise_zero r _
    · rename_i next _
      have hput := (counts_put hitem next).then (counts_addStat _ (rfl : StatsEvent.progressReports.isTotal = true) 1)
      exact (hput.trans (counts_queueItem _ id .update)).congr fun event _ => Nat.add_zero _

theorem counts_reportError (id : ItemId) : Counts r (r.reportError id).state quiet := by
  unfold reportError Store.updateState Store.get
  cases hitem : r.items.item? id with
  | none => exact Counts.refl r
  | some item =>
    simp only [bind, Except.bind, pure, Except.pure]
    have hput := counts_put hitem { item with state := .error }
    split
    · exact hput
    · exact hput.then (counts_queueItem _ id .update)

theorem counts_resetUploaded (id : ItemId) : Counts r (r.resetUploaded id).state quiet := by
  unfold resetUploaded Store.modify
  cases hitem : r.items.item? id with
  | none => exact Counts.refl r
  | some item => exact (counts_put hitem item.resetUploaded).then (counts_queueItem _ id .update)

theorem counts_hiddenEntries (passkey : Option String) :
    Counts r (r.hiddenEntries passkey).state
      (raise .unauthorized ((Request.hiddenEntries passkey).refused r).toNat) := by
  simp only [Request.refused]
  unfold hiddenEntries
  split
  · rename_i e _
    cases e
    exact counts_addStat r rfl 1
  · exact counts_raise_zero r _

theorem counts_hiddenItems (passkey : Option String) :
    Counts r (r.hiddenItems passkey).state
      (raise .unauthorized ((Request.hiddenItems passkey).refused r).toNat) := by
  simp only [Request.refused]
  unfold hiddenItems
  split
  · rename_i e _
    cases e
    exact counts_addStat r rfl 1
  · exact counts_raise_zero r _

theorem answerNews_eq {q : Request} {answer : Except BulkError BulkResponse} {requested : Nat}
    (hbulk : q.bulk? r = answer.toOption.map (⟨requested, ·⟩))
    (hrefused : q.refused r = decide (answer = .error .unauthorized)) (hreported : q.reported r = false)
    (hseeds : q.renewsSeeds = false) (event : StatsEvent) : answerNews answer event = q.news r event := by
  rcases answer with (_ | _) | response <;> cases event <;>
    simp [answerNews, bulkNews, quiet, raise, Request.news, Except.toOption, hbulk, hrefused, hreported, hseeds]

theorem serve_counts (q : Request) : Counts r (r.serve q) (q.news r) := by
  cases q with
  | addItem item => exact (counts_addItem r item).congr fun event _ => by cases event <;> rfl
  | reportProgress id update => exact (counts_reportProgress r id update).congr fun event _ => by cases event <;> rfl
  | reportError id => exact (counts_reportError r id).congr fun event _ => by cases event <;> rfl
  | resetUploaded id => exact (counts_resetUploaded r id).congr fun event _ => by cases event <;> rfl
  | applyOne now action id => exact (counts_applyOne r id now action).congr fun event _ => by cases event <;> rfl
  | applyAction now action ids =>
    have hrefused : (r.applyAction now action ids).answer ≠ .error .unauthorized := by
      unfold applyAction
      split <;> exact nofun
    exact (counts_applyAction r now action ids).congr fun event _ =>
      answerNews_eq r (q := .applyAction now action ids) rfl (decide_eq_false hrefused).symm rfl rfl event
  | unhide ids passkey =>
    exact (counts_unhide r ids passkey).congr fun event _ => answerNews_eq r rfl rfl rfl rfl event
  | unhideAll passkey =>
    exact (counts_unhideAll r passkey).congr fun event _ => answerNews_eq r rfl rfl rfl rfl event
  | hiddenEntries passkey => exact (counts_hiddenEntries r passkey).congr fun event _ => by cases event <;> rfl
  | hiddenItems passkey => exact (counts_hiddenItems r passkey).congr fun event _ => by cases event <;> rfl
  | saveSeeds seeds =>
    have hadded := counts_addStat { r with seeds := r.seeds.save seeds } (rfl : StatsEvent.seedChanges.isTotal = true) 1
    exact ((counts_seeds r _).then hadded).congr fun event _ => by cases event <;> rfl
  | autoGenerateSeeds entropy =>
    have hadded := counts_addStat { r with seeds := (r.seeds.autoGenerate entropy).1 }
      (rfl : StatsEvent.seedChanges.isTotal = true) 1
    exact ((counts_seeds r _).then hadded).congr fun event _ => by cases event <;> rfl
  | acknowledgeRestart => exact (counts_seeds r _).congr fun event _ => by cases event <;> rfl
  | queueItem id action => exact (counts_queueItem r id action).congr fun event _ => by cases event <;> rfl
  | queueHidden id action => exact (counts_queueHidden r id action).congr fun event _ => by cases event <;> rfl

end Requests

/-! ## Loading and storing -/

section Storage

variable {σ : Type}

theorem countsQueues_items (r : Registry) (items : Store) : CountsQueues r { r with items } quiet where
  __ := CountsQueues.refl r

theorem countsQueues_insertLoaded (items : List Item) (r : Registry) :
    CountsQueues r (r.insertLoaded items).state quiet := by
  induction items generalizing r with
  | nil => exact CountsQueues.refl r
  | cons item items ih =>
    rw [insertLoaded]
    split
    · exact (countsQueues_items r _).then (ih _)
    · exact ih r

theorem countsQueues_insertHidden (records : List HiddenRecord) (r : Registry) :
    CountsQueues r (r.insertHidden records).state quiet := by
  induction records generalizing r with
  | nil => exact CountsQueues.refl r
  | cons record records ih =>
    rw [insertHidden]
    split
    · exact (counts_queueHidden r record.entry.id .remove).toCountsQueues.then (ih _)
    · split
      · exact (countsQueues_items r _).then (ih _)
      · exact (counts_queueItem r record.entry.id .update).toCountsQueues.then (ih _)

/-- Hidden records are taken over with a count of all items and of all hidden ids. -/
theorem counts_loadHidden (r : Registry) (records : List HiddenRecord) :
    CountsQueues r (r.loadHidden records).state quiet ∧
      (r.loadHidden records).state.stats.items = tallied (r.loadHidden records).state.items.size ∧
      (r.loadHidden records).state.stats.hidden = tallied (r.loadHidden records).state.hidden.size := by
  have hinsert := countsQueues_insertHidden records r
  refine ⟨⟨hinsert.itemUpdates, hinsert.hiddenUpdates, fun event hevent => ?_⟩, rfl, rfl⟩
  rw [← hinsert.totals event hevent]
  exact totals_set_set (rfl : StatsEvent.items.isTotal = false) (rfl : StatsEvent.hidden.isTotal = false) hevent _ _ _

theorem countsQueues_loadSeeds (r : Registry) (seeds : Option SeedConfig) :
    CountsQueues r (r.loadSeeds seeds).state quiet := by
  cases seeds with
  | none => exact CountsQueues.refl r
  | some config => exact (counts_seeds r _).toCountsQueues

theorem countsQueues_load (r : Registry) (backend : Backend σ) (s : σ) :
    CountsQueues r (r.load backend s).state.1 quiet := by
  refine load_induction (P := fun loaded => CountsQueues r loaded quiet) ?_ ?_ ?_ r backend s (CountsQueues.refl r)
  · exact fun loaded items h => h.then (countsQueues_insertLoaded items loaded)
  · exact fun loaded records h => h.then (counts_loadHidden loaded records).1
  · exact fun loaded seeds h => h.then (countsQueues_loadSeeds loaded seeds)

/-- Loading that succeeds counts what is there, whatever was counted before. -/
theorem counts_load {r : Registry} {backend : Backend σ} {s : σ} (h : (r.load backend s).answer = .ok ()) :
    Counts r (r.load backend s).state.1 quiet := by
  have hcounted : (r.load backend s).state.1.stats.items = tallied (r.load backend s).state.1.items.size ∧
      (r.load backend s).state.1.stats.hidden = tallied (r.load backend s).state.1.hidden.size := by
    unfold load at h ⊢
    simp only at h ⊢
    split at h
    · cases h
    · split at h
      · cases h
      · split at h
        · cases h
        · rename_i seeds _
          cases seeds <;> exact ⟨rfl, rfl⟩
  exact ⟨countsQueues_load r backend s, fun _ => hcounted.1, fun _ => hcounted.2⟩

theorem counts_drained (r : Registry) : Counts r r.drained quiet where
  items h := h
  hidden h := h
  itemUpdates _ := rfl
  hiddenUpdates _ := rfl
  totals event hevent := (totals_set_set rfl rfl hevent _ _ _).trans (Int64.add_zero (r.stats.get event)).symm

theorem counts_requeued (r : Registry) (items hidden : Pending) : Counts r (r.requeued items hidden) quiet where
  items h := h
  hidden h := h
  itemUpdates _ := rfl
  hiddenUpdates _ := rfl
  totals event hevent := (totals_set_set rfl rfl hevent _ _ _).trans (Int64.add_zero (r.stats.get event)).symm

theorem counts_setSaved (r : Registry) (now : Int64) : Counts r (r.setStat .timestampSave now) quiet where
  items h := h
  hidden h := h
  itemUpdates h := h
  hiddenUpdates h := h
  totals event hevent := (totals_set rfl hevent _ _).trans (Int64.add_zero (r.stats.get event)).symm

theorem counts_flush (r : Registry) (now : Int64) (backend : Backend σ) (s : σ) :
    Counts r (r.flush now backend s).state.1 quiet := by
  unfold flush
  simp only
  split
  · exact (counts_drained r).then (counts_requeued _ _ _)
  · have hseeds : ∀ s, Counts r.drained (r.drained.flushSeeds backend s).state.1 quiet := by
      intro s
      unfold flushSeeds
      simp only
      split
      · split
        · exact Counts.refl _
        · exact counts_seeds _ _
      · exact Counts.refl _
    split
    · exact (counts_drained r).then (hseeds _)
    · exact ((counts_drained r).then (hseeds _)).then (counts_setSaved _ now)

end Storage

/-! ## Runs -/

/-- The queues are counted. -/
structure QueuesCounted (r : Registry) : Prop where
  itemUpdates : r.stats.itemsUpdates = tallied r.itemUpdates.size
  hiddenUpdates : r.stats.hiddenUpdates = tallied r.hiddenUpdates.size

theorem queuesCounted_start (config : Configuration) (now : Int64) : (start config now).QueuesCounted := ⟨rfl, rfl⟩

theorem CountsQueues.queuesCounted {r s : Registry} {news : StatsEvent → Nat} (h : CountsQueues r s news)
    (hr : r.QueuesCounted) : s.QueuesCounted := ⟨h.itemUpdates hr.itemUpdates, h.hiddenUpdates hr.hiddenUpdates⟩

/-- The queues are counted after every run, whichever calls of a backend failed. -/
theorem queuesCounted_run (ops : List Operation) {r : Registry} (h : r.QueuesCounted) : (r.run ops).QueuesCounted := by
  refine run_induction (fun r op hr => ?_) ops h
  cases op with
  | request q => exact (serve_counts r q).queuesCounted hr
  | load backend s => exact (countsQueues_load r backend s).queuesCounted hr
  | flush now backend s => exact (counts_flush r now backend s).queuesCounted hr

/-- Loading succeeds, whenever it is done. -/
def LoadsSucceed (r : Registry) : List Operation → Prop
  | [] => True
  | .load backend s :: ops => (r.load backend s).answer = .ok () ∧ LoadsSucceed (r.load backend s).state.1 ops
  | op :: ops => LoadsSucceed (r.perform op) ops

/-- A request, and the registry that it was put to. -/
structure Asked where
  before : Registry
  request : Request

/-- The requests of a run. -/
def asked (r : Registry) : List Operation → List Asked
  | [] => []
  | .request q :: ops => ⟨r, q⟩ :: asked (r.serve q) ops
  | op :: ops => asked (r.perform op) ops

/-- By how much requests raise the totals. -/
def allNews (asked : List Asked) (event : StatsEvent) : Nat := (asked.map fun a => a.request.news a.before event).sum

theorem counts_run (ops : List Operation) {r : Registry} (h : r.LoadsSucceed ops) :
    Counts r (r.run ops) (allNews (r.asked ops)) := by
  induction ops generalizing r with
  | nil => exact Counts.refl r
  | cons op ops ih =>
    cases op with
    | request q => exact (serve_counts r q).trans (ih h)
    | load backend s => exact (counts_load h.1).then (ih h.2)
    | flush now backend s => exact (counts_flush r now backend s).then (ih h)

/-- The bulk requests that were answered. -/
def bulks (asked : List Asked) : List AnsweredBulk := asked.filterMap fun a => a.request.bulk? a.before

section News

variable (asked : List Asked)

theorem sum_bulks (f : AnsweredBulk → Nat) :
    (asked.map fun a => ((a.request.bulk? a.before).toList.map f).sum).sum = ((bulks asked).map f).sum := by
  induction asked with
  | nil => rfl
  | cons first asked ih =>
    rw [List.map_cons, List.sum_cons, ih, bulks, bulks]
    cases hbulk : first.request.bulk? first.before with
    | none => simp [hbulk]
    | some bulk => simp [hbulk]

theorem sum_toNat (f : Asked → Bool) : (asked.map fun a => (f a).toNat).sum = asked.countP f := by
  induction asked with
  | nil => rfl
  | cons first asked ih =>
    rw [List.map_cons, List.sum_cons, ih, List.countP_cons, Nat.add_comm]
    cases f first <;> rfl

theorem allNews_bulkCalls : allNews asked .bulkCalls = (bulks asked).length := by
  have hsum := sum_bulks asked fun _ => 1
  simp only [List.map_const', List.sum_replicate_nat, Nat.mul_one] at hsum
  exact hsum

end News

/-- A counter shows a number: it is the number, as long as it can hold it. -/
structure Shows (counter : Int64) (n : Nat) : Prop where
  wraps : counter = tallied n
  toInt_eq : n < 2 ^ 63 → counter.toInt = n

theorem shows_tallied {counter : Int64} {n : Nat} (h : counter = tallied n) : Shows counter n :=
  ⟨h, fun hn => by rw [h, tallied, Int64.toInt_ofNat_of_lt hn]⟩

/-- The counters are those of the registry and of what was asked of it. -/
structure Mirrors (r : Registry) (asked : List Asked) : Prop where
  items : Shows r.stats.items r.itemCount
  hidden : Shows r.stats.hidden r.hiddenCount
  itemUpdates : Shows r.stats.itemsUpdates r.itemUpdates.size
  hiddenUpdates : Shows r.stats.hiddenUpdates r.hiddenUpdates.size
  bulkCalls : Shows r.stats.bulkCalls (bulks asked).length
  itemsProcessed : Shows r.stats.itemsProcessed ((bulks asked).map (·.response.processed)).sum
  itemsFailed : Shows r.stats.itemsFailed ((bulks asked).map (·.response.remaining)).sum
  settled : ∀ bulk ∈ bulks asked, bulk.response.processed + bulk.response.remaining = bulk.requested
  itemsSettled : Shows (r.stats.itemsProcessed + r.stats.itemsFailed) ((bulks asked).map (·.requested)).sum
  unauthorized : Shows r.stats.unauthorized (asked.countP fun a => a.request.refused a.before)
  progressReports : Shows r.stats.progressReports (asked.countP fun a => a.request.reported a.before)
  seedChanges : Shows r.stats.seedChanges (asked.countP fun a => a.request.renewsSeeds)

/-- After a run in which loading succeeded, the statistics say what there is and what was asked for. -/
theorem mirrors_run (config : Configuration) (now : Int64) (ops : List Operation)
    (h : (start config now).LoadsSucceed ops) :
    Mirrors ((start config now).run ops) ((start config now).asked ops) := by
  have hcounts := counts_run ops h
  have htotal : ∀ event, event.isTotal = true →
      ((start config now).run ops).stats.get event = tallied (allNews ((start config now).asked ops) event) := by
    intro event hevent
    have hzero : (start config now).stats.get event = 0 := by cases event <;> rfl
    rw [hcounts.totals event hevent, hzero, Int64.zero_add]
  generalize (start config now).run ops = r at hcounts htotal
  generalize (start config now).asked ops = asked at hcounts htotal
  have hsettled : ∀ bulk ∈ bulks asked, bulk.response.processed + bulk.response.remaining = bulk.requested := by
    intro bulk hbulk
    obtain ⟨a, -, ha⟩ := List.mem_filterMap.1 hbulk
    exact settled_bulk ha
  have hprocessed : r.stats.itemsProcessed = tallied ((bulks asked).map (·.response.processed)).sum :=
    (htotal .itemsProcessed rfl).trans (congrArg tallied (sum_bulks asked _))
  have hfailed : r.stats.itemsFailed = tallied ((bulks asked).map (·.response.remaining)).sum :=
    (htotal .itemsFailed rfl).trans (congrArg tallied (sum_bulks asked _))
  have hsum : ((bulks asked).map (·.response.processed)).sum + ((bulks asked).map (·.response.remaining)).sum =
      ((bulks asked).map (·.requested)).sum := by
    rw [← List.sum_map_add, List.map_congr_left hsettled]
  have hboth : r.stats.itemsProcessed + r.stats.itemsFailed = tallied ((bulks asked).map (·.requested)).sum :=
    calc r.stats.itemsProcessed + r.stats.itemsFailed
      _ = tallied ((bulks asked).map (·.response.processed)).sum +
          tallied ((bulks asked).map (·.response.remaining)).sum := by rw [hprocessed, hfailed]
      _ = tallied (((bulks asked).map (·.response.processed)).sum + ((bulks asked).map (·.response.remaining)).sum) :=
          (tallied_add _ _).symm
      _ = tallied ((bulks asked).map (·.requested)).sum := by rw [hsum]
  have hitems : (start config now).stats.items = tallied (start config now).items.size := by
    show (0 : Int64) = tallied (∅ : Store).size
    rw [Store.size_empty]
    rfl
  exact {
    items := shows_tallied (hcounts.items hitems)
    hidden := shows_tallied (hcounts.hidden rfl)
    itemUpdates := shows_tallied (hcounts.itemUpdates rfl)
    hiddenUpdates := shows_tallied (hcounts.hiddenUpdates rfl)
    bulkCalls := shows_tallied ((htotal .bulkCalls rfl).trans (congrArg tallied (allNews_bulkCalls asked)))
    itemsProcessed := shows_tallied hprocessed
    itemsFailed := shows_tallied hfailed
    settled := hsettled
    itemsSettled := shows_tallied hboth
    unauthorized := shows_tallied ((htotal .unauthorized rfl).trans (congrArg tallied (sum_toNat asked _)))
    progressReports := shows_tallied ((htotal .progressReports rfl).trans (congrArg tallied (sum_toNat asked _)))
    seedChanges := shows_tallied ((htotal .seedChanges rfl).trans (congrArg tallied (sum_toNat asked _))) }

/-- After loading, an item is added and hidden, the passkey is missing, and storing fails. -/
def Sample.operations : List Operation :=
  [.load Recorder.backend ⟨[], [], none, [], []⟩, .request (.addItem (.fresh default "item" 10)),
    .request (.applyAction 2 .hide [default, default]), .request (.unhideAll none),
    .flush 3 Recorder.backend ⟨[], [], none, ["save_hidden"], []⟩]

def Sample.fresh : Registry := start ⟨"info", ⟨"open sesame"⟩, ⟨8, 2, ["seed"]⟩, ⟨true, ".", 60⟩⟩ 0

theorem mirrors_run_sample :
    Sample.fresh.LoadsSucceed Sample.operations ∧
      (bulks (Sample.fresh.asked Sample.operations)).map (·.requested) = [1] ∧
      Mirrors (Sample.fresh.run Sample.operations) (Sample.fresh.asked Sample.operations) := by
  have hloads : Sample.fresh.LoadsSucceed Sample.operations := ⟨by decide +kernel, trivial⟩
  exact ⟨hloads, by decide +kernel, mirrors_run _ 0 Sample.operations hloads⟩

end Registry
end TransferRegistry
