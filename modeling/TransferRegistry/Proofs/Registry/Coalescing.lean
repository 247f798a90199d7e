import TransferRegistry.Proofs.Registry.Flush

/-!
# Queued changes come together

* `Queue`: the queue of the items or that of the hidden records. `Registry.enqueueAll`: changes that are queued one
  after the other, each in one of the two; a queue takes those that are for it (`pendingIn_enqueueAll`) and is counted
  after each (`enqueue_counted`).
* `Registry.pendingIn_requeued`: drained entries are put back to what was queued meanwhile.
* `Registry.losesNothing_enqueueAll`: whatever is queued, before a flush or while it is on its way, no id falls out of
  its queue.
-/

namespace TransferRegistry

/-- A queue of changes that are still to be stored. -/
inductive Queue where
  | items
  | hidden
deriving DecidableEq

/-- The counter that shows how long a queue is. -/
def Queue.counter : Queue → StatsEvent
  | items => .itemsUpdates
  | hidden => .hiddenUpdates

/-- A change to be queued. -/
structure QueuedChange where
  queue : Queue
  id : ItemId
  action : UpdatesAction

/-- The changes for one of the queues, in their order. -/
def Queue.entries (queue : Queue) (changes : List QueuedChange) : List (ItemId × UpdatesAction) :=
  (changes.filter (·.queue = queue)).map fun change => (change.id, change.action)

theorem Queue.entries_concat (queue : Queue) (changes : List QueuedChange) (change : QueuedChange) :
    queue.entries (changes ++ [change]) =
      queue.entries changes ++ if change.queue = queue then [(change.id, change.action)] else [] := by
  unfold entries
  rw [List.filter_append, List.map_append]
  by_cases hqueue : change.queue = queue <;> simp [hqueue]

namespace Registry

/-- What is pending in a queue. -/
def pendingIn (r : Registry) : Queue → Pending
  | .items => r.itemUpdates
  | .hidden => r.hiddenUpdates

def enqueue (r : Registry) (change : QueuedChange) : Registry :=
  match change.queue with
  | .items => r.queueItem change.id change.action
  | .hidden => r.queueHidden change.id change.action

/-- The registry after changes were queued one after the other. -/
def enqueueAll (r : Registry) (changes : List QueuedChange) : Registry := changes.foldl enqueue r

variable (r s : Registry) (change : QueuedChange) (changes : List QueuedChange) (queue : Queue)

/-! ## Queueing -/

/-- A change is queued where it belongs, and the other queue is left alone. -/
theorem pendingIn_enqueue :
    (r.enqueue change).pendingIn queue =
      if change.queue = queue then (r.pendingIn queue).push change.id change.action else r.pendingIn queue := by
  obtain ⟨target, id, action⟩ := change
  cases target <;> cases queue <;> rfl

/-- A queue is counted after each change. -/
theorem enqueue_counted :
    (r.enqueue change).stats.get change.queue.counter =
      tallied ((r.enqueue change).pendingIn change.queue).size := by
  obtain ⟨target, id, action⟩ := change
  cases target <;> rfl

theorem enqueueAll_concat : r.enqueueAll (changes ++ [change]) = (r.enqueueAll changes).enqueue change := by
  rw [enqueueAll, List.foldl_concat, enqueueAll]

theorem pendingIn_enqueueAll :
    (r.enqueueAll changes).pendingIn queue = (r.pendingIn queue).pushAll (queue.entries changes) := by
  induction changes using List.reverseRecOn with
  | nil => rfl
  | append_singleton changes change ih =>
    rw [enqueueAll_concat, pendingIn_enqueue, ih, Queue.entries_concat]
    by_cases hqueue : change.queue = queue
    · rw [if_pos hqueue, if_pos hqueue, Pending.pushAll_concat]
    · rw [if_neg hqueue, if_neg hqueue, List.append_nil]

/-! ## Draining and putting back -/

theorem pendingIn_drained : r.drained.pendingIn queue = ∅ := by
  cases queue <;> rfl

theorem pendingIn_requeued :
    (s.requeued r.itemUpdates r.hiddenUpdates).pendingIn queue = (s.pendingIn queue).restore (r.pendingIn queue) := by
  cases queue <;> rfl

theorem requeued_counted :
    (s.requeued r.itemUpdates r.hiddenUpdates).stats.get queue.counter =
      tallied ((s.requeued r.itemUpdates r.hiddenUpdates).pendingIn queue).size := by
  cases queue <;> rfl

/-! ## Nothing is lost -/

/-- Changes that are queued one after the other come together to one entry for each id, be it in the queues as they
are, or in the emptied ones, which the drained entries then join again. -/
structure LosesNothing (r : Registry) (changes : List QueuedChange) (queue : Queue) : Prop where
  coalesced : (r.pendingIn queue).Coalesces (queue.entries changes) ((r.enqueueAll changes).pendingIn queue)
  /-- After each change, the queue has as many entries as there are distinct ids, and is counted. -/
  counted (before : List QueuedChange) (change : QueuedChange) : before ++ [change] <+: changes →
    change.queue = queue →
      let ids := (r.pendingIn queue).keys ++ (queue.entries (before ++ [change])).map (·.1)
      (((r.enqueueAll before).enqueue change).pendingIn queue).size = ids.toFinset.card ∧
        ((r.enqueueAll before).enqueue change).stats.get queue.counter = tallied ids.toFinset.card
  meanwhile : (∅ : Pending).Coalesces (queue.entries changes) ((r.drained.enqueueAll changes).pendingIn queue)
  rejoined : (r.pendingIn queue).Rejoins ((r.drained.enqueueAll changes).pendingIn queue)
    (((r.drained.enqueueAll changes).requeued r.itemUpdates r.hiddenUpdates).pendingIn queue)
  recounted : let after := (r.drained.enqueueAll changes).requeued r.itemUpdates r.hiddenUpdates
    after.stats.get queue.counter = tallied (after.pendingIn queue).size
  /-- If nothing was queued meanwhile, all is as it was, and counted. -/
  idle : r.drained.requeued r.itemUpdates r.hiddenUpdates =
    { r with
      stats := (r.stats.set .itemsUpdates (tallied r.itemUpdates.size)).set .hiddenUpdates
        (tallied r.hiddenUpdates.size) }

theorem coalesces_enqueueAll :
    (r.pendingIn queue).Coalesces (queue.entries changes) ((r.enqueueAll changes).pendingIn queue) := by
  rw [pendingIn_enqueueAll]
  exact Pending.coalesces_pushAll _ _

/-- No id falls out of a queue, and of each id what counts is kept. -/
theorem losesNothing_enqueueAll : r.LosesNothing changes queue where
  coalesced := r.coalesces_enqueueAll changes queue
  counted before change _ hqueue := by
    subst hqueue
    have hsize := (r.coalesces_enqueueAll (before ++ [change]) change.queue).size
    rw [enqueueAll_concat] at hsize
    exact ⟨hsize, by rw [enqueue_counted, hsize]⟩
  meanwhile := by
    have hmeanwhile := r.drained.coalesces_enqueueAll changes queue
    rwa [pendingIn_drained] at hmeanwhile
  rejoined := by
    rw [pendingIn_requeued]
    exact Pending.rejoins_restore _ _
  recounted := requeued_counted r _ queue
  idle := r.requeued_drained

end Registry

end TransferRegistry
