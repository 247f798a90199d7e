import Mathlib.Data.Finset.Card
import Mathlib.Data.List.Induction
import TransferRegistry.Pending
import TransferRegistry.Proofs.Storage.Collection

/-!
# Pending changes

* `Pending.pushAll`: actions that are queued one after the other. No id is lost (`mem_pushAll`), and of each id its
  last addition or removal is pending, or an update where there is none (`getElem?_pushAll`).
* `Pending.getElem?_restore`: a drained entry comes back where nothing is pending of its id, in whatever order the
  drained entries are put back (`foldl_putBack`).
* `Pending.Coalesces`, `Pending.Rejoins`: all that a queue is after the one and after the other
  (`coalesces_pushAll`, `rejoins_restore`); it has as many entries as there are distinct ids (`size_eq_card`).
-/

namespace TransferRegistry

namespace UpdatesAction

/-- What actions for one id come down to: the last addition or removal, or an update where there is none. -/
def lastOf (actions : List UpdatesAction) : UpdatesAction := (actions.filter (· ≠ .update)).getLast?.getD .update

theorem after_eq (action : UpdatesAction) (pending : Option UpdatesAction) :
    action.after pending = if action = .update then pending.getD .update else action := by
  rcases pending with _ | pending
  · cases action <;> rfl
  · cases pending <;> cases action <;> rfl

theorem lastOf_singleton (action : UpdatesAction) : lastOf [action] = action := by
  cases action <;> rfl

theorem lastOf_concat (actions : List UpdatesAction) (action : UpdatesAction) :
    lastOf (actions ++ [action]) = if action = .update then lastOf actions else action := by
  unfold lastOf
  rw [List.filter_append]
  by_cases hupdate : action = .update
  · have hnone : [action].filter (· ≠ .update) = [] := by simp [hupdate]
    rw [hnone, List.append_nil, if_pos hupdate]
  · have hone : [action].filter (· ≠ .update) = [action] := by simp [hupdate]
    rw [hone, List.getLast?_concat, if_neg hupdate]
    rfl

example : lastOf [.add, .update, .remove, .update] = .remove := rfl

end UpdatesAction

namespace Pending

open UpdatesAction (lastOf)

variable (pending drained : Pending) (entries : List (ItemId × UpdatesAction)) (id : ItemId)

/-! ## Queueing -/

theorem getElem?_push (other : ItemId) (action : UpdatesAction) :
    (pending.push id action)[other]? = if id = other then some (action.after pending[id]?) else pending[other]? := by
  rw [push, Std.ExtTreeMap.getElem?_insert]
  simp only [Std.compare_eq_iff_eq]

theorem mem_push (other : ItemId) (action : UpdatesAction) :
    other ∈ pending.push id action ↔ id = other ∨ other ∈ pending := by
  rw [push, Std.ExtTreeMap.mem_insert, Std.compare_eq_iff_eq]

/-- The queue after actions were queued one after the other. -/
def pushAll : Pending := entries.foldl (fun pending entry => pending.push entry.1 entry.2) pending

/-- The actions for an id, the one that was pending first. -/
def actionsOf : List UpdatesAction := pending[id]?.toList ++ (entries.filter (·.1 = id)).map (·.2)

theorem pushAll_concat (entry : ItemId × UpdatesAction) :
    pending.pushAll (entries ++ [entry]) = (pending.pushAll entries).push entry.1 entry.2 := by
  rw [pushAll, List.foldl_concat, pushAll]

theorem actionsOf_concat (entry : ItemId × UpdatesAction) :
    pending.actionsOf (entries ++ [entry]) id =
      pending.actionsOf entries id ++ if entry.1 = id then [entry.2] else [] := by
  unfold actionsOf
  rw [List.filter_append, List.map_append, ← List.append_assoc]
  by_cases hid : entry.1 = id <;> simp [hid]

/-- No id is lost, and none comes from elsewhere. -/
theorem mem_pushAll : id ∈ pending.pushAll entries ↔ id ∈ pending ∨ id ∈ entries.map (·.1) := by
  induction entries using List.reverseRecOn with
  | nil => simp [pushAll]
  | append_singleton entries entry ih =>
    rw [pushAll_concat, mem_push, ih, List.map_append, List.mem_append, List.map_singleton, List.mem_singleton,
      eq_comm, or_comm, or_assoc]

/-- Of each id, the last addition or removal is pending, or an update where there is none. The induction is from the
end: an update is told by the actions before it, any other action by itself. -/
theorem getElem?_pushAll :
    (pending.pushAll entries)[id]? =
      if pending.actionsOf entries id = [] then none else some (lastOf (pending.actionsOf entries id)) := by
  induction entries using List.reverseRecOn with
  | nil =>
    show pending[id]? = _
    have hactions : pending.actionsOf [] id = pending[id]?.toList := List.append_nil _
    rw [hactions]
    cases pending[id]? with
    | none => rfl
    | some action => exact congrArg some (UpdatesAction.lastOf_singleton action).symm
  | append_singleton entries entry ih =>
    rw [pushAll_concat, getElem?_push, actionsOf_concat]
    by_cases hid : entry.1 = id
    · have hne : pending.actionsOf entries id ++ [entry.2] ≠ [] := by simp
      rw [if_pos hid, if_pos hid, if_neg hne, UpdatesAction.lastOf_concat, UpdatesAction.after_eq, hid, ih]
      by_cases hnone : pending.actionsOf entries id = []
      · rw [if_pos hnone, hnone]
        rfl
      · rw [if_neg hnone]
        rfl
    · rw [if_neg hid, if_neg hid, List.append_nil, ih]

variable {pending drained entries id}

theorem actionsOf_ne_nil (h : id ∈ pending.pushAll entries) : pending.actionsOf entries id ≠ [] := by
  intro hnil
  rw [Std.ExtTreeMap.mem_iff_isSome_getElem?, getElem?_pushAll, if_pos hnil] at h
  cases h

/-- As many entries are pending as there are distinct ids. -/
theorem size_eq_card {ids : List ItemId} (h : ∀ id, id ∈ pending ↔ id ∈ ids) : pending.size = ids.toFinset.card := by
  have hkeys : pending.keys.toFinset = ids.toFinset := by
    ext id
    rw [List.mem_toFinset, List.mem_toFinset, Std.ExtTreeMap.mem_keys, h]
  calc pending.size
    _ = pending.keys.length := Std.ExtTreeMap.length_keys.symm
    _ = pending.keys.toFinset.card := (List.toFinset_card_of_nodup Std.ExtTreeMap.nodup_keys).symm
    _ = ids.toFinset.card := by rw [hkeys]

/-- A queue has one entry for each id that was pending or is named: its last addition or removal, or an update where
there is none. -/
structure Coalesces (start : Pending) (entries : List (ItemId × UpdatesAction)) (after : Pending) : Prop where
  pending (id : ItemId) : id ∈ after ↔ id ∈ start ∨ id ∈ entries.map (·.1)
  action (id : ItemId) : id ∈ after → after[id]? = some (lastOf (start.actionsOf entries id))
  size : after.size = (start.keys ++ entries.map (·.1)).toFinset.card

theorem coalesces_pushAll (start : Pending) (entries : List (ItemId × UpdatesAction)) :
    start.Coalesces entries (start.pushAll entries) where
  pending := start.mem_pushAll entries
  action id h := by rw [getElem?_pushAll, if_neg (actionsOf_ne_nil h)]
  size := size_eq_card fun id => by rw [mem_pushAll, List.mem_append, Std.ExtTreeMap.mem_keys]

/-! ## Putting back -/

variable (pending drained)

theorem restore_empty : restore ∅ pending = pending := by
  have hnil : (∅ : Pending).toList = [] := rfl
  rw [restore, hnil, Std.ExtTreeMap.insertMany_nil]

theorem getElem?_restore (id : ItemId) : (pending.restore drained)[id]? = pending[id]?.or drained[id]? := by
  rw [restore]
  cases hpending : pending[id]? with
  | none =>
    refine Std.ExtTreeMap.getElem?_insertMany_list_of_contains_eq_false ?_
    rw [Std.ExtTreeMap.map_fst_toList_eq_keys, ← Bool.not_eq_true, List.contains_iff_mem, Std.ExtTreeMap.mem_keys,
      Std.ExtTreeMap.mem_iff_isSome_getElem?, hpending]
    exact Bool.false_ne_true
  | some action =>
    exact Std.ExtTreeMap.getElem?_insertMany_list_of_mem Std.ReflCmp.compare_self Std.ExtTreeMap.distinct_keys_toList
      (Std.ExtTreeMap.mem_toList_iff_getElem?_eq_some.2 hpending)

theorem mem_restore (id : ItemId) : id ∈ pending.restore drained ↔ id ∈ drained ∨ id ∈ pending := by
  simp only [Std.ExtTreeMap.mem_iff_isSome_getElem?, getElem?_restore, Option.isSome_or, Bool.or_eq_true]
  exact or_comm

/-- Puts a drained entry back, unless its id is pending again. -/
def putBack (entry : ItemId × UpdatesAction) : Pending := pending.insertIfNew entry.1 entry.2

theorem getElem?_putBack (entry : ItemId × UpdatesAction) (id : ItemId) :
    (pending.putBack entry)[id]? = pending[id]?.or (if entry.1 = id then some entry.2 else none) := by
  rw [putBack, Std.ExtTreeMap.getElem?_insertIfNew]
  simp only [Std.compare_eq_iff_eq]
  by_cases hid : entry.1 = id
  · subst hid
    cases hpending : pending[entry.1]? <;> simp [Std.ExtTreeMap.mem_iff_isSome_getElem?, hpending]
  · simp [hid]

theorem getElem?_foldl_putBack (entries : List (ItemId × UpdatesAction)) (id : ItemId) :
    (entries.foldl putBack pending)[id]? = pending[id]?.or ((entries.find? (·.1 = id)).map (·.2)) := by
  induction entries generalizing pending with
  | nil => exact (Option.or_none).symm
  | cons entry entries ih =>
    rw [List.foldl_cons, ih, getElem?_putBack, Option.or_assoc, List.find?_cons]
    by_cases hid : entry.1 = id <;> simp [hid]

/-- The order in which drained entries are put back makes no difference. -/
theorem foldl_putBack {entries : List (ItemId × UpdatesAction)} (h : entries.Perm drained.toList) :
    entries.foldl putBack pending = pending.restore drained := by
  have hnodup : (entries.map (·.1)).Nodup := (h.map (·.1)).nodup_iff.2 (nodup_toList drained)
  refine Std.ExtTreeMap.ext_getElem? fun id => ?_
  have hfind : entries.find? (·.1 = id) = drained.toList.find? (·.1 = id) := Option.ext fun entry => by
    rw [find?_eq_some_iff_of_nodup hnodup, find?_eq_some_iff_of_nodup (nodup_toList drained), h.mem_iff]
  rw [getElem?_foldl_putBack, hfind, find?_toList, getElem?_restore]

/-- A queue has the drained entries and those that were queued meanwhile; where both have one of an id, the newer. -/
structure Rejoins (drained meanwhile after : Pending) : Prop where
  pending (id : ItemId) : id ∈ after ↔ id ∈ drained ∨ id ∈ meanwhile
  newer (id : ItemId) : id ∈ meanwhile → after[id]? = meanwhile[id]?
  older (id : ItemId) : id ∉ meanwhile → after[id]? = drained[id]?
  size : after.size = (drained.keys ++ meanwhile.keys).toFinset.card
  anyOrder (entries : List (ItemId × UpdatesAction)) : entries.Perm drained.toList →
    entries.foldl putBack meanwhile = after

theorem rejoins_restore (drained meanwhile : Pending) : drained.Rejoins meanwhile (meanwhile.restore drained) where
  pending := meanwhile.mem_restore drained
  newer id h := by
    obtain ⟨action, haction⟩ := Option.isSome_iff_exists.1 (Std.ExtTreeMap.mem_iff_isSome_getElem?.1 h)
    rw [getElem?_restore, haction, Option.some_or]
  older id h := by rw [getElem?_restore, Std.ExtTreeMap.getElem?_eq_none h, Option.none_or]
  size := size_eq_card fun id => by
    rw [mem_restore, List.mem_append, Std.ExtTreeMap.mem_keys, Std.ExtTreeMap.mem_keys]
  anyOrder _ h := meanwhile.foldl_putBack drained h

end Pending

end TransferRegistry
