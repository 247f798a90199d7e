import Mathlib.Logic.Relation
import TransferRegistry.Proofs.Hidden
import TransferRegistry.Proofs.Item.Store
import TransferRegistry.Proofs.Pending
import TransferRegistry.Proofs.Registry.Run

/-!
# What a request comes down to

A request changes what the registry keeps by a few single changes, each of which queues the id it changes.
`Registry.Move` lists them with what allows them, and `Registry.serve_moves` says that every request is a sequence of
them, so an invariant of the registry is a case for each kind of change.
-/

namespace TransferRegistry

/-- The action neither deletes an item nor hides it. -/
def ItemAction.Plain (action : ItemAction) : Prop := action ≠ .delete ∧ action ≠ .hide

namespace Request

/-- The request asks for an action on an item, at a time. -/
def Asks (q : Request) (now : Int64) (action : ItemAction) (id : ItemId) : Prop :=
  match q with
  | .applyOne time act item => time = now ∧ act = action ∧ item = id
  | .applyAction time act ids => time = now ∧ act = action ∧ id ∈ ids
  | _ => False

/-- The request makes one record of an item out of another by what the transfer reports. -/
def Reports (q : Request) (id : ItemId) (before after : Item) : Prop :=
  match q with
  | .reportProgress item update => item = id ∧ before.applyProgress update = .ok after
  | .reportError item => item = id ∧ after = { before with state := .error }
  | .resetUploaded item => item = id ∧ after = before.resetUploaded
  | _ => False

/-- The request asks with a passkey that the hiding of an id end. -/
def Unhides (q : Request) (passkey : Option String) (id : ItemId) : Prop :=
  match q with
  | .unhide ids given => given = passkey ∧ id ∈ ids
  | .unhideAll given => given = passkey
  | _ => False

end Request

namespace Registry

/-- A single change of what a registry keeps, by a request that allows it. -/
inductive Move (q : Request) : Registry → Registry → Prop where
  /-- Counters are not what the registry keeps. -/
  | count {r : Registry} (stats : Stats) : Move q r { r with stats }
  | pendItem {r : Registry} {id : ItemId} {action : UpdatesAction} (hq : q = .queueItem id action) :
    Move q r (r.queueItem id action)
  | pendHidden {r : Registry} {id : ItemId} {action : UpdatesAction} (hq : q = .queueHidden id action) :
    Move q r (r.queueHidden id action)
  | add {r : Registry} {item : Item} {items : Store} (hq : q = .addItem item)
    (hinsert : r.items.insert item = .ok items) : Move q r ({ r with items }.queueItem item.id .add)
  | report {r : Registry} {id : ItemId} {before after : Item} (hq : q.Reports id before after)
    (hitem : r.items.item? id = some before) :
    Move q r ({ r with items := r.items.put id after }.queueItem id .update)
  | act {r : Registry} {now : Int64} {action : ItemAction} {id : ItemId} {item : Item} {transition : Transition}
    (hq : q.Asks now action id) (hitem : r.items.item? id = some item) (hshown : r.hidden.contains id = false)
    (hplan : action.plan item = .ok transition) (hchanges : transition.changes item = true) :
    Move q r ({ r with items := r.items.put id (transition.applyTo item) }.queueItem id .update)
  | hide {r : Registry} {now : Int64} {id : ItemId} {item : Item} (hq : q.Asks now .hide id)
    (hitem : r.items.item? id = some item) (hshown : r.hidden.contains id = false) :
    Move q r ({ r with hidden := r.hidden.hide id now }.queueHidden id .add)
  /-- To delete a hidden item its hiding is ended first. -/
  | unhide {r : Registry} {id : ItemId}
    (hq : (∃ now, q.Asks now .delete id) ∨ ∃ passkey, q.Unhides passkey id ∧ r.hidden.opens passkey = true)
    (hhidden : r.hidden.contains id = true) :
    Move q r ({ r with hidden := r.hidden.erase id }.queueHidden id .remove)
  | delete {r : Registry} {now : Int64} {id : ItemId} {slot : Slot} (hq : q.Asks now .delete id)
    (hslot : r.items.slot? id = some slot) (hshown : r.hidden.contains id = false) :
    Move q r ({ r with items := r.items.remove id }.queueItem id .remove)
  | seeds {r : Registry} {keeper : SeedKeeper} (hdirty : keeper.dirty = true) : Move q r { r with seeds := keeper }

/-- Changes one after the other. -/
abbrev Moves (q : Request) : Registry → Registry → Prop := Relation.ReflTransGen (Move q)

/-! ## Counting leaves the rest alone -/

section Fields

variable (r : Registry) (id : ItemId) (action : UpdatesAction)

@[simp] theorem items_queueItem : (r.queueItem id action).items = r.items := rfl
@[simp] theorem hidden_queueItem : (r.queueItem id action).hidden = r.hidden := rfl
@[simp] theorem hiddenUpdates_queueItem : (r.queueItem id action).hiddenUpdates = r.hiddenUpdates := rfl
@[simp] theorem items_queueHidden : (r.queueHidden id action).items = r.items := rfl
@[simp] theorem hidden_queueHidden : (r.queueHidden id action).hidden = r.hidden := rfl
@[simp] theorem itemUpdates_queueHidden : (r.queueHidden id action).itemUpdates = r.itemUpdates := rfl

@[simp] theorem mem_itemUpdates_queueItem (other : ItemId) :
    other ∈ (r.queueItem id action).itemUpdates ↔ id = other ∨ other ∈ r.itemUpdates :=
  r.itemUpdates.mem_push id other action

@[simp] theorem mem_hiddenUpdates_queueHidden (other : ItemId) :
    other ∈ (r.queueHidden id action).hiddenUpdates ↔ id = other ∨ other ∈ r.hiddenUpdates :=
  r.hiddenUpdates.mem_push id other action

end Fields

/-! ## One item -/

/-- Only hiding is planned for who asks to hide. -/
theorem eq_hide_of_plan {action : ItemAction} {item : Item} (h : action.plan item = .ok .hide) : action = .hide := by
  cases action with
  | hide => rfl
  | pause =>
    simp only [ItemAction.plan] at h
    split at h
    · cases h
    · split at h <;> cases h
  | archive =>
    simp only [ItemAction.plan] at h
    split at h
    · split at h <;> cases h
    all_goals cases h
  | delete => cases h
  | resume =>
    simp only [ItemAction.plan] at h
    split at h
    · cases h
    · split at h <;> cases h

theorem changeOne_cases (r : Registry) (id : ItemId) (item : Item) (transition : Transition) :
    (transition.changes item = false ∧ (r.changeOne id item transition).state = r) ∨
    (transition.changes item = true ∧ (r.changeOne id item transition).state =
      { r with items := r.items.put id (transition.applyTo item) }.queueItem id .update) := by
  rw [changeOne]
  cases h : transition.changes item with
  | false => exact Or.inl ⟨rfl, rfl⟩
  | true => exact Or.inr ⟨rfl, rfl⟩

/-- An action that is planned for an item that is not hidden is done to its record. -/
theorem applyOne_eq_changeOne {r : Registry} {action : ItemAction} {id : ItemId} {item : Item}
    {transition : Transition} (now : Int64) (hdelete : action ≠ .delete) (hhide : action ≠ .hide)
    (hitem : r.items.item? id = some item) (hshown : r.hidden.contains id = false)
    (hplan : action.plan item = .ok transition) :
    r.applyOne now action id = r.changeOne id item transition := by
  rw [applyOne, if_neg hdelete, hitem]
  simp only [hshown, Bool.and_false, Bool.false_eq_true, if_false, hplan]
  cases transition with
  | hide => exact absurd (eq_hide_of_plan hplan) hhide
  | _ => rfl

/-- An action to one item leaves the registry as it is, takes the item out, hides it, or changes its record; the last
two only where the item is stored and not hidden. -/
theorem applyOne_cases (r : Registry) (now : Int64) (action : ItemAction) (id : ItemId) :
    (r.applyOne now action id).state = r ∨
    (action = .delete ∧ (r.applyOne now action id).state = (r.deleteOne id).state) ∨
    (action = .hide ∧ (∃ item, r.items.item? id = some item) ∧ r.hidden.contains id = false ∧
      (r.applyOne now action id).state =
        ({ r with hidden := r.hidden.hide id now }.queueHidden id .add).countHidden) ∨
    (∃ item transition, r.items.item? id = some item ∧ r.hidden.contains id = false ∧
      action.plan item = .ok transition ∧ transition.changes item = true ∧
      (r.applyOne now action id).state =
        { r with items := r.items.put id (transition.applyTo item) }.queueItem id .update) := by
  by_cases hdelete : action = .delete
  · refine Or.inr (Or.inl ⟨hdelete, ?_⟩)
    rw [applyOne, if_pos hdelete]
  cases hitem : r.items.item? id with
  | none =>
    left
    rw [applyOne, if_neg hdelete, hitem]
  | some item =>
    by_cases hhide : action = .hide
    · subst hhide
      have hstate : r.applyOne now .hide id = r.hideOne now id := by
        rw [applyOne, if_neg hdelete, hitem]
        rfl
      rw [hstate, hideOne]
      cases hhidden : r.hidden.contains id with
      | true => exact Or.inl rfl
      | false => exact Or.inr (Or.inr (Or.inl ⟨rfl, ⟨item, rfl⟩, rfl, rfl⟩))
    cases hhidden : r.hidden.contains id with
    | true =>
      left
      rw [applyOne, if_neg hdelete, hitem]
      simp [hhide, hhidden]
    | false =>
      cases hplan : action.plan item with
      | error e =>
        left
        rw [applyOne, if_neg hdelete, hitem]
        simp [hhidden, hplan]
      | ok transition =>
        rw [applyOne_eq_changeOne now hdelete hhide hitem hhidden hplan]
        rcases r.changeOne_cases id item transition with ⟨-, h⟩ | ⟨hchanges, h⟩
        · exact Or.inl h
        · exact Or.inr (Or.inr (Or.inr ⟨item, transition, rfl, rfl, hplan, hchanges, h⟩))

/-! ## What is shown of an id -/

/-- The record of an id, unless it is hidden. -/
def shown? (r : Registry) (id : ItemId) : Option Item := if r.hidden.contains id then none else r.items.item? id

section

variable {r : Registry} {id : ItemId} {item : Item}

theorem shown?_eq_some : r.shown? id = some item ↔ r.items.item? id = some item ∧ r.hidden.contains id = false := by
  unfold shown?
  cases r.hidden.contains id <;> simp

/-- To change the record of an id that is not hidden changes what is shown of this id. -/
theorem shown?_put (hshown : r.hidden.contains id = false) (next : Item) (other : ItemId) :
    ({ r with items := r.items.put id next }.queueItem id .update).shown? other =
      if id = other then some next else r.shown? other := by
  unfold shown?
  rw [hidden_queueItem, items_queueItem, Store.item?_put]
  by_cases heq : id = other
  · subst heq
    simp [hshown]
  · simp [heq]

variable {now : Int64} {action : ItemAction}

/-- For who may only change what is shown, an id that is not shown is not there. -/
theorem applyOne_of_not_shown (hplain : action.Plain) (h : r.shown? id = none) :
    r.applyOne now action id = ⟨r, .notFound, []⟩ := by
  rw [applyOne, if_neg hplain.1]
  cases hitem : r.items.item? id with
  | none => rfl
  | some item =>
    have hhidden : r.hidden.contains id = true := by
      by_contra hnot
      rw [Bool.not_eq_true] at hnot
      rw [shown?_eq_some.2 ⟨hitem, hnot⟩] at h
      cases h
    simp [hplain.2, hhidden]

theorem applyOne_of_shown (hplain : action.Plain) (h : r.shown? id = some item) :
    r.applyOne now action id = match action.plan item with
      | .error e => ⟨r, .invalidTransition, [.actionRefused e]⟩
      | .ok transition => r.changeOne id item transition := by
  obtain ⟨hitem, hshown⟩ := shown?_eq_some.1 h
  cases hplan : action.plan item with
  | error e =>
    rw [applyOne, if_neg hplain.1, hitem]
    simp [hshown, hplan]
  | ok transition => exact applyOne_eq_changeOne now hplain.1 hplain.2 hitem hshown hplan

end

/-! ## Requests as changes -/

section

variable {q : Request}

theorem Moves.count {r s : Registry} (h : Moves q r s) (stats : Stats) : Moves q r { s with stats } :=
  h.tail (.count stats)

theorem addItem_moves (r : Registry) (item : Item) : Moves (.addItem item) r (r.addItem item).state := by
  unfold addItem
  cases hinsert : r.items.insert item with
  | error e => exact .refl
  | ok items => exact Moves.count (.single (.add rfl hinsert)) _

theorem reportProgress_moves (r : Registry) (id : ItemId) (update : ProgressUpdate) :
    Moves (.reportProgress id update) r (r.reportProgress id update).state := by
  unfold reportProgress Store.get
  cases hitem : r.items.item? id with
  | none => exact .refl
  | some item =>
    simp only
    cases hnext : item.applyProgress update with
    | error e => exact .refl
    | ok next =>
      have hq : Request.Reports (.reportProgress id update) id item next := ⟨rfl, hnext⟩
      exact Moves.count (.single (.report hq hitem)) _

theorem reportError_moves (r : Registry) (id : ItemId) : Moves (.reportError id) r (r.reportError id).state := by
  unfold reportError Store.updateState Store.get
  cases hitem : r.items.item? id with
  | none => exact .refl
  | some item =>
    simp only [bind, Except.bind, pure, Except.pure]
    split
    · rename_i hprevious
      -- the record is put back as it was
      have hsame : ({ item with state := .error } : Item) = item := by
        cases item
        cases hprevious
        rfl
      rw [hsame, Store.put_self hitem]
    · have hq : Request.Reports (.reportError id) id item { item with state := .error } := ⟨rfl, rfl⟩
      exact .single (.report hq hitem)

theorem resetUploaded_moves (r : Registry) (id : ItemId) : Moves (.resetUploaded id) r (r.resetUploaded id).state := by
  unfold resetUploaded Store.modify
  cases hitem : r.items.item? id with
  | none => exact .refl
  | some item =>
    have hq : Request.Reports (.resetUploaded id) id item item.resetUploaded := ⟨rfl, rfl⟩
    exact .single (.report hq hitem)

/-- Ends the hiding of an id, if it is hidden. -/
def unhideOne (r : Registry) (id : ItemId) : Registry :=
  if r.hidden.contains id then { r with hidden := r.hidden.erase id }.queueHidden id .remove else r

/-- Takes the item of an id out, if there is one. -/
def takeOne (r : Registry) (id : ItemId) : Registry :=
  match r.items.slot? id with
  | some _ => { r with items := r.items.remove id }.queueItem id .remove
  | none => r

theorem deleteOne_state (r : Registry) (id : ItemId) :
    ∃ stats, (r.deleteOne id).state = { (r.unhideOne id).takeOne id with stats } := by
  unfold deleteOne unhideOne takeOne
  by_cases hhidden : r.hidden.contains id = true <;> cases hslot : r.items.slot? id
  all_goals simp only [hhidden, hslot, if_true, if_false, items_queueHidden, Bool.false_eq_true]
  · rw [Store.remove_of_none hslot]
    exact ⟨_, rfl⟩
  · exact ⟨_, rfl⟩
  · rw [Store.remove_of_none hslot]
    exact ⟨_, rfl⟩
  · exact ⟨_, rfl⟩

theorem contains_unhideOne (r : Registry) (id : ItemId) : (r.unhideOne id).hidden.contains id = false := by
  unfold unhideOne
  split
  · simp [HiddenSet.contains, HiddenSet.erase]
  · rwa [Bool.not_eq_true] at *

/-- Deleting ends the hiding first, if there is some, and then takes the item out, if it is stored. -/
theorem deleteOne_moves {now : Int64} {id : ItemId} (hq : q.Asks now .delete id) (r : Registry) :
    Moves q r (r.deleteOne id).state := by
  have hfirst : Moves q r (r.unhideOne id) := by
    unfold unhideOne
    split
    · exact .single (.unhide (Or.inl ⟨now, hq⟩) ‹_›)
    · exact .refl
  have hthen : Moves q (r.unhideOne id) ((r.unhideOne id).takeOne id) := by
    unfold takeOne
    split
    · exact .single (.delete hq ‹_› (r.contains_unhideOne id))
    · exact .refl
  obtain ⟨stats, h⟩ := r.deleteOne_state id
  rw [h]
  exact Moves.count (hfirst.trans hthen) stats

theorem applyOne_moves {now : Int64} {action : ItemAction} {id : ItemId} (hq : q.Asks now action id)
    (r : Registry) : Moves q r (r.applyOne now action id).state := by
  rcases r.applyOne_cases now action id with h | ⟨rfl, h⟩ | ⟨rfl, ⟨item, hitem⟩, hshown, h⟩ |
    ⟨item, transition, hitem, hshown, hplan, hchanges, h⟩
  · rw [h]
  · rw [h]
    exact deleteOne_moves hq r
  · rw [h]
    exact Moves.count (.single (.hide hq hitem hshown)) _
  · rw [h]
    exact .single (.act hq hitem hshown hplan hchanges)

theorem applyEach_moves {now : Int64} {action : ItemAction} (ids : List ItemId)
    (hq : ∀ id ∈ ids, q.Asks now action id) (r : Registry) : Moves q r (r.applyEach now action ids).state := by
  induction ids generalizing r with
  | nil => exact .refl
  | cons id ids ih =>
    have hfirst := applyOne_moves (hq id List.mem_cons_self) r
    exact hfirst.trans (ih (fun other ho => hq other (List.mem_cons_of_mem _ ho)) _)

end

theorem mem_distinctIds {ids : List ItemId} {id : ItemId} : id ∈ distinctIds ids ↔ id ∈ ids := by
  rw [distinctIds, Std.ExtTreeSet.mem_toList, Std.ExtTreeSet.mem_ofList, List.contains_iff_mem]

theorem applyAction_moves (r : Registry) (now : Int64) (action : ItemAction) (ids : List ItemId) :
    Moves (.applyAction now action ids) r (r.applyAction now action ids).state := by
  unfold applyAction
  split
  · exact .refl
  · have hstart : Moves (.applyAction now action ids) r (r.addStat .bulkCalls 1) := Moves.count .refl _
    have heach := applyEach_moves (q := .applyAction now action ids) (distinctIds ids)
      (fun id hid => ⟨rfl, rfl, mem_distinctIds.1 hid⟩) (r.addStat .bulkCalls 1)
    exact Moves.count (hstart.trans heach) _

/-! ## The end of hiding -/

/-- Queueing the entries that were taken out, one after the other. -/
def queueTaken (r : Registry) (removed : List HiddenEntry) : Registry :=
  removed.foldl (fun r entry => r.queueHidden entry.id .remove) r

theorem takeOut_moves {q : Request} {passkey : Option String} (ids : List ItemId)
    (hq : ∀ id ∈ ids, q.Unhides passkey id) (r : Registry) (hopens : r.hidden.opens passkey = true) :
    Moves q r (queueTaken { r with hidden := (r.hidden.takeOut ids).2 } (r.hidden.takeOut ids).1) := by
  induction ids generalizing r with
  | nil => exact .refl
  | cons id ids ih =>
    have hrest := fun other ho => hq other (List.mem_cons_of_mem _ ho)
    rw [HiddenSet.takeOut]
    split
    · exact ih hrest r hopens
    · rename_i entry hentry
      obtain ⟨hid, htime⟩ := HiddenSet.entry?_eq_some.1 hentry
      have hhidden : r.hidden.contains id = true := by rw [HiddenSet.contains_eq_isSome, htime]; rfl
      have hfirst : Move q r ({ r with hidden := r.hidden.erase id }.queueHidden id .remove) :=
        .unhide (Or.inr ⟨passkey, hq id List.mem_cons_self, hopens⟩) hhidden
      have hstill : ({ r with hidden := r.hidden.erase id }.queueHidden id .remove).hidden.opens passkey = true := by
        rw [hidden_queueHidden, HiddenSet.opens_erase, hopens]
      have h := ih hrest _ hstill
      rw [← hid] at h hfirst
      rw [← hid]
      exact Relation.ReflTransGen.head hfirst h

/-- To finish queues what was taken out, and counts. -/
theorem finishUnhide_state (r : Registry) (requested : Nat) (removed : List HiddenEntry) :
    ∃ stats, (finishUnhide r requested removed).state = { queueTaken (r.addStat .bulkCalls 1) removed with stats } := by
  have hfold : removed.foldl (fun r entry => r.queueHidden entry.id .remove) (r.addStat .bulkCalls 1) =
    queueTaken (r.addStat .bulkCalls 1) removed := rfl
  unfold finishUnhide
  simp only [hfold]
  generalize queueTaken (r.addStat .bulkCalls 1) removed = s
  exact ⟨_, rfl⟩

theorem finishUnhide_moves {q : Request} {passkey : Option String} (ids : List ItemId)
    (hq : ∀ id ∈ ids, q.Unhides passkey id) (r : Registry) (hopens : r.hidden.opens passkey = true)
    (requested : Nat) :
    Moves q r (finishUnhide { r with hidden := (r.hidden.takeOut ids).2 } requested (r.hidden.takeOut ids).1).state := by
  obtain ⟨stats, hstate⟩ := finishUnhide_state { r with hidden := (r.hidden.takeOut ids).2 } requested
    (r.hidden.takeOut ids).1
  have hcount : Move q r (r.addStat .bulkCalls 1) := .count _
  have htaken := takeOut_moves ids hq (r.addStat .bulkCalls 1) hopens
  rw [hstate]
  exact Moves.count (Relation.ReflTransGen.head hcount htaken) stats

/-- Who has the passkey takes the listed ids out. -/
theorem unhide_eq (r : Registry) {ids : List ItemId} (hids : ids ≠ []) (passkey : Option String) :
    r.unhide ids passkey =
      if r.hidden.opens passkey then
        finishUnhide { r with hidden := (r.hidden.takeOut (distinctIds ids)).2 } (distinctIds ids).length
          (r.hidden.takeOut (distinctIds ids)).1
      else r.unauthorized .unauthorized := by
  rw [unhide, if_neg hids, HiddenSet.unhide_eq]
  cases r.hidden.opens passkey <;> rfl

/-- Who has the passkey takes all hidden ids out. -/
theorem unhideAll_eq (r : Registry) (passkey : Option String) :
    r.unhideAll passkey =
      if r.hidden.opens passkey then
        finishUnhide { r with hidden := (r.hidden.takeOut (r.hidden.entries.map (·.id))).2 } r.hidden.size
          (r.hidden.takeOut (r.hidden.entries.map (·.id))).1
      else r.unauthorized .unauthorized := by
  rw [unhideAll, HiddenSet.unhideAll_eq, HiddenSet.takeOut_entries, ← HiddenSet.length_entries]
  cases r.hidden.opens passkey <;> rfl

theorem unhide_moves (r : Registry) (ids : List ItemId) (passkey : Option String) :
    Moves (.unhide ids passkey) r (r.unhide ids passkey).state := by
  by_cases hids : ids = []
  · rw [unhide, if_pos hids]
  rw [unhide_eq r hids]
  split
  · rename_i hopens
    have hq : ∀ id ∈ distinctIds ids, Request.Unhides (.unhide ids passkey) passkey id := fun id hid =>
      ⟨rfl, mem_distinctIds.1 hid⟩
    exact finishUnhide_moves (distinctIds ids) hq r hopens _
  · exact .single (.count _)

theorem unhideAll_moves (r : Registry) (passkey : Option String) :
    Moves (.unhideAll passkey) r (r.unhideAll passkey).state := by
  rw [unhideAll_eq]
  split
  · rename_i hopens
    have hq : ∀ id ∈ r.hidden.entries.map (·.id), Request.Unhides (.unhideAll passkey) passkey id := fun _ _ => rfl
    exact finishUnhide_moves _ hq r hopens _
  · exact .single (.count _)

theorem serve_moves (r : Registry) (q : Request) : Moves q r (r.serve q) := by
  cases q with
  | addItem item => exact addItem_moves r item
  | reportProgress id update => exact reportProgress_moves r id update
  | reportError id => exact reportError_moves r id
  | resetUploaded id => exact resetUploaded_moves r id
  | applyOne now action id =>
    have hq : Request.Asks (.applyOne now action id) now action id := ⟨rfl, rfl, rfl⟩
    exact applyOne_moves hq r
  | applyAction now action ids => exact applyAction_moves r now action ids
  | unhide ids passkey => exact unhide_moves r ids passkey
  | unhideAll passkey => exact unhideAll_moves r passkey
  | hiddenEntries passkey =>
    simp only [serve, hiddenEntries]
    split
    · exact .single (.count _)
    · exact .refl
  | hiddenItems passkey =>
    simp only [serve, hiddenItems]
    split
    · exact .single (.count _)
    · exact .refl
  | saveSeeds seeds => exact Moves.count (.single (.seeds rfl)) _
  | autoGenerateSeeds entropy => exact Moves.count (.single (.seeds rfl)) _
  | acknowledgeRestart =>
    simp only [serve, acknowledgeRestart, SeedKeeper.acknowledgeRestart]
    split
    · exact .single (.seeds rfl)
    · exact .refl
  | queueItem id action => exact .single (.pendItem rfl)
  | queueHidden id action => exact .single (.pendHidden rfl)

end Registry

end TransferRegistry
