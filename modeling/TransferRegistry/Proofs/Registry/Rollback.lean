import TransferRegistry.Proofs.Registry.Durability

/-!
# The copy that a restart takes

* `Write.Carries`: a write has the record of an item with it. `effects_of_carries`: of the stages of a flush only that of
  the new and changed items and that of the hidden records do, and no other stage undoes it.
* `item_effects`: once a write of a flush that was cut short carried the record of an item, a restart takes this record,
  unless the item is hidden, the removals were not done, and a visible copy was stored before: then it takes that copy.
* `restored_cutShort` says so of every session; in `rolledBack` the older copy is taken.
-/

namespace TransferRegistry

open Registry

/-- The write has a record of the item with it, visible or hidden. -/
def Write.Carries (w : Write) (id : ItemId) (item : Item) : Prop :=
  match w with
  | .upserts changes => changes[id]?.bind (·.result) = some item
  | .hiddenRecords changes => (changes[id]?.bind (·.result)).map (·.item) = some item
  | .removals _ => False

instance (w : Write) (id : ItemId) (item : Item) : Decidable (w.Carries id item) :=
  match w with
  | .upserts changes => inferInstanceAs (Decidable (changes[id]?.bind (·.result) = some item))
  | .hiddenRecords changes => inferInstanceAs (Decidable ((changes[id]?.bind (·.result)).map (·.item) = some item))
  | .removals _ => inferInstanceAs (Decidable False)

variable {dir : StateDirectory} {config : Configuration} {r : Registry} {d d' : Disk} {a : Archive} {id : ItemId}
variable {item : Item} {k : Nat}

/-! ## What the writes of a flush carry -/

/-- What a write carries is the visible or the hidden copy after it, whatever was there. -/
theorem Write.effect_of_carries {w : Write} (hc : w.Carries id item) :
    (∀ c, (w.effect id c).item = some item.refreshRatio) ∨
      ∀ c, (w.effect id c).record.map (·.item) = some item.refreshRatio := by
  cases w with
  | upserts changes =>
    left
    intro c
    obtain ⟨change, hchange, hresult⟩ := Option.bind_eq_some_iff.1 hc
    simp only [Write.effect, hchange, Option.map_some, hresult]
  | hiddenRecords changes =>
    right
    intro c
    obtain ⟨record, hrecord, rfl⟩ := Option.map_eq_some_iff.1 hc
    obtain ⟨change, hchange, hresult⟩ := Option.bind_eq_some_iff.1 hrecord
    simp only [Write.effect, hchange, Option.map_some, hresult, HiddenRecord.refresh]
  | removals changes => exact hc.elim

theorem pends_of_carries {w : Write} (hw : w ∈ r.changes.stages) (hc : w.Carries id item) : r.Pends id := by
  by_contra hp
  rcases Write.effect_of_carries hc with hcopy | hcopy
  all_goals
    have hnone := hcopy ⟨none, none⟩
    rw [effect_of_not_pends hp hw] at hnone
    cases hnone

section Stages

variable (h : r.Consistent)

include h

/-- A carried record is the present one, and what comes after its write leaves it where it was put. -/
theorem effects_of_carries {done : List Write} (hdone : ∀ w ∈ done, w ∈ r.changes.stages)
    (hcurrent : item.refreshRatio = item) (hcarried : ∃ w ∈ done, w.Carries id item) (c : Copies) :
    ((r.copies id).item = some item ∧ (effects done id c).item = some item) ∨
      ((r.copies id).record.map (·.item) = some item ∧ (effects done id c).record.map (·.item) = some item) := by
  obtain ⟨w, hw, hc⟩ := hcarried
  obtain ⟨before, after, rfl⟩ := List.append_of_mem hw
  have hstage := effect_cases h id (hdone w hw) ⟨none, none⟩
  have hafter : ∀ other ∈ after, other ∈ r.changes.stages := fun other ho =>
    hdone other (List.mem_append_right _ (List.mem_cons_of_mem _ ho))
  have hsplit : effects (before ++ w :: after) id c = effects after id (w.effect id (effects before id c)) :=
    List.foldl_append
  obtain ⟨hitem, hrecord⟩ := effects_cases h id hafter (w.effect id (effects before id c))
  rw [hsplit]
  rcases Write.effect_of_carries hc with hcopy | hcopy
  · left
    have hpresent := hstage.1
    rw [hcopy, hcurrent] at hpresent
    have hpresent := (hpresent.resolve_left nofun).symm
    rw [hcopy, hcurrent, hpresent, or_self] at hitem
    exact ⟨hpresent, hitem⟩
  · right
    have hpresent : (r.copies id).record.map (·.item) = some item := by
      have hsealed := hcopy ⟨none, none⟩
      rcases hstage.2 with heq | heq <;> rw [heq] at hsealed
      · cases hsealed
      · rw [hsealed, hcurrent]
    refine ⟨hpresent, ?_⟩
    rcases hrecord with heq | heq <;> rw [heq]
    · rw [hcopy, hcurrent]
    · exact hpresent

/-- The last write of a flush takes a hidden item that is queued out of the visible ones. -/
theorem writes_of_record {record : HiddenRecord} (hp : r.Pends id) (hcopies : r.copies id = ⟨none, some record⟩) :
    ∃ front, r.writes = front ++ [.removals r.changes.removals] ∧
      ∀ w ∈ front, ∀ c, (w.effect id c).item = c.item := by
  have hremoves : ∀ c, (Write.removals r.changes.removals).effect id c = { c with item := none } := by
    intro c
    rw [effect_removals hp, if_pos (Or.inl (by rw [hcopies]; rfl))]
  have hnonempty : (Write.removals r.changes.removals).nonempty = true := by
    by_contra hempty
    rw [Bool.not_eq_true] at hempty
    have hsame := Write.effect_of_isEmpty hempty id ⟨some record.item, none⟩
    rw [hremoves] at hsame
    cases hsame
  refine ⟨[Write.upserts r.changes.upserts, .hiddenRecords r.changes.hiddenRecords].filter (·.nonempty), ?_, ?_⟩
  · have hstages : r.changes.stages = [Write.upserts r.changes.upserts, .hiddenRecords r.changes.hiddenRecords] ++
        [Write.removals r.changes.removals] := rfl
    have hwrites : r.writes = r.changes.stages.filter (·.nonempty) := r.changes.writes_eq
    rw [hwrites, hstages, List.filter_append, List.filter_cons_of_pos hnonempty, List.filter_nil]
  · intro w hw c
    have hw := List.mem_of_mem_filter hw
    simp only [List.mem_cons, List.not_mem_nil, or_false] at hw
    rcases hw with rfl | rfl
    · rw [effect_upserts h hp, hcopies]
    · rw [effect_hiddenRecords h hp, hcopies]

theorem item_effects_take {record : HiddenRecord} (hp : r.Pends id) (hcopies : r.copies id = ⟨none, some record⟩)
    (k : Nat) (c : Copies) :
    (effects (r.writes.take k) id c).item = if k < r.writes.length then c.item else none := by
  obtain ⟨front, hwrites, hkept⟩ := writes_of_record h hp hcopies
  have hfront : ∀ done : List Write, (∀ w ∈ done, w ∈ front) → ∀ c, (effects done id c).item = c.item := by
    intro done
    induction done with
    | nil => exact fun _ _ => rfl
    | cons w done ih =>
      intro hdone c
      have hrest := ih (fun other ho => hdone other (List.mem_cons_of_mem _ ho)) (w.effect id c)
      exact hrest.trans (hkept w (hdone w List.mem_cons_self) c)
  have hlength : r.writes.length = front.length + 1 := by rw [hwrites, List.length_append, List.length_singleton]
  split
  · rename_i hk
    rw [hwrites, List.take_append_of_le_length (by omega)]
    exact hfront _ (fun w hw => List.mem_of_mem_take hw) c
  · rename_i hk
    have hsplit : effects (front ++ [.removals r.changes.removals]) id c =
        (Write.removals r.changes.removals).effect id (effects front id c) := List.foldl_append
    rw [List.take_of_length_le (by omega), hwrites, hsplit, effect_removals hp,
      if_pos (Or.inl (by rw [hcopies]; rfl))]

/-- The record that is loaded after some writes of a flush of which one carried the present one. -/
theorem item_effects (hitem : r.items.item? id = some item) (hcarried : ∃ w ∈ r.writes.take k, w.Carries id item)
    (c : Copies) :
    (effects (r.writes.take k) id c).item.or ((effects (r.writes.take k) id c).record.map (·.item)) =
      some (if r.hidden.contains id = true ∧ k < r.writes.length then c.item.getD item else item) := by
  have hstages : ∀ w ∈ r.writes.take k, w ∈ r.changes.stages := fun w hw => mem_stages (List.take_prefix k _) hw
  rcases effects_of_carries h hstages (h.items_sound.current hitem) hcarried c with ⟨hcopy, hdone⟩ | ⟨hcopy, hdone⟩
  · have hshown : r.hidden.contains id = false := by
      have hrecord := r.record_of_item id (by rw [hcopy]; nofun)
      exact (record_eq_none.1 hrecord).resolve_left (by rw [hitem]; nofun)
    rw [hdone, Option.some_or, if_neg (by rw [hshown]; nofun)]
  · obtain ⟨w, hw, hc⟩ := hcarried
    have hp := pends_of_carries (hstages w hw) hc
    rcases r.copies_cases id with ⟨hnone, -⟩ | ⟨stored, -, -, hcopies⟩ | ⟨stored, entry, -, hentry, hcopies⟩
    · rw [hnone] at hitem
      cases hitem
    · rw [hcopies] at hcopy
      cases hcopy
    · have hhidden : r.hidden.contains id = true := HiddenSet.entry?_ne_none.1 (by rw [hentry]; nofun)
      rw [item_effects_take h hp hcopies, hdone]
      by_cases hk : k < r.writes.length
      · rw [if_pos hk, if_pos ⟨hhidden, hk⟩]
        cases c.item <;> rfl
      · rw [if_neg hk, if_neg fun hcut => hk hcut.2, Option.none_or]

end Stages

/-! ## Sessions -/

theorem Archive.WellKeyed.storedCopy_values (ha : a.WellKeyed) (id : ItemId) :
    storedCopy a.visible.values id = (a.copies id).item := by
  rw [storedCopy, ha.visible.find?_values]
  rfl

/-- What is not queued is stored as the registry has it. -/
theorem Session.storedCopy_eq (h : Session dir config r d) {items : List Item}
    (hitems : (dir.backend.loadItems d).answer = .ok items) (hp : ¬r.Pends id) :
    storedCopy items id = (r.copies id).item := by
  obtain ⟨a, hsynced⟩ := h.invariant.synced
  rw [hsynced.holds.loadItems.1] at hitems
  obtain rfl := Except.ok.inj hitems
  rw [hsynced.holds.wellKeyed.storedCopy_values, (hsynced.tracks id).settled hp]

/-- A restart after a flush that was cut short takes over what the writes left that were done. -/
theorem Synced.restores_cutShort (h : Synced dir r d a) (hr : r.Consistent) {backend : Backend Disk}
    (hb : dir.Unreliable backend) (hcut : CutShort dir r backend k d d') (config : Configuration) (now : Int64) :
    ((start config now).load dir.backend d').answer = .ok () ∧
      Restores config ((r.writes.take k).foldl Archive.after a) ((start config now).load dir.backend d').state.1 := by
  have hkeyed : ∀ w ∈ r.writes.take k, w.WellKeyed := fun w hw =>
    wellKeyed_stages hr (mem_stages (List.take_prefix k r.writes) hw)
  obtain ⟨j, -, -, hholds, hall⟩ := h.holds.runWrites hb (r.writes.take k) hkeyed
  rw [hall hcut.written] at hholds
  obtain ⟨hanswer, hrestores, -⟩ := restore_spec (hholds.alike hcut.left) config now
  exact ⟨hanswer, hrestores⟩

theorem Registry.Restores.item?_eq {s : Registry} (h : Restores config a s) (id : ItemId) :
    s.items.item? id = (a.copies id).item.or ((a.copies id).record.map (·.item)) := by
  rw [s.item?_eq, h.copies, Copies.item_loaded]

/-- **What a write carried is restored, but for one case.** After a flush that was cut short, a restart gives the present
record of an item that a write carried. Only where the item is hidden and the flush stopped before the removals, a
visible copy that was stored before the flush is taken instead. -/
theorem restored_cutShort (h : Session dir config r d) {backend : Backend Disk} (hb : dir.Unreliable backend) :
    ∃ items, (dir.backend.loadItems d).answer = .ok items ∧
      ∀ k d', CutShort dir r backend k d d' → ∀ now, ((start config now).load dir.backend d').answer = .ok () ∧
        ∀ id item, r.items.item? id = some item → (∃ w ∈ r.writes.take k, w.Carries id item) →
          ((start config now).load dir.backend d').state.1.items.item? id =
            some (if r.hidden.contains id = true ∧ k < r.writes.length then (storedCopy items id).getD item
              else item) := by
  have hinv := h.invariant
  obtain ⟨a, hsynced⟩ := hinv.synced
  refine ⟨_, hsynced.holds.loadItems.1, fun k d' hcut now => ?_⟩
  obtain ⟨hanswer, hrestores⟩ := hsynced.restores_cutShort hinv.consistent hb hcut config now
  refine ⟨hanswer, fun id item hitem hcarried => ?_⟩
  have hloaded := item_effects hinv.consistent hitem hcarried (a.copies id)
  rw [hrestores.item?_eq, Archive.copies_foldl_after, hsynced.holds.wellKeyed.storedCopy_values]
  exact hloaded

namespace Sample

/-- The record of the item that was added. -/
def older : Item := .fresh default "item" 10

/-- The disk when the flush of a registry stopped after its first write. -/
def cut (backend : Backend Disk) (r : Registry) : Disk :=
  (runWrites directory.backend (r.writes.take 1) (added.flush 1 backend disk).state.2).state

end Sample

/-- The item was not stored before, so the hidden record is what there is. -/
theorem restored_cutShort_sample :
    CutShort Sample.directory (Sample.hidden Sample.failing) Sample.directory.backend 1
      (Sample.added.flush 1 Sample.failing Sample.disk).state.2
      (Sample.cut Sample.failing (Sample.hidden Sample.failing)) ∧
    (∃ w ∈ (Sample.hidden Sample.failing).writes.take 1, w.Carries default Sample.older) ∧
    ((start Sample.configuration 3).load Sample.directory.backend
      (Sample.cut Sample.failing (Sample.hidden Sample.failing))).state.1.items.item? default = some Sample.older := by
  have hsure := StateDirectory.unreliable_backend Sample.directory
  have hcut : CutShort Sample.directory (Sample.hidden Sample.failing) Sample.directory.backend 1
      (Sample.added.flush 1 Sample.failing Sample.disk).state.2
      (Sample.cut Sample.failing (Sample.hidden Sample.failing)) :=
    ⟨by decide +kernel, StateDirectory.Alike.refl Sample.directory _⟩
  have hcarried : ∃ w ∈ (Sample.hidden Sample.failing).writes.take 1, w.Carries default Sample.older := by
    decide +kernel
  obtain ⟨items, hitems, hrestored⟩ := restored_cutShort (Sample.session_hidden Sample.unreliable_failing) hsure
  have hnone : (Sample.directory.backend.loadItems (Sample.added.flush 1 Sample.failing Sample.disk).state.2).answer =
      .ok [] := by decide +kernel
  rw [hnone] at hitems
  obtain rfl := Except.ok.inj hitems
  have hloaded := (hrestored 1 _ hcut 3).2 default Sample.older (by decide +kernel) hcarried
  refine ⟨hcut, hcarried, hloaded.trans ?_⟩
  split <;> rfl

namespace Sample

def report : ProgressUpdate := ⟨6, 0, 4, 1, 1, none, none⟩

def newer : Item := older.takeProgress report

/-- The item was stored as a visible one, was hidden, and went on. -/
def progressed : Registry := (hidden directory.backend).serve (.reportProgress default report)

end Sample

/-- The record that was written is the newer one, and the older one is restored: what was downloaded is less again. -/
theorem rolledBack :
    Session Sample.directory Sample.configuration Sample.progressed
      (Sample.added.flush 1 Sample.directory.backend Sample.disk).state.2 ∧
    CutShort Sample.directory Sample.progressed Sample.directory.backend 1
      (Sample.added.flush 1 Sample.directory.backend Sample.disk).state.2
      (Sample.cut Sample.directory.backend Sample.progressed) ∧
    Sample.progressed.items.item? default = some Sample.newer ∧
    (∃ w ∈ Sample.progressed.writes.take 1, w.Carries default Sample.newer) ∧
    ((start Sample.configuration 3).load Sample.directory.backend
      (Sample.cut Sample.directory.backend Sample.progressed)).state.1.items.item? default = some Sample.older ∧
    Sample.older.downloaded < Sample.newer.downloaded ∧ Sample.newer.remaining < Sample.older.remaining := by
  have hsure := StateDirectory.unreliable_backend Sample.directory
  have hsaved := Sample.session_saved hsure
  have hsession : Session Sample.directory Sample.configuration Sample.progressed _ :=
    (Sample.session_hidden hsure).request (.reportProgress default Sample.report)
  have hcut : CutShort Sample.directory Sample.progressed Sample.directory.backend 1 _
      (Sample.cut Sample.directory.backend Sample.progressed) :=
    ⟨by decide +kernel, StateDirectory.Alike.refl Sample.directory _⟩
  have hitem : Sample.progressed.items.item? default = some Sample.newer := by decide +kernel
  have hcarried : ∃ w ∈ Sample.progressed.writes.take 1, w.Carries default Sample.newer := by decide +kernel
  refine ⟨hsession, hcut, hitem, hcarried, ?_, by decide, by decide⟩
  obtain ⟨a, hsynced⟩ := hsession.invariant.synced
  obtain ⟨-, hrestores⟩ := hsynced.restores_cutShort hsession.invariant.consistent hsure hcut Sample.configuration 3
  have hstored : (a.copies default).item = some Sample.older := by
    have hnot : ¬Pends (Sample.added.flush 1 Sample.directory.backend Sample.disk).state.1 default := by
      unfold Pends
      decide +kernel
    rw [← hsynced.holds.wellKeyed.storedCopy_values, hsaved.storedCopy_eq hsynced.holds.loadItems.1 hnot]
    decide +kernel
  have hstops : Sample.progressed.hidden.contains default = true ∧ 1 < Sample.progressed.writes.length := by
    decide +kernel
  have hloaded := item_effects hsession.invariant.consistent hitem hcarried (a.copies default)
  rw [if_pos hstops, hstored] at hloaded
  rw [hrestores.item?_eq, Archive.copies_foldl_after]
  exact hloaded

end TransferRegistry
