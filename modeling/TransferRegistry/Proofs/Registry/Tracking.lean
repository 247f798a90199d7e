import TransferRegistry.Proofs.Registry.Changes

/-!
# What is stored and what is queued

* `Registry.Advances`: one registry comes of another by changes that queued what they changed. All requests are such
  (`serve_advances`).
* `Registry.Tracks`: where the stored copies of an id differ from the registry, the id is in the right queue. This is
  kept by changes (`Tracks.advance`) and by a flush that ends early (`Tracks.prefix_writes`), and after all writes of
  a flush the copies are those of the registry (`Tracks.effects_writes`).
-/

namespace TransferRegistry.Registry

/-- What changed is queued. -/
structure Advances (r s : Registry) : Prop where
  config : s.config = r.config
  seeds : s.seeds = r.seeds ∨ s.seeds.dirty = true
  itemUpdates (id : ItemId) : id ∈ r.itemUpdates → id ∈ s.itemUpdates
  hiddenUpdates (id : ItemId) : id ∈ r.hiddenUpdates → id ∈ s.hiddenUpdates
  changed (id : ItemId) : s.copies id = r.copies id ∨ s.Pends id
  released (id : ItemId) : (r.copies id).record ≠ none → (s.copies id).record = none → id ∈ s.hiddenUpdates
  taken (id : ItemId) : r.items.item? id ≠ none → s.items.item? id = none → id ∈ s.itemUpdates

namespace Advances

variable {r s t : Registry}

theorem pends (h : Advances r s) {id : ItemId} (hp : r.Pends id) : s.Pends id :=
  hp.imp (h.itemUpdates id) (h.hiddenUpdates id)

theorem refl (r : Registry) : Advances r r where
  config := rfl
  seeds := Or.inl rfl
  itemUpdates _ h := h
  hiddenUpdates _ h := h
  changed _ := Or.inl rfl
  released _ h hn := absurd hn h
  taken _ h hn := absurd hn h

theorem trans (h : Advances r s) (h' : Advances s t) : Advances r t where
  config := h'.config.trans h.config
  seeds := by
    rcases h'.seeds with heq | hdirty
    · rw [heq]
      exact h.seeds
    · exact Or.inr hdirty
  itemUpdates id hid := h'.itemUpdates id (h.itemUpdates id hid)
  hiddenUpdates id hid := h'.hiddenUpdates id (h.hiddenUpdates id hid)
  changed id := by
    rcases h'.changed id with heq | hp
    · rw [heq]
      exact (h.changed id).imp_right h'.pends
    · exact Or.inr hp
  released id hr ht := by
    by_cases hs : (s.copies id).record = none
    · exact h'.hiddenUpdates id (h.released id hr hs)
    · exact h'.released id hs ht
  taken id hr ht := by
    by_cases hs : s.items.item? id = none
    · exact h'.itemUpdates id (h.taken id hr hs)
    · exact h'.taken id hs ht

end Advances

/-! ## Single changes -/

variable {r s : Registry}

theorem copies_congr {id : ItemId} (hitem : s.items.item? id = r.items.item? id)
    (hentry : s.hidden.entry? id = r.hidden.entry? id) : s.copies id = r.copies id := by
  rw [copies, copies, hitem, hentry]

theorem record_eq_none {id : ItemId} :
    (r.copies id).record = none ↔ r.items.item? id = none ∨ r.hidden.contains id = false := by
  rw [HiddenSet.contains_eq_isSome, copies, HiddenSet.entry?]
  cases r.items.item? id <;> cases r.hidden.times[id]? <;> simp

/-- A change of one item queues it. -/
theorem advances_queueItem {id : ItemId} {items : Store} {after : Option Item} (action : UpdatesAction)
    (hitems : ∀ other, items.item? other = if id = other then after else r.items.item? other)
    (hgone : after = none → r.hidden.contains id = false) : Advances r ({ r with items }.queueItem id action) where
  config := rfl
  seeds := Or.inl rfl
  itemUpdates other ho := (mem_itemUpdates_queueItem _ id action other).2 (Or.inr ho)
  hiddenUpdates _ ho := ho
  changed other := by
    by_cases heq : id = other
    · exact Or.inr (Or.inl ((mem_itemUpdates_queueItem _ id action other).2 (Or.inl heq)))
    · exact Or.inl (copies_congr ((hitems other).trans (if_neg heq)) rfl)
  released other hr hs := by
    rw [Ne, record_eq_none, not_or, Bool.not_eq_false] at hr
    rw [record_eq_none] at hs
    rcases hs with hs | hs
    · have hother := (hitems other).symm.trans hs
      by_cases heq : id = other
      · rw [if_pos heq] at hother
        subst heq
        exact absurd hr.2 (by simp [hgone hother])
      · rw [if_neg heq] at hother
        exact absurd hother hr.1
    · exact absurd hr.2 (by simpa using hs)
  taken other hr hs := by
    by_cases heq : id = other
    · exact (mem_itemUpdates_queueItem _ id action other).2 (Or.inl heq)
    · exact absurd (((hitems other).trans (if_neg heq)).symm.trans hs) hr

/-- A change of the hiding of one id queues it. -/
theorem advances_queueHidden {id : ItemId} {hidden : HiddenSet} (action : UpdatesAction)
    (hothers : ∀ other, id ≠ other → hidden.times[other]? = r.hidden.times[other]?) :
    Advances r ({ r with hidden }.queueHidden id action) where
  config := rfl
  seeds := Or.inl rfl
  itemUpdates _ ho := ho
  hiddenUpdates other ho := (mem_hiddenUpdates_queueHidden _ id action other).2 (Or.inr ho)
  changed other := by
    by_cases heq : id = other
    · exact Or.inr (Or.inr ((mem_hiddenUpdates_queueHidden _ id action other).2 (Or.inl heq)))
    · refine Or.inl (copies_congr rfl ?_)
      show hidden.entry? other = r.hidden.entry? other
      unfold HiddenSet.entry?
      rw [hothers other heq]
  released other hr hs := by
    by_cases heq : id = other
    · exact (mem_hiddenUpdates_queueHidden _ id action other).2 (Or.inl heq)
    · rw [Ne, record_eq_none, ← HiddenSet.contains_congr (hothers other heq)] at hr
      exact absurd (record_eq_none.1 hs) hr
  taken _ hr hs := absurd hs hr

theorem Move.advances {q : Request} (hmove : Move q r s) : Advances r s := by
  cases hmove with
  | count stats => exact { Advances.refl r with config := rfl }
  | @pendItem id action =>
    exact { Advances.refl r with
      itemUpdates other ho := (mem_itemUpdates_queueItem r id action other).2 (Or.inr ho)
      changed _ := Or.inl rfl
      taken _ hr hs := absurd hs hr }
  | @pendHidden id action =>
    exact { Advances.refl r with
      hiddenUpdates other ho := (mem_hiddenUpdates_queueHidden r id action other).2 (Or.inr ho)
      changed _ := Or.inl rfl
      released _ hr hs := absurd hs hr }
  | add hq hinsert => exact advances_queueItem .add (Store.item?_insert hinsert) nofun
  | report hq hitem => exact advances_queueItem .update (fun other => Store.item?_put _ _ other _) nofun
  | act hq hitem hshown hplan hchanges =>
    exact advances_queueItem .update (fun other => Store.item?_put _ _ other _) nofun
  | @hide now id item hq hitem hshown =>
    refine advances_queueHidden .add fun other hne => ?_
    rw [HiddenSet.times_hide, if_neg fun h => hne h.1]
  | @unhide id hq hhidden =>
    refine advances_queueHidden .remove fun other hne => ?_
    rw [HiddenSet.times_erase, if_neg hne]
  | @delete now id slot hq hslot hshown =>
    exact advances_queueItem .remove (fun other => Store.item?_remove _ id other) fun _ => hshown
  | seeds hdirty => exact { Advances.refl r with seeds := Or.inr hdirty }

theorem Moves.advances {q : Request} (hmoves : Moves q r s) : Advances r s := by
  induction hmoves with
  | refl => exact Advances.refl r
  | tail _ hmove ih => exact ih.trans hmove.advances

/-- A request queues what it changes. -/
theorem serve_advances (r : Registry) (q : Request) : Advances r (r.serve q) := (serve_moves r q).advances

/-! ## Stored copies -/

/-- Where stored copies of an id are not what the registry keeps of it, the id is queued; one that is stored as hidden
and is not, is queued among the hidden ones, and one that is stored as visible and is gone, among the items. -/
structure Tracks (r : Registry) (id : ItemId) (c : Copies) : Prop where
  settled : ¬r.Pends id → c = r.copies id
  unsealed : c.record ≠ none → (r.copies id).record = none → id ∈ r.hiddenUpdates
  removed : c.item ≠ none → r.items.item? id = none → id ∈ r.itemUpdates

namespace Tracks

variable {id : ItemId} {c : Copies}

theorem advance (h : r.Tracks id c) (ha : Advances r s) : s.Tracks id c where
  settled hp := by
    rw [h.settled fun hr => hp (ha.pends hr)]
    exact ((ha.changed id).resolve_right hp).symm
  unsealed hc hs := by
    by_cases hr : (r.copies id).record = none
    · exact ha.hiddenUpdates id (h.unsealed hc hr)
    · exact ha.released id hr hs
  removed hc hs := by
    by_cases hr : r.items.item? id = none
    · exact ha.itemUpdates id (h.removed hc hr)
    · exact ha.taken id hr hs

variable {done : List Write}

/-- What is queued is still so after a flush that ended early. -/
theorem prefix_writes (hr : r.Consistent) (h : r.Tracks id c) (hdone : done <+: r.writes) :
    r.Tracks id (effects done id c) := by
  have hstages : ∀ w ∈ done, w ∈ r.changes.stages := fun w hw => mem_stages hdone hw
  obtain ⟨hitem, hrecord⟩ := effects_cases hr id hstages c
  refine ⟨fun hp => ?_, fun hsome hnone => ?_, fun hsome hnone => ?_⟩
  · rw [effects_of_not_pends hp hstages]
    exact h.settled hp
  · have hold := hrecord.resolve_right fun heq => hsome (heq.trans hnone)
    exact h.unsealed (hold ▸ hsome) hnone
  · have hcopies : (r.copies id).item = none := by rw [copies, hnone]
    have hold := hitem.resolve_right fun heq => hsome (heq.trans hcopies)
    exact h.removed (hold ▸ hsome) hnone

/-- After all writes of a flush, the copies are what the registry keeps. -/
theorem effects_writes (hr : r.Consistent) (h : r.Tracks id c) : effects r.writes id c = r.copies id := by
  have hwrites : r.writes = r.changes.stages.filter (·.nonempty) := r.changes.writes_eq
  rw [hwrites, effects_filter]
  by_cases hp : r.Pends id
  case neg =>
    rw [effects_of_not_pends hp fun _ hw => hw]
    exact h.settled hp
  -- a copy that no stage takes out is not there
  have hunsealed : (r.copies id).record = none → id ∉ r.hiddenUpdates → c.record = none := fun hnone hid =>
    by_contra fun hc => hid (h.unsealed hc hnone)
  have hremoved : r.items.item? id = none → id ∉ r.itemUpdates → c.item = none := fun hnone hid =>
    by_contra fun hc => hid (h.removed hc hnone)
  obtain ⟨item, record⟩ := c
  simp only [effects, ChangeSet.stages, List.foldl_cons, List.foldl_nil, effect_upserts hr hp,
    effect_hiddenRecords hr hp, effect_removals hp]
  rcases r.copies_cases id with ⟨hnone, hcopies⟩ | ⟨stored, hsome, -, hcopies⟩ | ⟨stored, entry, hsome, -, hcopies⟩
  · by_cases hi : id ∈ r.itemUpdates <;> by_cases hh : id ∈ r.hiddenUpdates <;>
      simp_all
  · by_cases hh : id ∈ r.hiddenUpdates <;> simp_all
  · simp [hcopies]

end Tracks

end TransferRegistry.Registry
