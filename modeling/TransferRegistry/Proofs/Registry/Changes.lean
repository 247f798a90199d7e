import TransferRegistry.Proofs.Registry.Flush
import TransferRegistry.Proofs.Registry.Views
import TransferRegistry.Proofs.Storage.Archive

/-!
# What a flush writes

* `Registry.copies`: what a registry keeps of an id, which is what should be stored of it.
* `effect_upserts`, `effect_hiddenRecords`, `effect_removals`: what the stages of a flush make of the copies of a
  pending id; `effect_of_not_pends`: the copies of other ids are left alone.
* `effects_cases`: if a flush ends early, each copy is the old one or the one of the registry;
  `alive_effects`: what is stored and still there is not lost.
-/

namespace TransferRegistry

/-- The three stages of a flush, empty or not. -/
def ChangeSet.stages (c : ChangeSet) : List Write :=
  [.upserts c.upserts, .hiddenRecords c.hiddenRecords, .removals c.removals]

/-- The write names some id. -/
def Write.nonempty : Write → Bool
  | .upserts changes | .removals changes => !changes.isEmpty
  | .hiddenRecords changes => !changes.isEmpty

theorem ChangeSet.writes_eq (c : ChangeSet) : c.writes = c.stages.filter (·.nonempty) := by
  unfold ChangeSet.writes ChangeSet.stages
  cases hu : c.upserts.isEmpty <;> cases hh : c.hiddenRecords.isEmpty <;> cases hr : c.removals.isEmpty <;>
    simp [Write.nonempty, hu, hh, hr]

theorem Write.effect_of_isEmpty {w : Write} (h : w.nonempty = false) (id : ItemId) (c : Copies) : w.effect id c = c := by
  have hnone : ∀ {α : Type} {changes : Changes α}, (!changes.isEmpty) = false → changes[id]? = none := by
    intro α changes he
    have hempty : changes = ∅ := by simpa using he
    rw [hempty, Std.ExtTreeMap.getElem?_empty]
  cases w with
  | upserts changes | removals changes =>
    have hchange : changes[id]? = none := hnone h
    simp only [Write.effect, hchange, Option.map_none]
  | hiddenRecords changes =>
    have hchange : changes[id]? = none := hnone h
    simp only [Write.effect, hchange, Option.map_none]

/-- The effect of writes, one after the other. -/
def effects (writes : List Write) (id : ItemId) (c : Copies) : Copies := writes.foldl (fun c w => w.effect id c) c

theorem effects_filter (writes : List Write) (id : ItemId) (c : Copies) :
    effects (writes.filter (·.nonempty)) id c = effects writes id c := by
  induction writes generalizing c with
  | nil => rfl
  | cons w writes ih =>
    cases hw : w.nonempty with
    | true =>
      rw [List.filter_cons_of_pos hw]
      exact ih _
    | false =>
      rw [List.filter_cons_of_neg (by simp [hw]), ih]
      show _ = effects writes id (w.effect id c)
      rw [Write.effect_of_isEmpty hw]

/-- Some first writes of a flush are some first stages of it. -/
theorem ChangeSet.effects_stages (c : ChangeSet) {done : List Write} (h : done <+: c.writes) :
    ∃ stages, stages <+: c.stages ∧ ∀ id copies, effects done id copies = effects stages id copies := by
  obtain ⟨rest, hrest⟩ := h
  rw [c.writes_eq] at hrest
  obtain ⟨stages, later, hstages, rfl, -⟩ := List.filter_eq_append_iff.1 hrest.symm
  exact ⟨stages, ⟨later, hstages.symm⟩, fun id copies => effects_filter stages id copies⟩

namespace Registry

theorem getElem?_tabulate {α : Type} {ids : List ItemId} (h : ids.Pairwise fun a b => ¬compare a b = .eq)
    (f : ItemId → Option α) (id : ItemId) : (tabulate ids f)[id]? = if id ∈ ids then f id else none := by
  rw [tabulate]
  split
  · rename_i hid
    cases hf : f id with
    | none =>
      refine Std.ExtTreeMap.getElem?_ofList_of_contains_eq_false ?_
      rw [← Bool.not_eq_true, List.contains_iff_mem]
      simp only [List.mem_map, List.mem_filterMap, Option.map_eq_some_iff]
      rintro ⟨entry, ⟨other, -, a, ha, rfl⟩, rfl⟩
      rw [hf] at ha
      cases ha
    | some a =>
      refine Std.ExtTreeMap.getElem?_ofList_of_mem (k := id) Std.ReflCmp.compare_self ?_ ?_
      · refine List.Pairwise.filterMap _ (fun x y hxy b hb b' hb' => ?_) h
        rw [Option.map_eq_some_iff] at hb hb'
        obtain ⟨-, -, rfl⟩ := hb
        obtain ⟨-, -, rfl⟩ := hb'
        exact hxy
      · exact List.mem_filterMap.2 ⟨id, hid, by rw [hf]; rfl⟩
  · rename_i hid
    refine Std.ExtTreeMap.getElem?_ofList_of_contains_eq_false ?_
    rw [← Bool.not_eq_true, List.contains_iff_mem]
    simp only [List.mem_map, List.mem_filterMap, Option.map_eq_some_iff]
    rintro ⟨entry, ⟨other, ho, a, -, rfl⟩, rfl⟩
    exact hid ho

/-- Something of the id is queued. -/
def Pends (r : Registry) (id : ItemId) : Prop := id ∈ r.itemUpdates ∨ id ∈ r.hiddenUpdates

/-- After a flush that succeeded nothing is queued. -/
theorem not_pends_flush {σ : Type} {r : Registry} {now : Int64} {backend : Backend σ} {s : σ}
    (h : (r.flush now backend s).answer = .ok ()) (id : ItemId) : ¬(r.flush now backend s).state.1.Pends id := by
  obtain ⟨hitemUpdates, hhiddenUpdates, -⟩ := flush_ok h
  rw [Pends, hitemUpdates, hhiddenUpdates]
  exact fun hp => hp.elim Std.ExtTreeMap.not_mem_empty Std.ExtTreeMap.not_mem_empty

/-- What is queued of each id, as the registry is now. -/
def changes (r : Registry) : ChangeSet := r.collectChanges r.itemUpdates r.hiddenUpdates

section Collected

variable {r : Registry} {id : ItemId}

theorem mem_collected :
    id ∈ distinctIds (r.itemUpdates.keys ++ r.hiddenUpdates.keys) ↔ r.Pends id := by
  rw [mem_distinctIds, List.mem_append, Std.ExtTreeMap.mem_keys, Std.ExtTreeMap.mem_keys, Pends]

theorem collected_of_pends {α : Type} (h : r.Pends id) (f : ItemId → Option α) :
    (tabulate (distinctIds (r.itemUpdates.keys ++ r.hiddenUpdates.keys)) f)[id]? = f id :=
  (getElem?_tabulate Std.ExtTreeSet.distinct_toList f id).trans (if_pos (mem_collected.2 h))

theorem collected_of_not_pends {α : Type} (h : ¬r.Pends id) (f : ItemId → Option α) :
    (tabulate (distinctIds (r.itemUpdates.keys ++ r.hiddenUpdates.keys)) f)[id]? = none :=
  (getElem?_tabulate Std.ExtTreeSet.distinct_toList f id).trans (if_neg (mt mem_collected.1 h))

theorem collected_eq_some {α : Type} {f : ItemId → Option α} {a : α}
    (h : (tabulate (distinctIds (r.itemUpdates.keys ++ r.hiddenUpdates.keys)) f)[id]? = some a) : f id = some a := by
  by_cases hp : r.Pends id
  · rwa [collected_of_pends hp] at h
  · rw [collected_of_not_pends hp] at h
    cases h

end Collected

/-! ## The copies of a registry -/

/-- What a registry keeps of an id. -/
def copies (r : Registry) (id : ItemId) : Copies :=
  match r.items.item? id, r.hidden.entry? id with
  | some item, none => ⟨some item, none⟩
  | some item, some entry => ⟨none, some ⟨entry, item⟩⟩
  | none, _ => ⟨none, none⟩

/-- An id is not there, or visible, or hidden. -/
theorem copies_cases (r : Registry) (id : ItemId) :
    (r.items.item? id = none ∧ r.copies id = ⟨none, none⟩) ∨
    (∃ item, r.items.item? id = some item ∧ r.hidden.entry? id = none ∧ r.copies id = ⟨some item, none⟩) ∨
    (∃ item entry, r.items.item? id = some item ∧ r.hidden.entry? id = some entry ∧
      r.copies id = ⟨none, some ⟨entry, item⟩⟩) := by
  unfold copies
  cases r.items.item? id with
  | none => exact Or.inl ⟨rfl, rfl⟩
  | some item =>
    cases r.hidden.entry? id with
    | none => exact Or.inr (Or.inl ⟨item, rfl, rfl, rfl⟩)
    | some entry => exact Or.inr (Or.inr ⟨item, entry, rfl, rfl, rfl⟩)

/-- No id is both visible and hidden. -/
theorem record_of_item (r : Registry) (id : ItemId) (h : (r.copies id).item ≠ none) : (r.copies id).record = none := by
  rcases r.copies_cases id with ⟨-, hcopies⟩ | ⟨item, -, -, hcopies⟩ | ⟨item, entry, -, -, hcopies⟩
  · rw [hcopies]
  · rw [hcopies]
  · rw [hcopies] at h
    exact absurd rfl h

/-! ## The stages -/

theorem upsertOf_result (r : Registry) (pending : Pending) (id : ItemId) :
    (r.upsertOf pending id).map (·.result) = (r.copies id).item.map some := by
  unfold upsertOf copies
  cases r.items.item? id with
  | none => rfl
  | some item =>
    cases r.hidden.entry? id with
    | none =>
      show some (Change.result ⟨some item, if pending[id]? = some .add then .add else .update⟩) = some (some item)
      split <;> rfl
    | some entry => rfl

theorem hiddenRecordOf_result (r : Registry) (pending : Pending) (id : ItemId) :
    (r.hiddenRecordOf pending id).map (·.result) =
      match (r.copies id).record with
      | some record => some (some record)
      | none => if id ∈ pending then some none else none := by
  unfold hiddenRecordOf copies
  cases r.items.item? id <;> cases r.hidden.entry? id <;> simp only [Std.ExtTreeMap.contains_iff_mem]
  case some.some => rfl
  all_goals split <;> rfl

theorem removalOf_result (r : Registry) (pending : Pending) (id : ItemId) :
    (r.removalOf pending id).map (·.result) =
      if (r.copies id).record.isSome ∨ r.items.item? id = none ∧ id ∈ pending then some none else none := by
  unfold removalOf copies
  cases r.items.item? id with
  | none =>
    simp only [Std.ExtTreeMap.contains_iff_mem, Option.isSome_none, Bool.false_eq_true, true_and, false_or]
    split <;> rfl
  | some item => cases r.hidden.entry? id <;> simp [Change.result]

section Stages

variable {r : Registry} {id : ItemId}

/-- The records of a registry are of their ids, and their ratios are computed. -/
theorem Consistent.copies_item (h : r.Consistent) {item : Item} (hi : (r.copies id).item = some item) :
    item.id = id ∧ item.refreshRatio = item := by
  rcases r.copies_cases id with ⟨-, hcopies⟩ | ⟨stored, hitem, -, hcopies⟩ | ⟨stored, entry, -, -, hcopies⟩
  all_goals rw [hcopies] at hi; cases hi
  exact ⟨h.items_sound.id_eq hitem, h.items_sound.current hitem⟩

theorem Consistent.copies_record (h : r.Consistent) {record : HiddenRecord}
    (hr : (r.copies id).record = some record) : record.Agrees id ∧ record.refresh = record := by
  rcases r.copies_cases id with ⟨-, hcopies⟩ | ⟨stored, -, -, hcopies⟩ | ⟨item, entry, hitem, hentry, hcopies⟩
  all_goals rw [hcopies] at hr; cases hr
  refine ⟨⟨(HiddenSet.entry?_eq_some.1 hentry).1, h.items_sound.id_eq hitem⟩, ?_⟩
  rw [HiddenRecord.refresh, h.items_sound.current hitem]

/-- The item of an id is the visible or the hidden one. -/
theorem item?_eq (r : Registry) (id : ItemId) :
    r.items.item? id = (r.copies id).item.or ((r.copies id).record.map (·.item)) := by
  rw [copies]
  cases r.items.item? id <;> cases r.hidden.entry? id <;> rfl

theorem Consistent.entry?_eq (h : r.Consistent) (id : ItemId) :
    r.hidden.entry? id = (r.copies id).record.map (·.entry) := by
  rw [copies]
  cases hentry : r.hidden.entry? id with
  | none => cases r.items.item? id <;> rfl
  | some entry =>
    have hhidden : r.hidden.contains id = true := by
      rw [HiddenSet.contains_eq_isSome, (HiddenSet.entry?_eq_some.1 hentry).2]
      rfl
    obtain ⟨item, hitem⟩ := h.hidden_stored id hhidden
    rw [hitem]
    rfl

/-- A registry has no more than its copies. -/
theorem Consistent.ext_copies {s : Registry} (h : r.Consistent) (hs : s.Consistent)
    (hcopies : ∀ id, s.copies id = r.copies id) : s.items = r.items ∧ s.hidden.times = r.hidden.times := by
  refine ⟨hs.items_sound.ext_item? h.items_sound fun id => ?_, Std.ExtTreeMap.ext_getElem? fun id => ?_⟩
  · rw [s.item?_eq, hcopies, ← r.item?_eq]
  · have hentry : s.hidden.entry? id = r.hidden.entry? id := by rw [hs.entry?_eq, hcopies, ← h.entry?_eq]
    have htimes := congrArg (Option.map (·.hiddenAt)) hentry
    unfold HiddenSet.entry? at htimes
    simpa [Function.comp_def] using htimes

theorem wellKeyed_stages (h : r.Consistent) {w : Write} (hw : w ∈ r.changes.stages) : w.WellKeyed := by
  simp only [ChangeSet.stages, List.mem_cons, List.not_mem_nil, or_false] at hw
  rcases hw with rfl | rfl | rfl
  · intro id change item hchange hresult
    have hof := r.upsertOf_result r.itemUpdates id
    rw [collected_eq_some hchange, Option.map_some, hresult] at hof
    obtain ⟨stored, hstored, heq⟩ := Option.map_eq_some_iff.1 hof.symm
    cases heq
    exact (h.copies_item hstored).1
  · intro id change record hchange hresult
    have hof := r.hiddenRecordOf_result r.hiddenUpdates id
    rw [collected_eq_some hchange, Option.map_some, hresult] at hof
    cases hstored : (r.copies id).record with
    | some stored =>
      rw [hstored] at hof
      cases hof
      exact (h.copies_record hstored).1
    | none =>
      simp only [hstored] at hof
      split at hof <;> cases hof
  · intro id change item hchange hresult
    have hof := r.removalOf_result r.itemUpdates id
    rw [collected_eq_some hchange, Option.map_some, hresult] at hof
    split at hof <;> cases hof

theorem effect_of_not_pends (h : ¬r.Pends id) {w : Write} (hw : w ∈ r.changes.stages) (c : Copies) :
    w.effect id c = c := by
  simp only [ChangeSet.stages, List.mem_cons, List.not_mem_nil, or_false] at hw
  rcases hw with rfl | rfl | rfl <;>
    simp only [Write.effect, changes, collectChanges, collected_of_not_pends h, Option.map_none]

/-- First, a visible item is stored among the visible ones. -/
theorem effect_upserts (h : r.Consistent) (hp : r.Pends id) (c : Copies) :
    (Write.upserts r.changes.upserts).effect id c =
      match (r.copies id).item with
      | some item => { c with item := some item }
      | none => c := by
  simp only [Write.effect, changes, collectChanges, collected_of_pends hp, upsertOf_result]
  cases hi : (r.copies id).item with
  | none => rfl
  | some item => simp only [Option.map_some, (h.copies_item hi).2]

/-- Then a hidden item is stored among the hidden ones, and one that is hidden no longer is taken out of them. -/
theorem effect_hiddenRecords (h : r.Consistent) (hp : r.Pends id) (c : Copies) :
    (Write.hiddenRecords r.changes.hiddenRecords).effect id c =
      match (r.copies id).record with
      | some record => { c with record := some record }
      | none => if id ∈ r.hiddenUpdates then { c with record := none } else c := by
  simp only [Write.effect, changes, collectChanges, collected_of_pends hp, hiddenRecordOf_result]
  cases hr : (r.copies id).record with
  | some record => simp only [Option.map_some, (h.copies_record hr).2]
  | none => by_cases hid : id ∈ r.hiddenUpdates <;> simp [hid]

/-- At last, an item that is hidden or gone is taken out of the visible ones. -/
theorem effect_removals (hp : r.Pends id) (c : Copies) :
    (Write.removals r.changes.removals).effect id c =
      if (r.copies id).record.isSome ∨ r.items.item? id = none ∧ id ∈ r.itemUpdates then { c with item := none }
      else c := by
  simp only [Write.effect, changes, collectChanges, collected_of_pends hp, removalOf_result]
  by_cases hgone : (r.copies id).record.isSome ∨ r.items.item? id = none ∧ id ∈ r.itemUpdates
  · simp only [hgone, if_true, Option.map_none]
  · simp only [hgone, if_false]

/-- A stage leaves a copy as it is or makes it the one of the registry. -/
theorem effect_cases (h : r.Consistent) (id : ItemId) {w : Write} (hw : w ∈ r.changes.stages) (c : Copies) :
    ((w.effect id c).item = c.item ∨ (w.effect id c).item = (r.copies id).item) ∧
      ((w.effect id c).record = c.record ∨ (w.effect id c).record = (r.copies id).record) := by
  by_cases hp : r.Pends id
  · simp only [ChangeSet.stages, List.mem_cons, List.not_mem_nil, or_false] at hw
    rcases hw with rfl | rfl | rfl
    · rw [effect_upserts h hp]
      cases (r.copies id).item <;> simp
    · rw [effect_hiddenRecords h hp]
      cases (r.copies id).record with
      | some record => simp
      | none => by_cases hid : id ∈ r.hiddenUpdates <;> simp [hid]
    · rw [effect_removals hp]
      split
      · rename_i hgone
        refine ⟨Or.inr ?_, Or.inl rfl⟩
        rcases r.copies_cases id with ⟨-, hcopies⟩ | ⟨item, hitem, -, hcopies⟩ | ⟨item, entry, -, -, hcopies⟩
        · rw [hcopies]
        · simp [hcopies, hitem] at hgone
        · rw [hcopies]
      · exact ⟨Or.inl rfl, Or.inl rfl⟩
  · rw [effect_of_not_pends hp hw]
    exact ⟨Or.inl rfl, Or.inl rfl⟩

end Stages

/-! ## A flush that ends early -/

section Prefix

variable {r : Registry} {id : ItemId} {done : List Write}

theorem mem_stages (hdone : done <+: r.writes) {w : Write} (hw : w ∈ done) : w ∈ r.changes.stages := by
  have hmem := hdone.subset hw
  rw [writes, ChangeSet.writes_eq] at hmem
  exact List.mem_of_mem_filter hmem

theorem effects_of_not_pends (hp : ¬r.Pends id) (hdone : ∀ w ∈ done, w ∈ r.changes.stages) (c : Copies) :
    effects done id c = c := by
  induction done generalizing c with
  | nil => rfl
  | cons w done ih =>
    show effects done id (w.effect id c) = c
    rw [effect_of_not_pends hp (hdone w List.mem_cons_self), ih fun other ho => hdone other (List.mem_cons_of_mem _ ho)]

/-- After some stages, each copy is the old one or the one of the registry. -/
theorem effects_cases (h : r.Consistent) (id : ItemId) (hdone : ∀ w ∈ done, w ∈ r.changes.stages) (c : Copies) :
    ((effects done id c).item = c.item ∨ (effects done id c).item = (r.copies id).item) ∧
      ((effects done id c).record = c.record ∨ (effects done id c).record = (r.copies id).record) := by
  induction done generalizing c with
  | nil => exact ⟨Or.inl rfl, Or.inl rfl⟩
  | cons w done ih =>
    obtain ⟨hitem, hrecord⟩ := effect_cases h id (hdone w List.mem_cons_self) c
    obtain ⟨hitems, hrecords⟩ := ih (fun other ho => hdone other (List.mem_cons_of_mem _ ho)) (w.effect id c)
    refine ⟨?_, ?_⟩
    · rcases hitems with heq | heq
      · exact hitem.imp heq.trans heq.trans
      · exact Or.inr heq
    · rcases hrecords with heq | heq
      · exact hrecord.imp heq.trans heq.trans
      · exact Or.inr heq

/-- What is stored and still there is stored in one place or the other, however early a flush ends: what goes to the
visible items is there before it leaves the hidden ones, and the other way round. -/
theorem alive_effects (h : r.Consistent) (hdone : done <+: r.writes) {c : Copies} (hc : c.Alive)
    (hitem : ∃ item, r.items.item? id = some item) : (effects done id c).Alive := by
  by_cases hp : r.Pends id
  case neg => rwa [effects_of_not_pends hp fun w hw => mem_stages hdone hw]
  obtain ⟨stages, hstages, heffects⟩ := r.changes.effects_stages hdone
  rw [heffects]
  have hmem : ∀ w ∈ stages, w ∈ r.changes.stages := fun w hw => hstages.subset hw
  rw [ChangeSet.stages, List.prefix_cons_iff] at hstages
  rcases hstages with rfl | ⟨rest, rfl, hrest⟩
  · exact hc
  rcases r.copies_cases id with ⟨hnone, -⟩ | ⟨item, -, -, hcopies⟩ | ⟨item, entry, -, -, hcopies⟩
  · obtain ⟨item, hsome⟩ := hitem
    rw [hnone] at hsome
    cases hsome
  · -- the first stage stores the item, and no later one takes it out
    have hfirst : ((Write.upserts r.changes.upserts).effect id c).item = some item := by
      rw [effect_upserts h hp, hcopies]
    have hlater := (effects_cases h id (fun w hw => hmem w (List.mem_cons_of_mem _ hw))
      ((Write.upserts r.changes.upserts).effect id c)).1
    rw [hfirst, hcopies, or_self] at hlater
    exact Or.inl (hlater ▸ nofun)
  · have hfirst : (Write.upserts r.changes.upserts).effect id c = c := by rw [effect_upserts h hp, hcopies]
    show (effects rest id ((Write.upserts r.changes.upserts).effect id c)).Alive
    rw [hfirst]
    rw [List.prefix_cons_iff] at hrest
    rcases hrest with rfl | ⟨last, rfl, -⟩
    · exact hc
    · -- the second stage stores the record, and the third does not take it out
      have hsecond : ((Write.hiddenRecords r.changes.hiddenRecords).effect id c).record = some ⟨entry, item⟩ := by
        rw [effect_hiddenRecords h hp, hcopies]
      have hlater := (effects_cases h id
        (fun w hw => hmem w (List.mem_cons_of_mem _ (List.mem_cons_of_mem _ hw)))
        ((Write.hiddenRecords r.changes.hiddenRecords).effect id c)).2
      rw [hsecond, hcopies, or_self] at hlater
      exact Or.inr (hlater ▸ nofun)

end Prefix

end Registry

end TransferRegistry
