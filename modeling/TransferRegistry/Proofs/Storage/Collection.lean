import Mathlib.Data.List.Find
import Mathlib.Data.List.Nodup
import TransferRegistry.Storage.Change

/-!
# Stored collections

* `values_eq`: the values of a map are those of its list.
* `Keyed`: every record is under its own id, so the list of the records is as good as the map (`byId_values`,
  `Keyed.find?_values`, `Keyed.ascending_values`, `Keyed.nodup_values`).
* `getElem?_applyChanges`: after changes, each id has what its change asks for, under itself (`Keyed.applyChanges`).
-/

namespace TransferRegistry

variable {α β : Type}

theorem values_eq (m : Std.ExtTreeMap ItemId α) : m.values = m.toList.map (·.2) := by
  obtain ⟨⟨t⟩⟩ := m
  induction t using Quotient.ind with
  | _ t =>
    show t.values = (Std.DTreeMap.Const.toList t).map (·.2)
    unfold Std.DTreeMap.values Std.DTreeMap.Const.toList
    rw [Std.DTreeMap.Internal.Impl.values_eq_map_snd, Std.DTreeMap.Internal.Impl.Const.toList_eq_toListModel_map,
      List.map_map]
    rfl

theorem values_map (f : α → β) (m : Std.ExtTreeMap ItemId α) : (m.map fun _ => f).values = m.values.map f := by
  rw [values_eq, values_eq, Std.ExtTreeMap.toList_map, List.map_map, List.map_map]
  rfl

theorem getElem?_map_eq (f : α → β) (m : Std.ExtTreeMap ItemId α) (id : ItemId) :
    (m.map fun _ => f)[id]? = m[id]?.map f := by
  rw [Std.ExtTreeMap.getElem?_map]

/-- In a list without repeated keys, the record of a key is found. -/
theorem find?_eq_some_iff_of_nodup {key : α → ItemId} {records : List α} (h : (records.map key).Nodup) {id : ItemId}
    {record : α} : records.find? (key · = id) = some record ↔ record ∈ records ∧ key record = id := by
  constructor
  · intro hfound
    exact ⟨List.mem_of_find?_eq_some hfound, by simpa using List.find?_some hfound⟩
  · rintro ⟨hr, hid⟩
    cases hfound : records.find? (key · = id) with
    | none =>
      rw [List.find?_eq_none] at hfound
      exact absurd (by simpa using hid) (hfound record hr)
    | some other =>
      have hother : key other = id := by simpa using List.find?_some hfound
      rw [List.inj_on_of_nodup_map h (List.mem_of_find?_eq_some hfound) hr (hother.trans hid.symm)]

/-- The order in which the records are looked through makes no difference. -/
theorem find?_reverse_of_nodup {key : α → ItemId} {records : List α} (h : (records.map key).Nodup) (id : ItemId) :
    records.reverse.find? (key · = id) = records.find? (key · = id) := by
  have hreverse : (records.reverse.map key).Nodup := by
    rw [List.map_reverse, List.nodup_reverse]
    exact h
  refine Option.ext fun record => ?_
  rw [find?_eq_some_iff_of_nodup hreverse, find?_eq_some_iff_of_nodup h, List.mem_reverse]

theorem nodup_toList (m : Std.ExtTreeMap ItemId α) : (m.toList.map (·.1)).Nodup := by
  rw [Std.ExtTreeMap.map_fst_toList_eq_keys]
  exact Std.ExtTreeMap.nodup_keys

theorem find?_toList (m : Std.ExtTreeMap ItemId α) (id : ItemId) :
    (m.toList.find? (·.1 = id)).map (·.2) = m[id]? := by
  refine Option.ext fun record => ?_
  rw [Option.map_eq_some_iff]
  constructor
  · rintro ⟨entry, he, rfl⟩
    obtain ⟨hmem, rfl⟩ := (find?_eq_some_iff_of_nodup (nodup_toList m)).1 he
    exact Std.ExtTreeMap.mem_toList_iff_getElem?_eq_some.1 hmem
  · intro hr
    have hmem := Std.ExtTreeMap.mem_toList_iff_getElem?_eq_some.2 hr
    exact ⟨(id, record), (find?_eq_some_iff_of_nodup (nodup_toList m)).2 ⟨hmem, rfl⟩, rfl⟩

/-- A record that is under its own id, if no other is of this id, is the one that is found. -/
theorem find?_values_of_only {key : α → ItemId} {m : Std.ExtTreeMap ItemId α} {id : ItemId}
    (h : ∀ other record, m[other]? = some record → (key record = id ↔ other = id)) :
    m.values.find? (key · = id) = m[id]? := by
  rw [values_eq, List.find?_map, ← find?_toList]
  refine congrArg _ (List.find?_congr fun entry he => ?_)
  simp only [Function.comp_apply, decide_eq_decide]
  exact h entry.1 entry.2 (Std.ExtTreeMap.mem_toList_iff_getElem?_eq_some.1 he)

/-! ## Changes -/

theorem getElem?_applyTo (c : Change α) (id other : ItemId) (stored : Std.ExtTreeMap ItemId α) :
    (c.applyTo id stored)[other]? = if id = other then c.result else stored[other]? := by
  rw [Change.applyTo]
  cases c.result with
  | none => simp [Std.ExtTreeMap.getElem?_erase]
  | some record => simp [Std.ExtTreeMap.getElem?_insert]

theorem getElem?_foldl_applyTo (changes : List (ItemId × Change α)) (hids : (changes.map (·.1)).Nodup)
    (stored : Std.ExtTreeMap ItemId α) (id : ItemId) :
    (changes.foldl (fun stored change => change.2.applyTo change.1 stored) stored)[id]? =
      match (changes.find? (·.1 = id)).map (·.2) with
      | some c => c.result
      | none => stored[id]? := by
  induction changes generalizing stored with
  | nil => rfl
  | cons change changes ih =>
    obtain ⟨hid, hids⟩ := List.nodup_cons.1 hids
    rw [List.foldl_cons, ih hids, getElem?_applyTo]
    by_cases heq : change.1 = id
    · have hnone : changes.find? (·.1 = id) = none := by
        rw [List.find?_eq_none]
        intro other ho h
        have hother : other.1 = id := by simpa using h
        exact hid (List.mem_map.2 ⟨other, ho, hother.trans heq.symm⟩)
      simp [heq, hnone]
    · simp [heq]

/-- After changes, each id has what its change asks for, and others have what they had. -/
theorem getElem?_applyChanges (stored : Std.ExtTreeMap ItemId α) (changes : Changes α) (id : ItemId) :
    (applyChanges stored changes)[id]? =
      match changes[id]? with
      | some c => c.result
      | none => stored[id]? := by
  rw [applyChanges, Std.ExtTreeMap.foldl_eq_foldl_toList, getElem?_foldl_applyTo _ (nodup_toList changes), find?_toList]

/-! ## Records under their ids -/

/-- Every record is under its own id. -/
def Keyed (key : α → ItemId) (m : Std.ExtTreeMap ItemId α) : Prop := ∀ id record, m[id]? = some record → key record = id

theorem keyed_empty (key : α → ItemId) : Keyed key ∅ := fun id record h => by
  rw [Std.ExtTreeMap.getElem?_empty] at h
  cases h

theorem Keyed.map {key : α → ItemId} {m : Std.ExtTreeMap ItemId α} (h : Keyed key m) {f : α → α}
    (hf : ∀ record, key (f record) = key record) : Keyed key (m.map fun _ => f) := by
  intro id record hr
  rw [getElem?_map_eq, Option.map_eq_some_iff] at hr
  obtain ⟨stored, hs, rfl⟩ := hr
  rw [hf, h id stored hs]

/-- Records of the ids that they are stored under stay under their ids. -/
theorem Keyed.applyChanges {key : α → ItemId} {m : Std.ExtTreeMap ItemId α} (h : Keyed key m) {changes : Changes α}
    (hc : ∀ id change record, changes[id]? = some change → change.result = some record → key record = id) :
    Keyed key (applyChanges m changes) := by
  intro id record hr
  rw [getElem?_applyChanges] at hr
  cases hchange : changes[id]? with
  | none =>
    rw [hchange] at hr
    exact h id record hr
  | some change =>
    rw [hchange] at hr
    exact hc id change record hchange hr

theorem Keyed.mem_values {key : α → ItemId} {m : Std.ExtTreeMap ItemId α} (h : Keyed key m) (record : α) :
    record ∈ m.values ↔ m[key record]? = some record := by
  simp only [values_eq, List.mem_map, Prod.exists, Std.ExtTreeMap.mem_toList_iff_getElem?_eq_some, exists_eq_right]
  constructor
  · rintro ⟨id, hr⟩
    rw [h id record hr]
    exact hr
  · exact fun hr => ⟨_, hr⟩

theorem Keyed.mem_of_getElem? {key : α → ItemId} {m : Std.ExtTreeMap ItemId α} (h : Keyed key m) {id : ItemId}
    {record : α} (hr : m[id]? = some record) : record ∈ m.values := by
  have hid := h id record hr
  subst hid
  exact (h.mem_values record).2 hr

theorem Keyed.keys_values {key : α → ItemId} {m : Std.ExtTreeMap ItemId α} (h : Keyed key m) :
    m.values.map key = m.keys := by
  rw [values_eq, List.map_map, ← Std.ExtTreeMap.map_fst_toList_eq_keys]
  refine List.map_congr_left fun entry he => ?_
  exact h entry.1 entry.2 (Std.ExtTreeMap.mem_toList_iff_getElem?_eq_some.1 he)

/-- The records come in the order of their ids. -/
theorem Keyed.ascending_values {key : α → ItemId} {m : Std.ExtTreeMap ItemId α} (h : Keyed key m) :
    m.values.Pairwise fun a b => compare (key a) (key b) = .lt := by
  have hkeys : (m.values.map key).Pairwise fun a b => compare a b = .lt := by
    rw [h.keys_values]
    exact Std.ExtTreeMap.ordered_keys
  exact List.pairwise_map.1 hkeys

/-- No id has two records in the list. -/
theorem Keyed.nodup_values {key : α → ItemId} {m : Std.ExtTreeMap ItemId α} (h : Keyed key m) :
    (m.values.map key).Nodup := by
  rw [h.keys_values]
  exact Std.ExtTreeMap.nodup_keys

theorem Keyed.find?_values {key : α → ItemId} {m : Std.ExtTreeMap ItemId α} (h : Keyed key m) (id : ItemId) :
    m.values.find? (key · = id) = m[id]? :=
  find?_values_of_only fun other record hr => by rw [h other record hr]

theorem Keyed.find?_reverse_values {key : α → ItemId} {m : Std.ExtTreeMap ItemId α} (h : Keyed key m) (id : ItemId) :
    m.values.reverse.find? (key · = id) = m[id]? := by
  rw [find?_reverse_of_nodup h.nodup_values, h.find?_values]

/-- At most one record is of an id. -/
theorem Keyed.countP_values {key : α → ItemId} {m : Std.ExtTreeMap ItemId α} (h : Keyed key m) (id : ItemId) :
    m.values.countP (key · = id) = m[id]?.toList.length := by
  have hcount : m.values.countP (key · = id) = (m.values.map key).count id := by
    rw [List.count_eq_countP, List.countP_map]
    rfl
  rw [hcount, h.keys_values, Std.ExtTreeMap.nodup_keys.count]
  simp only [Std.ExtTreeMap.mem_keys, Std.ExtTreeMap.mem_iff_isSome_getElem?]
  cases m[id]? <;> rfl

/-! ## Maps of lists -/

theorem getElem?_byId (key : α → ItemId) (records : List α) (id : ItemId) :
    (byId key records)[id]? = records.reverse.find? (key · = id) := by
  have hfold : ∀ stored : Std.ExtTreeMap ItemId α,
      (records.foldl (fun stored record => stored.insert (key record) record) stored)[id]? =
        (records.reverse.find? (key · = id)).or stored[id]? := by
    induction records with
    | nil => exact fun stored => rfl
    | cons record records ih =>
      intro stored
      rw [List.foldl_cons, ih, List.reverse_cons, List.find?_append]
      by_cases heq : key record = id
      · cases records.reverse.find? (key · = id) <;> simp [heq]
      · cases records.reverse.find? (key · = id) <;> simp [heq, Std.ExtTreeMap.getElem?_insert]
  rw [byId, hfold, Std.ExtTreeMap.getElem?_empty, Option.or_none]

/-- In a list without repeated keys, it does not matter which record of a key counts. -/
theorem getElem?_byId_of_nodup {key : α → ItemId} {records : List α} (h : (records.map key).Nodup) (id : ItemId) :
    (byId key records)[id]? = records.find? (key · = id) := by rw [getElem?_byId, find?_reverse_of_nodup h]

theorem keyed_byId (key : α → ItemId) (records : List α) : Keyed key (byId key records) := by
  intro id record hr
  rw [getElem?_byId] at hr
  simpa using List.find?_some hr

/-- The records of a map make the map again. -/
theorem byId_values {key : α → ItemId} {m : Std.ExtTreeMap ItemId α} (h : Keyed key m) : byId key m.values = m := by
  refine Std.ExtTreeMap.ext_getElem? fun id => ?_
  rw [getElem?_byId, h.find?_reverse_values]

end TransferRegistry
