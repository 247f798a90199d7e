import Mathlib.Data.List.Nodup
import TransferRegistry.Hidden
import TransferRegistry.Proofs.Text

/-!
# The hidden set and its gate

* `Passkey.same_iff`: the comparison that gathers the differences of all bytes tells equal texts from others.
* `HiddenSet.opens_iff`: only the configured passkey opens, and an empty one never does; `verify_of_opens`,
  `unhide_eq`, `unhideAll_eq` and `gatedEntries_eq` say so of the requests.
* `times_hide`, `times_erase`, `times_restore`, `times_takeOut`: the times after a change; `fst_takeOut`: the entries that
  are taken out.
-/

namespace TransferRegistry

/-- The record is one of the id, by its entry and by its item. -/
def HiddenRecord.Agrees (record : HiddenRecord) (id : ItemId) : Prop := record.entry.id = id ∧ record.item.id = id

instance (record : HiddenRecord) (id : ItemId) : Decidable (record.Agrees id) :=
  inferInstanceAs (Decidable (record.entry.id = id ∧ record.item.id = id))

/-! ## Comparing secrets -/

namespace Passkey

open Text (utf8 length_utf8 utf8_injective)

theorem foldl_or_eq_zero : ∀ (bytes : List UInt8) (seen : UInt8),
    bytes.foldl (· ||| ·) seen = 0 ↔ seen = 0 ∧ ∀ b ∈ bytes, b = 0
  | [], seen => by simp
  | b :: bytes, seen => by
    rw [List.foldl_cons, foldl_or_eq_zero bytes, UInt8.or_eq_zero_iff, List.forall_mem_cons, and_assoc]

/-- Texts of one length have no differences just where they are the same. -/
theorem zipWith_xor_eq_zero : ∀ (a b : List UInt8), a.length = b.length →
    ((∀ x ∈ List.zipWith (· ^^^ ·) a b, x = 0) ↔ a = b)
  | [], [], _ => by simp
  | [], _ :: _, h => by simp at h
  | _ :: _, [], h => by simp at h
  | x :: a, y :: b, h => by
    have ih := zipWith_xor_eq_zero a b (by simpa using h)
    rw [List.zipWith_cons_cons, List.forall_mem_cons, ih, UInt8.xor_eq_zero_iff, List.cons.injEq]

theorem same_iff (a b : String) : same a b = true ↔ a = b := by
  rw [same, Bool.and_eq_true, beq_iff_eq, beq_iff_eq, foldl_or_eq_zero]
  constructor
  · rintro ⟨hlen, -, hzero⟩
    have hlen' : (utf8 a).length = (utf8 b).length := by rw [length_utf8, length_utf8, hlen]
    exact utf8_injective ((zipWith_xor_eq_zero _ _ hlen').1 hzero)
  · rintro rfl
    exact ⟨rfl, rfl, (zipWith_xor_eq_zero _ _ rfl).2 rfl⟩

end Passkey

namespace HiddenSet

/-! ## The gate -/

/-- What opens is the passkey, byte for byte, and an empty passkey never opens. -/
theorem opens_iff (h : HiddenSet) (passkey : Option String) :
    h.opens passkey = true ↔ passkey = some h.passkey ∧ h.passkey ≠ "" := by
  cases passkey with
  | none => simp [opens]
  | some given =>
    simp only [opens, Bool.and_eq_true, Bool.not_eq_true', Passkey.same_iff, Option.some.injEq]
    constructor
    · rintro ⟨⟨hset, -⟩, rfl⟩
      exact ⟨rfl, by simpa using hset⟩
    · rintro ⟨rfl, hne⟩
      simp [hne]

theorem opens_erase (h : HiddenSet) (id : ItemId) (passkey : Option String) :
    (h.erase id).opens passkey = h.opens passkey := rfl

theorem verify_of_opens {h : HiddenSet} {passkey : Option String} (ho : h.opens passkey = true) :
    h.verify passkey = .ok () := by rw [verify, if_pos ho]

theorem verify_of_not_opens {h : HiddenSet} {passkey : Option String} (ho : ¬h.opens passkey = true) :
    h.verify passkey = .error .unauthorized := by rw [verify, if_neg ho]

theorem unhide_eq (h : HiddenSet) (ids : List ItemId) (passkey : Option String) :
    h.unhide ids passkey = if h.opens passkey then .ok (h.takeOut ids) else .error .unauthorized := by
  rw [unhide]
  split
  · rw [verify_of_opens ‹_›]; rfl
  · rw [verify_of_not_opens ‹_›]; rfl

theorem unhideAll_eq (h : HiddenSet) (passkey : Option String) :
    h.unhideAll passkey =
      if h.opens passkey then .ok (h.entries, { h with times := ∅ }) else .error .unauthorized := by
  rw [unhideAll]
  split
  · rw [verify_of_opens ‹_›]; rfl
  · rw [verify_of_not_opens ‹_›]; rfl

theorem gatedEntries_eq (h : HiddenSet) (passkey : Option String) :
    h.gatedEntries passkey = if h.opens passkey then .ok h.entries else .error .unauthorized := by
  rw [gatedEntries]
  split
  · rw [verify_of_opens ‹_›]; rfl
  · rw [verify_of_not_opens ‹_›]; rfl

/-! ## Times -/

theorem contains_eq_isSome (h : HiddenSet) (id : ItemId) : h.contains id = h.times[id]?.isSome := by
  rw [contains, Std.ExtTreeMap.isSome_getElem?_eq_contains]

theorem contains_eq_false_iff {h : HiddenSet} {id : ItemId} : h.contains id = false ↔ h.times[id]? = none := by
  rw [contains_eq_isSome, Option.isSome_eq_false_iff, Option.isNone_iff_eq_none]

theorem contains_congr {h g : HiddenSet} {id : ItemId} (htime : g.times[id]? = h.times[id]?) :
    g.contains id = h.contains id := by rw [contains_eq_isSome, contains_eq_isSome, htime]

/-- A hidden set is the times of its ids and its passkey. -/
theorem ext_times {h g : HiddenSet} (htimes : ∀ id : ItemId, g.times[id]? = h.times[id]?)
    (hpasskey : g.passkey = h.passkey) : g = h := by
  obtain ⟨times, passkey⟩ := h
  obtain rfl : g.times = times := Std.ExtTreeMap.ext_getElem? htimes
  obtain rfl : g.passkey = passkey := hpasskey
  rfl

theorem entry?_eq_some {h : HiddenSet} {id : ItemId} {entry : HiddenEntry} :
    h.entry? id = some entry ↔ entry.id = id ∧ h.times[id]? = some entry.hiddenAt := by
  unfold entry?
  rw [Option.map_eq_some_iff]
  constructor
  · rintro ⟨time, ht, rfl⟩
    exact ⟨rfl, ht⟩
  · rintro ⟨rfl, ht⟩
    exact ⟨_, ht, rfl⟩

theorem entry?_eq_none {h : HiddenSet} {id : ItemId} : h.entry? id = none ↔ h.times[id]? = none := Option.map_eq_none_iff

theorem mem_entries {h : HiddenSet} {entry : HiddenEntry} :
    entry ∈ h.entries ↔ h.times[entry.id]? = some entry.hiddenAt := by
  simp only [entries, List.mem_map, Prod.exists, Std.ExtTreeMap.mem_toList_iff_getElem?_eq_some]
  constructor
  · rintro ⟨id, time, ht, rfl⟩
    exact ht
  · intro ht
    exact ⟨_, _, ht, rfl⟩

theorem mem_entries_iff_entry? {h : HiddenSet} {entry : HiddenEntry} :
    entry ∈ h.entries ↔ h.entry? entry.id = some entry := by
  rw [mem_entries, entry?_eq_some, eq_self, true_and]

theorem entry?_ne_none {h : HiddenSet} {id : ItemId} : h.entry? id ≠ none ↔ h.contains id = true := by
  rw [contains_eq_isSome, Option.isSome_iff_ne_none, Ne, entry?_eq_none]

theorem length_entries (h : HiddenSet) : h.entries.length = h.size := by
  rw [entries, List.length_map, Std.ExtTreeMap.length_toList, size]

/-- The entries come in the order of their ids. -/
theorem ascending_entries (h : HiddenSet) : h.entries.Pairwise fun a b => compare a.id b.id = .lt := by
  rw [entries, List.pairwise_map]
  have hkeys : (h.times.toList.map (·.1)).Pairwise fun a b => compare a b = .lt := by
    rw [Std.ExtTreeMap.map_fst_toList_eq_keys]
    exact Std.ExtTreeMap.ordered_keys
  exact List.pairwise_map.1 hkeys

theorem times_hide (h : HiddenSet) (id other : ItemId) (now : Int64) :
    (h.hide id now).times[other]? =
      if id = other ∧ h.contains id = false then some now else h.times[other]? := by
  rw [hide]
  by_cases hc : h.contains id = true
  · simp [hc]
  · simp [hc, Std.ExtTreeMap.getElem?_insert]

theorem times_erase (h : HiddenSet) (id other : ItemId) :
    (h.erase id).times[other]? = if id = other then none else h.times[other]? := by
  simp [erase, Std.ExtTreeMap.getElem?_erase]

/-- Of the entries that are taken over, the last one of an id counts. -/
theorem times_restore (h : HiddenSet) (entries : List HiddenEntry) (id : ItemId) :
    (h.restore entries).times[id]? =
      ((entries.reverse.find? (·.id = id)).map (·.hiddenAt)).or h.times[id]? := by
  show (entries.foldl (fun times e => times.insert e.id e.hiddenAt) h.times)[id]? = _
  induction entries generalizing h with
  | nil => simp
  | cons e entries ih =>
    rw [List.foldl_cons, ih { h with times := h.times.insert e.id e.hiddenAt }, List.reverse_cons, List.find?_append]
    by_cases he : e.id = id
    · cases entries.reverse.find? (·.id = id) <;> simp [he]
    · cases entries.reverse.find? (·.id = id) <;> simp [he, Std.ExtTreeMap.getElem?_insert]

/-! ## Taking out -/

theorem passkey_takeOut (ids : List ItemId) (h : HiddenSet) : (h.takeOut ids).2.passkey = h.passkey := by
  induction ids generalizing h with
  | nil => rfl
  | cons id ids ih =>
    rw [takeOut]
    split
    · exact ih h
    · exact ih (h.erase id)

theorem times_takeOut (ids : List ItemId) (h : HiddenSet) (id : ItemId) :
    (h.takeOut ids).2.times[id]? = if id ∈ ids then none else h.times[id]? := by
  induction ids generalizing h with
  | nil => rfl
  | cons first ids ih =>
    rw [takeOut]
    split
    · rename_i hnone
      rw [entry?_eq_none] at hnone
      rw [ih h]
      by_cases hid : id = first
      · simp [hid, hnone]
      · simp [hid]
    · rw [ih (h.erase first), times_erase]
      by_cases hid : id = first
      · simp [hid]
      · simp [hid, Ne.symm hid]

theorem length_takeOut_le (h : HiddenSet) (ids : List ItemId) : (h.takeOut ids).1.length ≤ ids.length := by
  induction ids generalizing h with
  | nil => exact Nat.le_refl _
  | cons id ids ih =>
    rw [takeOut]
    split
    · exact Nat.le_succ_of_le (ih h)
    · exact Nat.succ_le_succ (ih (h.erase id))

theorem entry?_erase (h : HiddenSet) (id other : ItemId) :
    HiddenSet.entry? (h.erase id) other = if id = other then none else h.entry? other := by
  unfold entry?
  rw [times_erase]
  split <;> rfl

/-- An id that is not hidden may be left out of the list. -/
theorem takeOut_filter {id : ItemId} (ids : List ItemId) {h : HiddenSet} (hnone : h.entry? id = none) :
    h.takeOut (ids.filter fun other => !other == id) = h.takeOut ids := by
  induction ids generalizing h with
  | nil => rfl
  | cons first ids ih =>
    by_cases hfirst : first = id
    · subst hfirst
      rw [List.filter_cons_of_neg (by simp), ih hnone]
      simp only [takeOut, hnone]
    · have herased : HiddenSet.entry? (h.erase first) id = none := by
        rw [entry?_erase, if_neg hfirst, hnone]
      rw [List.filter_cons_of_pos (by simpa using hfirst)]
      simp only [takeOut, ih hnone, ih herased]

/-- The entries are taken out each once, in the order in which the list first has their ids. -/
theorem fst_takeOut (ids : List ItemId) (h : HiddenSet) : (h.takeOut ids).1 = ids.eraseDups.filterMap h.entry? := by
  match ids with
  | [] => rfl
  | id :: ids =>
    rw [List.eraseDups_cons, takeOut]
    split
    · rename_i hnone
      rw [← takeOut_filter ids hnone, fst_takeOut, List.filterMap_cons_none hnone]
    · rename_i entry hentry
      have herased : HiddenSet.entry? (h.erase id) id = none := by rw [entry?_erase, if_pos rfl]
      rw [← takeOut_filter ids herased, List.filterMap_cons_some hentry]
      show entry :: ((h.erase id).takeOut _).1 = _
      rw [fst_takeOut]
      -- what is left of the list is without the id that is taken out
      refine congrArg (List.cons entry) (List.filterMap_congr fun other hother => ?_)
      have hne : other ≠ id := by simpa using (List.mem_filter.1 (List.mem_eraseDups.1 hother)).2
      rw [entry?_erase, if_neg hne.symm]
termination_by ids.length
decreasing_by all_goals exact Nat.lt_succ_of_le (List.length_filter_le _ _)

/-- Of distinct ids, the entries are taken out in the order of the list. -/
theorem takeOut_of_nodup (ids : List ItemId) (hids : ids.Nodup) (h : HiddenSet) :
    (h.takeOut ids).1 = ids.filterMap h.entry? := by
  have hdistinct : ids.eraseDups = ids := by
    induction ids with
    | nil => rfl
    | cons id ids ih =>
      obtain ⟨hid, hids⟩ := List.nodup_cons.1 hids
      have hkept : ids.filter (fun other => !other == id) = ids := List.filter_eq_self.2 fun other hother => by
        have hne : other ≠ id := fun heq => hid (heq ▸ hother)
        simpa using hne
      rw [List.eraseDups_cons, hkept, ih hids]
  rw [fst_takeOut, hdistinct]

/-- To take out all hidden ids leaves none. -/
theorem takeOut_entries (h : HiddenSet) : h.takeOut (h.entries.map (·.id)) = (h.entries, { h with times := ∅ }) := by
  have hids : (h.entries.map (·.id)).Nodup := by
    rw [List.Nodup, List.pairwise_map]
    refine h.ascending_entries.imp fun hlt heq => ?_
    simp [heq] at hlt
  have hleft : (h.takeOut (h.entries.map (·.id))).1 = h.entries := by
    have hentry : ∀ entry ∈ h.entries, ( h.entry? ∘ fun e => e.id) entry = some entry := fun entry he =>
      entry?_eq_some.2 ⟨rfl, mem_entries.1 he⟩
    rw [takeOut_of_nodup _ hids, List.filterMap_map, List.filterMap_congr hentry, List.filterMap_some]
  refine Prod.ext hleft (ext_times (fun id => ?_) (passkey_takeOut _ h))
  rw [times_takeOut, Std.ExtTreeMap.getElem?_empty]
  split
  · rfl
  · rename_i hid
    cases ht : h.times[id]? with
    | none => rfl
    | some time =>
      have hentry : (⟨id, time⟩ : HiddenEntry) ∈ h.entries := mem_entries.2 ht
      exact absurd (List.mem_map_of_mem hentry) hid

end HiddenSet

end TransferRegistry
