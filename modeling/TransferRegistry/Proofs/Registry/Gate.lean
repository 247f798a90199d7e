import TransferRegistry.Proofs.Registry.Views

/-!
# The gate of the hidden set

* `Moves.times`: a request leaves the time of an id as it is, hides the id where its item is stored, or releases it.
* `Registry.Refuses`: what a request without the passkey does.
* `Registry.Gated`: the hidden set of a registry changes through its gate alone, in the next operation and in any run
  that follows; `Registry.gated_run` says so of every registry that is reached.
-/

namespace TransferRegistry

/-- The request may end the hiding of an id: it deletes the item, or gives the passkey that is set. -/
def Request.Releases (q : Request) (secret : String) (id : ItemId) : Prop :=
  (∃ now, q.Asks now .delete id) ∨ (secret ≠ "" ∧ q.Unhides (some secret) id)

/-- What hides an id releases none. -/
theorem Request.Releases.not_asks_hide {q : Request} {secret : String} {id other : ItemId} {now : Int64}
    (h : q.Releases secret id) : ¬q.Asks now .hide other := by
  intro hq
  cases q with
  | applyOne time action item =>
    obtain ⟨-, rfl, -⟩ := hq
    rcases h with ⟨_, _, h, _⟩ | ⟨_, h⟩ <;> cases h
  | applyAction time action ids =>
    obtain ⟨-, rfl, -⟩ := hq
    rcases h with ⟨_, _, h, _⟩ | ⟨_, h⟩ <;> cases h
  | _ => exact hq

namespace Operation

/-- The operation takes over what a backend keeps. -/
def Loads : Operation → Prop
  | .load _ _ => True
  | _ => False

/-- The operation asks that an id be hidden from a time on. -/
def Hides (op : Operation) (now : Int64) (id : ItemId) : Prop := ∃ q, op = .request q ∧ q.Asks now .hide id

/-- The operation may end the hiding of an id. -/
def Releases (op : Operation) (secret : String) (id : ItemId) : Prop :=
  ∃ q, op = .request q ∧ q.Releases secret id

end Operation

namespace Registry

/-! ## One request -/

/-- What the hidden times of an id are after a request. -/
inductive TimeAfter (q : Request) (r s : Registry) (id : ItemId) : Prop where
  | same (h : s.hidden.times[id]? = r.hidden.times[id]?)
  | hides (now : Int64) (item : Item) (hq : q.Asks now .hide id) (hitem : r.items.item? id = some item)
    (hbefore : r.hidden.times[id]? = none) (hafter : s.hidden.times[id]? = some now)
  | releases (hq : q.Releases r.hidden.passkey id) (hafter : s.hidden.times[id]? = none)

theorem Move.times {q : Request} {r s : Registry} (hmove : Move q r s) (id : ItemId) : TimeAfter q r s id := by
  cases hmove with
  | @hide now other item hq hitem hshown =>
    by_cases heq : other = id
    · subst heq
      refine .hides now item hq hitem ?_ ?_
      · exact HiddenSet.contains_eq_false_iff.1 hshown
      · rw [hidden_queueHidden, HiddenSet.times_hide, if_pos ⟨rfl, hshown⟩]
    · refine .same ?_
      rw [hidden_queueHidden, HiddenSet.times_hide, if_neg fun h => heq h.1]
  | @unhide other hq =>
    by_cases heq : other = id
    · subst heq
      refine .releases (hq.imp_right ?_) ?_
      · rintro ⟨passkey, hq, hopens⟩
        obtain ⟨rfl, hne⟩ := (HiddenSet.opens_iff _ _).1 hopens
        exact ⟨hne, hq⟩
      · rw [hidden_queueHidden, HiddenSet.times_erase, if_pos rfl]
    · refine .same ?_
      rw [hidden_queueHidden, HiddenSet.times_erase, if_neg heq]
  | _ => exact .same rfl

/-- To put a record in where one is stored adds no id. -/
theorem stored_of_put {store : Store} {id other : ItemId} {before after : Item} (hitem : store.item? id = some before)
    (h : ∃ item, (store.put id after).item? other = some item) : ∃ item, store.item? other = some item := by
  rw [Store.item?_put] at h
  split at h
  · rename_i heq
    exact heq ▸ ⟨before, hitem⟩
  · exact h

/-- A request to hide stores no item. -/
theorem Move.stored_of_asks_hide {q : Request} {r s : Registry} (hmove : Move q r s) {now : Int64} {other id : ItemId}
    (hq : q.Asks now .hide other) (h : ∃ item, s.items.item? id = some item) :
    ∃ item, r.items.item? id = some item := by
  cases hmove with
  | add hadd =>
    rw [hadd] at hq
    exact hq.elim
  | report _ hitem => exact stored_of_put hitem h
  | act _ hitem => exact stored_of_put hitem h
  | delete hdelete =>
    have hreleases : q.Releases "" _ := Or.inl ⟨_, hdelete⟩
    exact absurd hq hreleases.not_asks_hide
  | _ => exact h

theorem Moves.times {q : Request} {r s : Registry} (hmoves : Moves q r s) (id : ItemId) : TimeAfter q r s id := by
  induction hmoves with
  | refl => exact .same rfl
  | @tail s t hmoves hmove ih =>
    rcases hmove.times id with hsame | ⟨now, item, hq, hitem, hbefore, hafter⟩ | ⟨hq, hafter⟩
    · rcases ih with h | ⟨now, item, hq, hitem, hbefore, hafter⟩ | ⟨hq, hafter⟩
      · exact .same (hsame.trans h)
      · exact .hides now item hq hitem hbefore (hsame.trans hafter)
      · exact .releases hq (hsame.trans hafter)
    · -- the id is hidden now, so what came before neither hid nor released it
      obtain ⟨item, hitem⟩ : ∃ item, r.items.item? id = some item := by
        refine hmoves.head_induction_on ⟨item, hitem⟩ fun hfirst _ h => hfirst.stored_of_asks_hide hq h
      rcases ih with h | ⟨_, _, _, _, _, hbefore'⟩ | ⟨hq', _⟩
      · exact .hides now item hq hitem (h ▸ hbefore) hafter
      · rw [hbefore] at hbefore'
        cases hbefore'
      · exact absurd hq hq'.not_asks_hide
    · exact .releases (Moves.passkey_eq hmoves ▸ hq) hafter

/-! ## One operation -/

/-- What an operation other than loading does to the time of an id. -/
theorem times_perform (r : Registry) {op : Operation} (hload : ¬op.Loads) (id : ItemId) :
    (r.perform op).hidden.times[id]? = r.hidden.times[id]? ∨
    (∃ now item, op.Hides now id ∧ r.items.item? id = some item ∧ r.hidden.times[id]? = none ∧
      (r.perform op).hidden.times[id]? = some now) ∨
    (op.Releases r.hidden.passkey id ∧ (r.perform op).hidden.times[id]? = none) := by
  cases op with
  | request q =>
    rcases (serve_moves r q).times id with h | ⟨now, item, hq, hitem, hbefore, hafter⟩ | ⟨hq, hafter⟩
    · exact Or.inl h
    · exact Or.inr (Or.inl ⟨now, item, ⟨q, rfl, hq⟩, hitem, hbefore, hafter⟩)
    · exact Or.inr (Or.inr ⟨⟨q, rfl, hq⟩, hafter⟩)
  | load backend s => exact absurd trivial hload
  | flush now backend s =>
    left
    rw [perform, (r.kept_flush now backend s).2.1]

/-- Loading ends no hiding. -/
theorem contains_load {σ : Type} {r : Registry} (h : r.Consistent) (backend : Backend σ) (s : σ) {id : ItemId}
    (hid : r.hidden.contains id = true) : (r.load backend s).state.1.hidden.contains id = true := by
  refine (load_induction (P := fun s => s.Consistent ∧ s.hidden.contains id = true)
    (fun s items hs => ⟨consistent_loadItems hs.1 items, ?_⟩)
    (fun s records hs => ⟨consistent_loadHidden hs.1 records, contains_loadHidden hs.1.items_sound hs.2 records⟩)
    (fun s seeds hs => ⟨consistent_loadSeeds hs.1 seeds, ?_⟩) r backend s ⟨h, hid⟩).2
  · obtain ⟨store, hstate, -, -⟩ := insertLoaded_spec items s hs.1.items_sound
    rw [loadItems_state, hstate]
    exact hs.2
  · unfold loadSeeds
    split <;> exact hs.2

/-! ## Without the passkey -/

/-- What becomes of a registry whose request is refused: one more is counted, and nothing else changes. -/
def refused (r : Registry) : Registry :=
  { r with stats := { r.stats with unauthorized := r.stats.unauthorized + 1 } }

/-- With `passkey` the registry refuses every request for what is hidden. -/
structure Refuses (r : Registry) (passkey : Option String) : Prop where
  unhide : ∀ ids, ids ≠ [] →
    (r.unhide ids passkey).answer = .error .unauthorized ∧ (r.unhide ids passkey).state = r.refused
  unhideAll : (r.unhideAll passkey).answer = .error .unauthorized ∧ (r.unhideAll passkey).state = r.refused
  hiddenEntries : (r.hiddenEntries passkey).answer = .error .unauthorized ∧ (r.hiddenEntries passkey).state = r.refused
  hiddenItems : (r.hiddenItems passkey).answer = .error .unauthorized ∧ (r.hiddenItems passkey).state = r.refused

theorem refuses_of_not_opens {r : Registry} {passkey : Option String} (h : ¬r.hidden.opens passkey = true) :
    r.Refuses passkey where
  unhide ids hids := by
    simp only [Registry.unhide, if_neg hids, HiddenSet.unhide_eq, if_neg h]
    exact ⟨rfl, rfl⟩
  unhideAll := by
    simp only [Registry.unhideAll, HiddenSet.unhideAll_eq, if_neg h]
    exact ⟨rfl, rfl⟩
  hiddenEntries := by
    simp only [Registry.hiddenEntries, HiddenSet.gatedEntries_eq, if_neg h]
    exact ⟨rfl, rfl⟩
  hiddenItems := by
    simp only [Registry.hiddenItems, HiddenSet.gatedEntries_eq, if_neg h]
    exact ⟨rfl, rfl⟩

/-! ## Runs -/

/-- The hidden set changes through its gate alone, which `secret` opens unless it is empty. -/
structure Gated (secret : String) (r : Registry) : Prop where
  /-- An id enters by a request to hide it while its item is stored, and with the time of that request. -/
  enters : ∀ op id, r.hidden.contains id = false → (r.perform op).hidden.contains id = true →
    op.Loads ∨ ∃ now item, op.Hides now id ∧ r.items.item? id = some item ∧
      (r.perform op).hidden.times[id]? = some now
  leaves : ∀ op id, r.hidden.contains id = true → (r.perform op).hidden.contains id = false → op.Releases secret id
  /-- As long as an id stays hidden it keeps its time. -/
  keeps : ∀ ops id, (∀ op ∈ ops, ¬op.Loads) → (∀ k, (r.run (ops.take k)).hidden.contains id = true) →
    (r.run ops).hidden.times[id]? = r.hidden.times[id]?
  refuses : ∀ passkey, (passkey = some secret → secret = "") → r.Refuses passkey

theorem keeps_time (ops : List Operation) (r : Registry) {id : ItemId} (hloads : ∀ op ∈ ops, ¬op.Loads)
    (hstays : ∀ k, (r.run (ops.take k)).hidden.contains id = true) :
    (r.run ops).hidden.times[id]? = r.hidden.times[id]? := by
  induction ops generalizing r with
  | nil => rfl
  | cons op ops ih =>
    have hrest := ih (r.perform op) (fun other ho => hloads other (List.mem_cons_of_mem _ ho)) fun k => hstays (k + 1)
    refine hrest.trans ?_
    have hbefore := hstays 0
    have hafter := hstays 1
    rcases r.times_perform (hloads op List.mem_cons_self) id with h | ⟨now, item, -, -, hnone, -⟩ | ⟨-, hnone⟩
    · exact h
    · rw [List.take_zero, run, List.foldl_nil, HiddenSet.contains_eq_false_iff.2 hnone] at hbefore
      cases hbefore
    · have hone : r.run ((op :: ops).take 1) = r.perform op := rfl
      rw [hone, HiddenSet.contains_eq_false_iff.2 hnone] at hafter
      cases hafter

theorem Consistent.gated {r : Registry} (h : r.Consistent) : r.Gated r.hidden.passkey where
  enters op id hbefore hafter := by
    by_cases hload : op.Loads
    · exact Or.inl hload
    rcases r.times_perform hload id with hsame | ⟨now, item, hop, hitem, -, htime⟩ | ⟨-, hnone⟩
    · rw [HiddenSet.contains_congr hsame, hbefore] at hafter
      cases hafter
    · exact Or.inr ⟨now, item, hop, hitem, htime⟩
    · rw [HiddenSet.contains_eq_false_iff.2 hnone] at hafter
      cases hafter
  leaves op id hbefore hafter := by
    by_cases hload : op.Loads
    · cases op with
      | load backend s =>
        rw [perform, contains_load h backend s hbefore] at hafter
        cases hafter
      | _ => exact hload.elim
    rcases r.times_perform hload id with hsame | ⟨now, item, -, -, -, htime⟩ | ⟨hop, -⟩
    · rw [HiddenSet.contains_congr hsame, hbefore] at hafter
      cases hafter
    · rw [HiddenSet.contains_eq_isSome, htime] at hafter
      cases hafter
    · exact hop
  keeps ops id hloads hstays := keeps_time ops r hloads hstays
  refuses passkey hp := by
    refine refuses_of_not_opens fun hopens => ?_
    obtain ⟨hsame, hne⟩ := (r.hidden.opens_iff passkey).1 hopens
    exact hne (hp hsame)

/-- Every registry that a run reaches changes its hidden set through its gate alone. -/
theorem gated_run (config : Configuration) (now : Int64) (ops : List Operation) :
    ((start config now).run ops).Gated config.core.hiddenPasskey := by
  have h := (consistent_run config now ops).gated
  rwa [passkey_run] at h

namespace Sample

/-- The end of hiding is asked for with the passkey. -/
def revealing : Operation := .request (.unhide [default] (some "open sesame"))

def shown : Registry := (start Sample.configuration 0).run [Sample.adding]

def veiled : Registry := (start Sample.configuration 0).run [Sample.adding, Sample.concealing 1]

end Sample

/-- An item is hidden, and hidden again and shown; another passkey does not show it. -/
theorem gated_run_veiled :
    (∃ now item, (Sample.concealing 1).Hides now default ∧ Sample.shown.items.item? default = some item ∧
      (Sample.shown.perform (Sample.concealing 1)).hidden.times[(default : ItemId)]? = some now) ∧
    Sample.revealing.Releases "open sesame" default ∧
    (Sample.veiled.run [Sample.concealing 5]).hidden.times[(default : ItemId)]? =
      Sample.veiled.hidden.times[(default : ItemId)]? ∧
    Sample.veiled.Refuses (some "open") := by
  have hshown : Sample.shown.Gated "open sesame" := gated_run Sample.configuration 0 [Sample.adding]
  have hveiled : Sample.veiled.Gated "open sesame" :=
    gated_run Sample.configuration 0 [Sample.adding, Sample.concealing 1]
  have hstays : ∀ k, (Sample.veiled.run ([Sample.concealing 5].take k)).hidden.contains default = true :=
    holds_run_take_singleton (P := fun r => r.hidden.contains default = true) (by decide +kernel) (by decide +kernel)
  refine ⟨?_, ?_, ?_, hveiled.refuses (some "open") (by decide)⟩
  · exact (hshown.enters (Sample.concealing 1) default (by decide +kernel) (by decide +kernel)).resolve_left id
  · exact hveiled.leaves Sample.revealing default (by decide +kernel) (by decide +kernel)
  · exact hveiled.keeps [Sample.concealing 5] default (fun op hop => by rw [List.mem_singleton.1 hop]; exact id) hstays

end Registry

end TransferRegistry
