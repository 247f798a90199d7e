import TransferRegistry.Proofs.Registry.Revision

/-!
# The counters of an item

* `Item.Grows`: of two records of an item, no counter of the second has moved back, but for the uploads.
* `Registry.Recounted`: an operation keeps all of a record but state and flag, or a report was taken over, or the uploads
  were set back; `Consistent.recounted`: there is nothing else.
* `Registry.Accounted`: counters move one way over every run, ratios are those of the counters, and a report that is
  refused changes nothing. `accounted_run`: every registry that a run reaches is so.
-/

namespace TransferRegistry

open Number (Binary64)

/-- One record of an item comes of another without a counter moving back; uploads may have been set back. -/
structure Item.Grows (before after : Item) : Prop where
  id : after.id = before.id
  name : after.name = before.name
  fileSize : after.fileSize = before.fileSize
  downloaded : before.downloaded ≤ after.downloaded
  remaining : after.remaining ≤ before.remaining

theorem Item.Grows.refl (item : Item) : item.Grows item where
  id := rfl
  name := rfl
  fileSize := rfl
  downloaded := UInt64.le_refl _
  remaining := UInt64.le_refl _

theorem Item.Grows.trans {first second third : Item} (h : first.Grows second) (h' : second.Grows third) :
    first.Grows third where
  id := h'.id.trans h.id
  name := h'.name.trans h.name
  fileSize := h'.fileSize.trans h.fileSize
  downloaded := UInt64.le_trans h.downloaded h'.downloaded
  remaining := UInt64.le_trans h'.remaining h.remaining

/-- A report that moves no counter the wrong way is one that the record grows by. -/
theorem Item.grows_takeProgress {item : Item} {update : ProgressUpdate}
    (h : ∀ counter : Counter, ¬counter.Recedes item update) : item.Grows (item.takeProgress update) := by
  have hdownloaded : ¬update.downloaded < item.downloaded := h .downloaded
  have hremaining : ¬item.remaining < update.remaining := h .remaining
  rw [takeProgress_eq]
  exact ⟨rfl, rfl, rfl, UInt64.not_lt.1 hdownloaded, UInt64.not_lt.1 hremaining⟩

namespace Registry

/-- What an operation makes of the counters, peers and files of an item. -/
inductive Recounted (r : Registry) (op : Operation) (id : ItemId) (before after : Item) : Prop where
  | kept (h : after = { before with state := after.state, archived := after.archived })
  | reported {update : ProgressUpdate} {state : ItemState} (hop : op = .request (.reportProgress id update))
    (hanswer : (r.reportProgress id update).answer = .ok state)
    (htaken : ∀ counter : Counter, ¬counter.Recedes before update) (h : after = before.takeProgress update)
  | setBack (hop : op = .request (.resetUploaded id)) (h : after = before.resetUploaded)

section

variable {r : Registry} {op : Operation} {id : ItemId} {before after : Item}

theorem Consistent.recounted (h : r.Consistent) (hbefore : r.items.item? id = some before)
    (hafter : (r.perform op).items.item? id = some after) : Recounted r op id before after := by
  cases h.revised op hbefore hafter with
  | kept => exact .kept rfl
  | acted => exact .kept (Transition.applyTo_eq _ _)
  | reported hop =>
    obtain ⟨q, rfl, hq⟩ := hop
    cases q with
    | reportProgress other update =>
      obtain ⟨rfl, hnext⟩ := hq
      obtain ⟨htaken, heq⟩ := Item.applyProgress_eq_ok.1 hnext
      exact .reported rfl (reportProgress_of_ok hbefore hnext).1 htaken heq
    | reportError other =>
      obtain ⟨rfl, rfl⟩ := hq
      exact .kept rfl
    | resetUploaded other =>
      obtain ⟨rfl, heq⟩ := hq
      exact .setBack rfl heq
    | _ => exact hq.elim

theorem Recounted.grows (h : Recounted r op id before after) : before.Grows after := by
  cases h with
  | kept h =>
    rw [h]
    exact ⟨rfl, rfl, rfl, UInt64.le_refl _, UInt64.le_refl _⟩
  | reported _ _ htaken h =>
    rw [h]
    exact Item.grows_takeProgress htaken
  | setBack _ h =>
    rw [h]
    exact ⟨rfl, rfl, rfl, UInt64.le_refl _, UInt64.le_refl _⟩

theorem Recounted.uploaded_le (h : Recounted r op id before after) (hop : op ≠ .request (.resetUploaded id)) :
    before.uploaded ≤ after.uploaded := by
  cases h with
  | kept h =>
    rw [h]
    exact UInt64.le_refl _
  | @reported update _ _ _ htaken h =>
    have huploaded : ¬update.uploaded < before.uploaded := htaken .uploaded
    rw [h, Item.takeProgress_eq]
    exact UInt64.not_lt.1 huploaded
  | setBack hreset => exact absurd hreset hop

/-! ## Runs -/

variable {ops : List Operation}

theorem Consistent.grows_run (h : r.Consistent) (hbefore : r.items.item? id = some before)
    (hstays : ∀ k, (r.run (ops.take k)).items.item? id ≠ none) (hafter : (r.run ops).items.item? id = some after) :
    before.Grows after := by
  refine h.item_induction (P := before.Grows) ops ?_ hbefore hstays hafter (Item.Grows.refl before)
  intro s op first second hs _ hfirst hsecond hgrows
  exact hgrows.trans (hs.recounted hfirst hsecond).grows

theorem Consistent.uploaded_run (h : r.Consistent) (hbefore : r.items.item? id = some before)
    (hstays : ∀ k, (r.run (ops.take k)).items.item? id ≠ none) (hafter : (r.run ops).items.item? id = some after)
    (hops : .request (.resetUploaded id) ∉ ops) : before.uploaded ≤ after.uploaded := by
  refine h.item_induction (P := fun item => before.uploaded ≤ item.uploaded) ops ?_ hbefore hstays hafter
    (UInt64.le_refl _)
  intro s op first second hs ho hfirst hsecond hle
  refine UInt64.le_trans hle ((hs.recounted hfirst hsecond).uploaded_le ?_)
  rintro rfl
  exact hops ho

/-! ## Refused reports -/

/-- A report is refused for want of the item, or for the first counter that it moves the wrong way. -/
theorem reportProgress_refused (r : Registry) (id : ItemId) (update : ProgressUpdate) {e : ItemError}
    (h : (r.reportProgress id update).answer = .error e) :
    (r.reportProgress id update).state = r ∧
      ((r.items.item? id = none ∧ e = .notFound id) ∨
        ∃ item, r.items.item? id = some item ∧ item.regression? update = some e) := by
  cases hitem : r.items.item? id with
  | none =>
    rw [reportProgress_of_none hitem] at h ⊢
    cases h
    exact ⟨rfl, Or.inl ⟨rfl, rfl⟩⟩
  | some item =>
    cases hregression : item.regression? update with
    | some fault =>
      have happly : item.applyProgress update = .error fault := by rw [Item.applyProgress, hregression]
      rw [reportProgress_of_error hitem happly] at h ⊢
      cases h
      exact ⟨rfl, Or.inr ⟨item, rfl, hregression⟩⟩
    | none =>
      have happly : item.applyProgress update = .ok (item.takeProgress update) := by
        rw [Item.applyProgress, hregression]
      rw [(reportProgress_of_ok hitem happly).1] at h
      cases h

theorem reportProgress_regression_iff (h : r.Consistent) (id : ItemId) (update : ProgressUpdate) (other : ItemId)
    (counter : Counter) (previous reported : UInt64) :
    (r.reportProgress id update).answer = .error (.counterRegression other counter previous reported) ↔
      ∃ item, r.items.item? id = some item ∧ Counter.all.find? (·.Recedes item update) = some counter ∧
        other = id ∧ previous = counter.ofItem item ∧ reported = counter.ofUpdate update := by
  constructor
  · intro hanswer
    obtain ⟨-, ⟨-, hfault⟩ | ⟨item, hitem, hregression⟩⟩ := r.reportProgress_refused id update hanswer
    · cases hfault
    · rw [Item.regression?_eq, Option.map_eq_some_iff] at hregression
      obtain ⟨first, hfirst, hfault⟩ := hregression
      cases hfault
      exact ⟨item, hitem, hfirst, h.items_sound.id_eq hitem, rfl, rfl⟩
  · rintro ⟨item, hitem, hfirst, rfl, rfl, rfl⟩
    have happly : item.applyProgress update =
        .error (.counterRegression other counter (counter.ofItem item) (counter.ofUpdate update)) := by
      rw [Item.applyProgress, Item.regression?_eq, hfirst, ← h.items_sound.id_eq hitem]
      rfl
    rw [reportProgress_of_error hitem happly]

end

/-! ## After every run -/

/-- The counters of every item move one way, its ratio is that of its counters, and only reports change them. -/
structure Accounted (r : Registry) : Prop where
  current : ∀ id item, r.items.item? id = some item → item.refreshRatio = item ∧ item.ratio =
    if item.downloaded = 0 then .zero
    else (Binary64.ofNat item.uploaded.toNat).div (Binary64.ofNat item.downloaded.toNat)
  grows : ∀ ops id before after, r.items.item? id = some before →
    (∀ k, (r.run (ops.take k)).items.item? id ≠ none) → (r.run ops).items.item? id = some after → before.Grows after
  uploaded : ∀ ops id before after, r.items.item? id = some before →
    (∀ k, (r.run (ops.take k)).items.item? id ≠ none) → (r.run ops).items.item? id = some after →
    .request (.resetUploaded id) ∉ ops → before.uploaded ≤ after.uploaded
  setBack : ∀ id before, r.items.item? id = some before → (r.resetUploaded id).answer = .ok () ∧
    ∃ after, (r.resetUploaded id).state.items.item? id = some after ∧ after.uploaded = 0
  /-- Only a report that is answered and a request to set the uploads back change more than state and flag. -/
  kept : ∀ op id before after, r.items.item? id = some before → (r.perform op).items.item? id = some after →
    (∀ update, op = .request (.reportProgress id update) → ∃ e, (r.reportProgress id update).answer = .error e) →
    op ≠ .request (.resetUploaded id) → after = { before with state := after.state, archived := after.archived }
  regression : ∀ id update other counter previous reported,
    (r.reportProgress id update).answer = .error (.counterRegression other counter previous reported) ↔
      ∃ item, r.items.item? id = some item ∧ Counter.all.find? (·.Recedes item update) = some counter ∧
        other = id ∧ previous = counter.ofItem item ∧ reported = counter.ofUpdate update
  refused : ∀ id update e, (r.reportProgress id update).answer = .error e → (r.reportProgress id update).state = r

/-- In every registry that a run reaches the counters are accounted for. -/
theorem accounted_run (config : Configuration) (now : Int64) (ops : List Operation) :
    ((start config now).run ops).Accounted where
  current id item hitem := by
    have hcurrent := (consistent_run config now ops).items_sound.current hitem
    have hratio : item.refreshRatio.ratio = item.ratio := congrArg Item.ratio hcurrent
    exact ⟨hcurrent, hratio.symm⟩
  grows _ _ _ _ hbefore hstays hafter := (consistent_run config now ops).grows_run hbefore hstays hafter
  uploaded _ _ _ _ hbefore hstays hafter hops :=
    (consistent_run config now ops).uploaded_run hbefore hstays hafter hops
  setBack id before hbefore := by
    have hq : Request.Reports (.resetUploaded id) id before before.resetUploaded := ⟨rfl, rfl⟩
    have hafter := item?_report hbefore hq
    refine ⟨?_, before.resetUploaded, hafter, rfl⟩
    simp only [resetUploaded, Store.modify, hbefore]
  kept op id before after hbefore hafter hfails hreset := by
    cases (consistent_run config now ops).recounted hbefore hafter with
    | kept hsame => exact hsame
    | @reported update state hop hanswer =>
      obtain ⟨e, he⟩ := hfails update hop
      rw [hanswer] at he
      cases he
    | setBack hop => exact absurd hop hreset
  regression := reportProgress_regression_iff (consistent_run config now ops)
  refused id update _ hanswer := (reportProgress_refused _ id update hanswer).1

namespace Sample

/-- The next report goes on, and one more goes back. -/
def further : ProgressUpdate := ⟨8, 4, 2, 0, 0, none, none⟩

def backward : ProgressUpdate := ⟨5, 9, 1, 0, 0, none, none⟩

/-- The item once something of it was fetched, and with more of it. -/
def begun : Item := (Item.fresh default "item" 10).takeProgress ⟨6, 3, 4, 0, 0, none, none⟩

def advanced : Item := begun.takeProgress further

def fetching : Registry :=
  (start Sample.configuration 0).run [Sample.adding, .request (.reportProgress default ⟨6, 3, 4, 0, 0, none, none⟩)]

end Sample

/-- A report goes on, the uploads are set back, and a report that goes back is refused for the first counter. -/
theorem accounted_run_fetching :
    Sample.begun.Grows Sample.advanced ∧ Sample.begun.uploaded ≤ Sample.advanced.uploaded ∧
    (∃ after, (Sample.fetching.resetUploaded default).state.items.item? default = some after ∧ after.uploaded = 0) ∧
    (Sample.fetching.reportProgress default Sample.backward).answer =
      .error (.counterRegression default .downloaded 6 5) ∧
    (Sample.fetching.reportProgress default Sample.backward).state = Sample.fetching := by
  have haccounted : Sample.fetching.Accounted := accounted_run Sample.configuration 0
    [Sample.adding, .request (.reportProgress default ⟨6, 3, 4, 0, 0, none, none⟩)]
  have hbefore : Sample.fetching.items.item? default = some Sample.begun := by decide +kernel
  have hafter : (Sample.fetching.run [.request (.reportProgress default Sample.further)]).items.item? default =
      some Sample.advanced := by decide +kernel
  have hstays : ∀ k,
      (Sample.fetching.run ([.request (.reportProgress default Sample.further)].take k)).items.item? default ≠ none :=
    holds_run_take_singleton (P := fun r => r.items.item? default ≠ none) (by decide +kernel) (by decide +kernel)
  have hregression : (Sample.fetching.reportProgress default Sample.backward).answer =
      .error (.counterRegression default .downloaded 6 5) :=
    (haccounted.regression ..).2 ⟨Sample.begun, hbefore, by decide +kernel, rfl, rfl, rfl⟩
  refine ⟨haccounted.grows _ default _ _ hbefore hstays hafter, ?_, (haccounted.setBack default _ hbefore).2, hregression,
    haccounted.refused default Sample.backward _ hregression⟩
  exact haccounted.uploaded _ default _ _ hbefore hstays hafter (by simp)

end Registry

end TransferRegistry
