import TransferRegistry.Proofs.Item.Lifecycle
import TransferRegistry.Proofs.Registry.Batch
import TransferRegistry.Proofs.Registry.Views

/-!
# What becomes of a record

* `Registry.Revised`: the record of an item is kept, or an action or a report for this item made another one of it.
  `Consistent.revised`: an operation does nothing else to the record of an item that is stored before and after it.
* `item?_act`, `item?_report`: an action that is planned and a report that is taken over are done.
-/

namespace TransferRegistry

/-- The operation asks for an action on an item, at a time. -/
def Operation.Asks (op : Operation) (now : Int64) (action : ItemAction) (id : ItemId) : Prop :=
  ∃ q, op = .request q ∧ q.Asks now action id

/-- The operation makes one record of an item out of another by what the transfer reports. -/
def Operation.Reports (op : Operation) (id : ItemId) (before after : Item) : Prop :=
  ∃ q, op = .request q ∧ q.Reports id before after

namespace Registry

/-- What an operation makes of the record of an item. -/
inductive Revised (r : Registry) (op : Operation) (id : ItemId) (before : Item) : Item → Prop where
  | kept : Revised r op id before before
  | acted {now : Int64} {action : ItemAction} {transition : Transition} (hop : op.Asks now action id)
    (hshown : r.hidden.contains id = false) (hplan : action.plan before = .ok transition)
    (hchanges : transition.changes before = true) : Revised r op id before (transition.applyTo before)
  | reported {after : Item} (hop : op.Reports id before after) : Revised r op id before after

/-! ## Requests for other items -/

section

variable {q : Request} {r s : Registry} {id : ItemId}

theorem Move.item?_eq (hmove : Move q r s) (hadd : ∀ item, q = .addItem item → item.id ≠ id)
    (hreports : ∀ before after, ¬q.Reports id before after) (hasks : ∀ now action, ¬q.Asks now action id) :
    s.items.item? id = r.items.item? id := by
  cases hmove with
  | add hq hinsert => exact (Store.item?_insert hinsert id).trans (if_neg (hadd _ hq))
  | report hq =>
    refine (Store.item?_put ..).trans (if_neg ?_)
    rintro rfl
    exact hreports _ _ hq
  | act hq =>
    refine (Store.item?_put ..).trans (if_neg ?_)
    rintro rfl
    exact hasks _ _ hq
  | delete hq =>
    refine (Store.item?_remove ..).trans (if_neg ?_)
    rintro rfl
    exact hasks _ _ hq
  | _ => rfl

/-- A request that is for other items leaves the record of an item alone. -/
theorem item?_serve (r : Registry) (hadd : ∀ item, q = .addItem item → item.id ≠ id)
    (hreports : ∀ before after, ¬q.Reports id before after) (hasks : ∀ now action, ¬q.Asks now action id) :
    (r.serve q).items.item? id = r.items.item? id := by
  have hmoves := serve_moves r q
  generalize r.serve q = s at hmoves ⊢
  induction hmoves with
  | refl => rfl
  | tail _ hmove ih => exact (hmove.item?_eq hadd hreports hasks).trans ih

end

/-! ## Reports -/

section

variable {r : Registry} {id : ItemId} {update : ProgressUpdate} {item : Item}

theorem reportProgress_of_none (h : r.items.item? id = none) (update : ProgressUpdate) :
    r.reportProgress id update = ⟨r, .error (.notFound id), []⟩ := by
  simp only [reportProgress, Store.get, h]

theorem reportProgress_of_error {e : ItemError} (hitem : r.items.item? id = some item)
    (h : item.applyProgress update = .error e) : r.reportProgress id update = ⟨r, .error e, []⟩ := by
  simp only [reportProgress, Store.get, hitem, h]

theorem reportProgress_of_ok {next : Item} (hitem : r.items.item? id = some item)
    (h : item.applyProgress update = .ok next) : (r.reportProgress id update).answer = .ok next.state ∧
      (r.reportProgress id update).state.items = r.items.put id next := by
  simp only [reportProgress, Store.get, hitem, h, items_queueItem, true_and]
  rfl

/-- A report that is taken over gives the record that it makes. -/
theorem item?_report {q : Request} {before after : Item} (hitem : r.items.item? id = some before)
    (hq : q.Reports id before after) : (r.serve q).items.item? id = some after := by
  cases q with
  | reportProgress other update =>
    obtain ⟨rfl, hnext⟩ := hq
    rw [serve, (reportProgress_of_ok hitem hnext).2, Store.item?_put, if_pos rfl]
  | reportError other =>
    obtain ⟨rfl, rfl⟩ := hq
    have hitems : (r.reportError other).state.items = r.items.put other { before with state := .error } := by
      simp only [reportError, Store.updateState, Store.get, hitem, bind, Except.bind, pure, Except.pure]
      split <;> rfl
    rw [serve, hitems, Store.item?_put, if_pos rfl]
  | resetUploaded other =>
    obtain ⟨rfl, rfl⟩ := hq
    have hitems : (r.resetUploaded other).state.items = r.items.put other before.resetUploaded := by
      simp only [resetUploaded, Store.modify, hitem, items_queueItem]
    rw [serve, hitems, Store.item?_put, if_pos rfl]
  | _ => exact hq.elim

end

/-! ## Actions -/

section

variable {r : Registry} {id : ItemId} {now : Int64} {action : ItemAction}

theorem item?_changeOne {item : Item} (hitem : r.items.item? id = some item) (transition : Transition) :
    (r.changeOne id item transition).state.items.item? id = some (transition.applyTo item) := by
  rcases r.changeOne_cases id item transition with ⟨hsame, hstate⟩ | ⟨-, hstate⟩
  · rw [hstate, hitem, Transition.applyTo_of_not_changes hsame]
  · rw [hstate, items_queueItem, Store.item?_put, if_pos rfl]

/-- A request for an action on an item does to the item what is done to it alone. -/
theorem item?_serve_of_asks {q : Request} (hq : q.Asks now action id) :
    (r.serve q).items.item? id = (r.applyOne now action id).state.items.item? id := by
  cases q with
  | applyOne time act item =>
    obtain ⟨rfl, rfl, rfl⟩ := hq
    rfl
  | applyAction time act ids =>
    obtain ⟨rfl, rfl, hid⟩ := hq
    have h := (alikeAt_applyAction r time act ids id).item?
    rw [if_pos hid] at h
    exact h
  | _ => exact hq.elim

/-- An action that is planned for an item that is not hidden gives the record that it makes. -/
theorem item?_act {q : Request} {item : Item} {transition : Transition} (hq : q.Asks now action id)
    (hdelete : action ≠ .delete) (hhide : action ≠ .hide) (hitem : r.items.item? id = some item)
    (hshown : r.hidden.contains id = false) (hplan : action.plan item = .ok transition) :
    (r.serve q).items.item? id = some (transition.applyTo item) := by
  rw [item?_serve_of_asks hq, applyOne_eq_changeOne now hdelete hhide hitem hshown hplan]
  exact item?_changeOne hitem transition

theorem revised_applyOne {op : Operation} {before after : Item} (hop : op.Asks now action id)
    (hbefore : r.items.item? id = some before)
    (hafter : (r.applyOne now action id).state.items.item? id = some after) : Revised r op id before after := by
  rcases r.applyOne_cases now action id with hstate | ⟨-, hstate⟩ | ⟨-, -, -, hstate⟩ |
    ⟨item, transition, hitem, hshown, hplan, hchanges, hstate⟩
  · rw [hstate, hbefore] at hafter
    cases hafter
    exact .kept
  · -- what is deleted is not stored after it
    rw [hstate, Store.item?, (r.gone_deleteOne id).1] at hafter
    cases hafter
  · have hitems : (r.applyOne now action id).state.items = r.items := by rw [hstate]; rfl
    rw [hitems, hbefore] at hafter
    cases hafter
    exact .kept
  · rw [hbefore] at hitem
    cases hitem
    rw [hstate, items_queueItem, Store.item?_put, if_pos rfl] at hafter
    cases hafter
    exact .acted hop hshown hplan hchanges

end

/-! ## Every operation -/

section

variable {r : Registry} {id : ItemId} {before after : Item}

/-- Loading leaves the items that are stored as they are. -/
theorem Consistent.item?_load {σ : Type} (h : r.Consistent) (backend : Backend σ) (s : σ)
    (hitem : r.items.item? id = some before) : (r.load backend s).state.1.items.item? id = some before := by
  refine (load_induction (P := fun s => s.Consistent ∧ s.items.item? id = some before)
    (fun s items hs => ⟨consistent_loadItems hs.1 items, item?_loadItems hs.1.items_sound hs.2 items⟩)
    (fun s records hs => ⟨consistent_loadHidden hs.1 records, item?_loadHidden hs.1.items_sound hs.2 records⟩)
    (fun s seeds hs => ⟨consistent_loadSeeds hs.1 seeds, ?_⟩) r backend s ⟨h, hitem⟩).2
  unfold loadSeeds
  split <;> exact hs.2

/-- A request for a report about an item keeps the record or gives the one that the report makes. -/
theorem revised_serve_of_reports {q : Request} (hbefore : r.items.item? id = some before)
    (hafter : (r.serve q).items.item? id = some after) (hreports : ∃ first second, q.Reports id first second) :
    Revised r (.request q) id before after := by
  have htaken : ∀ made, q.Reports id before made → Revised r (.request q) id before after := by
    intro made hq
    rw [item?_report hbefore hq] at hafter
    cases hafter
    exact .reported ⟨q, rfl, hq⟩
  obtain ⟨first, second, hq⟩ := hreports
  cases q with
  | reportProgress other update =>
    obtain ⟨rfl, -⟩ := hq
    cases hnext : before.applyProgress update with
    | ok next => exact htaken next ⟨rfl, hnext⟩
    | error e =>
      rw [serve, reportProgress_of_error hbefore hnext, hbefore] at hafter
      cases hafter
      exact .kept
  | reportError other => exact htaken _ ⟨hq.1, rfl⟩
  | resetUploaded other => exact htaken _ ⟨hq.1, rfl⟩
  | _ => exact hq.elim

/-- An operation keeps the record of an item, or does an action or takes a report over that is for this item. -/
theorem Consistent.revised (h : r.Consistent) (op : Operation) (hbefore : r.items.item? id = some before)
    (hafter : (r.perform op).items.item? id = some after) : Revised r op id before after := by
  have hkept : (r.perform op).items.item? id = some before → Revised r op id before after := by
    intro hsame
    rw [hsame] at hafter
    cases hafter
    exact .kept
  cases op with
  | load backend s => exact hkept (h.item?_load backend s hbefore)
  | flush now backend s =>
    refine hkept ?_
    rw [perform, (r.kept_flush now backend s).1, hbefore]
  | request q =>
    by_cases hasks : ∃ now action, q.Asks now action id
    · obtain ⟨now, action, hq⟩ := hasks
      rw [perform, item?_serve_of_asks hq] at hafter
      exact revised_applyOne ⟨q, rfl, hq⟩ hbefore hafter
    by_cases hreports : ∃ first second, q.Reports id first second
    · exact revised_serve_of_reports hbefore hafter hreports
    by_cases hadd : ∃ item, q = .addItem item ∧ item.id = id
    · -- the id is taken, so nothing is added
      obtain ⟨item, rfl, rfl⟩ := hadd
      refine hkept ?_
      rw [perform, serve, addItem, Store.insert_of_some (Store.slot?_of_item? hbefore)]
      exact hbefore
    refine hkept ((item?_serve r (fun item hq hid => hadd ⟨item, hq, hid⟩)
      (fun first second hq => hreports ⟨first, second, hq⟩) fun now action hq => hasks ⟨now, action, hq⟩).trans hbefore)

end

/-! ## Runs -/

/-- What each operation keeps of the record of an item holds as long as the item is stored. -/
theorem Consistent.item_induction {P : Item → Prop} {id : ItemId} (ops : List Operation) {r : Registry}
    {before after : Item} (h : r.Consistent)
    (hstep : ∀ (s : Registry) (op : Operation) (first second : Item), s.Consistent → op ∈ ops →
      s.items.item? id = some first → (s.perform op).items.item? id = some second → P first → P second)
    (hbefore : r.items.item? id = some before) (hstays : ∀ k, (r.run (ops.take k)).items.item? id ≠ none)
    (hafter : (r.run ops).items.item? id = some after) (hP : P before) : P after := by
  induction ops generalizing r before with
  | nil =>
    have hsame : r.items.item? id = some after := hafter
    rw [hbefore] at hsame
    cases hsame
    exact hP
  | cons op ops ih =>
    obtain ⟨next, hnext⟩ : ∃ next, (r.perform op).items.item? id = some next :=
      Option.ne_none_iff_exists'.1 (hstays 1)
    have hkept := hstep r op before next h List.mem_cons_self hbefore hnext hP
    refine ih (consistent_perform op h) ?_ hnext (fun k => hstays (k + 1)) hafter hkept
    exact fun s other first second hs ho => hstep s other first second hs (List.mem_cons_of_mem _ ho)

end Registry

end TransferRegistry
