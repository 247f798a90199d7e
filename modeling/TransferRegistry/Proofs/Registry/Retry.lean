import TransferRegistry.Proofs.Registry.Calls
import TransferRegistry.Proofs.Registry.Session
import TransferRegistry.Proofs.Registry.Statistics

/-!
# Flushes that fail

* `Registry.flush_of_writes_error`: a flush in which a write fails leaves the registry as it was, queues and counters
  too.
* `Registry.flush_of_failed`: which call failed, and what a flush leaves then.
* `Registry.stored`: what is stored after a run, by the calls that did not fail. `accounts_run`: all else is pending.
* `Registry.keepsPending_run`: nothing that is pending is lost in a flush that fails, so one that succeeds leaves all
  stored.
-/

namespace TransferRegistry.Registry

variable {σ : Type} {backend : Backend σ} {s : σ} {e : StorageError} {r : Registry}

/-! ## What is left of a flush -/

/-- Queues that are drained and put back at once are counted as they were. -/
theorem QueuesCounted.requeued_drained (h : r.QueuesCounted) :
    r.drained.requeued r.itemUpdates r.hiddenUpdates = r := by
  have hstats : (r.stats.set .itemsUpdates (tallied r.itemUpdates.size)).set .hiddenUpdates
      (tallied r.hiddenUpdates.size) = r.stats := by
    simp only [Stats.set, ← h.itemUpdates, ← h.hiddenUpdates]
  rw [r.requeued_drained, hstats]

theorem flush_of_writes_error (hr : r.QueuesCounted) (h : (runWrites backend r.writes s).answer = .error e)
    (now : Int64) : (r.flush now backend s).answer = .error e ∧ (r.flush now backend s).state.1 = r := by
  have hwrites : (r.collectChanges r.itemUpdates r.hiddenUpdates).writes = r.writes := rfl
  simp only [flush, hwrites, h]
  exact ⟨trivial, hr.requeued_drained⟩

/-! ## What is stored -/

/-- What is kept of every id, and the seeds. -/
@[ext]
structure Kept where
  copies : ItemId → Copies
  seeds : SeedConfig

/-- What the registry keeps. -/
def kept (r : Registry) : Kept := ⟨r.copies, r.seeds.config⟩

/-- What is kept once something is saved. -/
def Kept.save (k : Kept) : Saving → Kept
  | .items changes => { k with copies := fun id => (Write.upserts changes).effect id (k.copies id) }
  | .hidden changes => { k with copies := fun id => (Write.hiddenRecords changes).effect id (k.copies id) }
  | .seeds config => { k with seeds := config }

/-- What is kept after a call; one that fails saves nothing. -/
def Kept.take (k : Kept) (attempt : Attempt) : Kept :=
  match attempt.fault with
  | none => k.save attempt.saving
  | some _ => k

theorem foldl_take (writes : List Write) (k : Kept) :
    ((writes.map Write.saving).map Saving.done).foldl Kept.take k =
      { k with copies := fun id => effects writes id (k.copies id) } := by
  induction writes generalizing k with
  | nil => rfl
  | cons w writes ih =>
    rw [List.map_cons, List.map_cons, List.foldl_cons, ih]
    cases w <;> rfl

/-- What is stored after an operation, where `k` was stored before it. A flush stores what its calls do that do not
fail, whether or not it fails itself; and what loading adds was stored. -/
def Kept.after (k : Kept) (r : Registry) : Operation → Kept
  | .request _ => k
  | .load backend s =>
    let loaded := (r.load backend s).state.1
    { copies := fun id => if r.items.item? id = none then loaded.copies id else k.copies id
      seeds := if loaded.seeds = r.seeds then k.seeds else loaded.seeds.config }
  | .flush now backend s => (r.attempts now backend s).foldl Kept.take k

/-- What is stored after a run. -/
def stored (r : Registry) (k : Kept) : List Operation → Kept
  | [] => k
  | op :: ops => stored (r.perform op) (k.after r op) ops

/-- What is not stored is pending. -/
structure Accounts (r : Registry) (k : Kept) : Prop where
  tracks (id : ItemId) : r.Tracks id (k.copies id)
  seeds : r.seeds.config = k.seeds ∨ r.seeds.dirty = true

theorem accounts_kept (r : Registry) : r.Accounts r.kept := ⟨tracks_copies r, Or.inl rfl⟩

/-- What a flush did store is accounted for, however it ends. -/
theorem accounts_flush {k : Kept} (hr : r.Consistent) (hcounted : r.QueuesCounted) (h : r.Accounts k) (now : Int64)
    (backend : Backend σ) (s : σ) :
    (r.flush now backend s).state.1.Accounts ((r.attempts now backend s).foldl Kept.take k) := by
  rw [attempts_eq]
  rcases r.flush_saveAll now backend s with ⟨done, w, e, hprefix, hwritten, -, hcalls⟩ |
    ⟨e, hdirty, -, hstate, hcalls⟩ | ⟨hok, hcalls⟩
  · rw [hcalls, List.foldl_append, foldl_take, (flush_of_writes_error hcounted hwritten now).2]
    exact ⟨fun id => (h.tracks id).prefix_writes hr ((List.prefix_append done [w]).trans hprefix), h.seeds⟩
  · rw [hcalls, List.foldl_append, foldl_take, hstate]
    refine ⟨fun id => ?_, Or.inr hdirty⟩
    show r.drained.Tracks id (effects r.writes id (k.copies id))
    rw [(h.tracks id).effects_writes hr]
    exact tracks_copies r.drained id
  · obtain ⟨hitems, hhidden, -⟩ := r.kept_flush now backend s
    obtain ⟨-, -, hseeds⟩ := flush_ok hok
    have hcopies : ∀ id, effects r.writes id (k.copies id) = (r.flush now backend s).state.1.copies id := fun id => by
      rw [(h.tracks id).effects_writes hr, copies, copies, hitems, hhidden]
    rw [hcalls, savings_eq, List.map_append, List.foldl_append, foldl_take, funext hcopies]
    cases hdirty : r.seeds.dirty with
    | true => exact ⟨tracks_copies _, Or.inl (by rw [hseeds]; rfl)⟩
    | false => exact ⟨tracks_copies _, Or.inl (by rw [hseeds]; exact h.seeds.resolve_right (by simp [hdirty]))⟩

theorem tracks_loadItems {id : ItemId} {item : Item} {c : Copies} (hr : r.Consistent)
    (hitem : r.items.item? id = some item) (h : r.Tracks id c) (items : List Item) :
    (r.loadItems items).state.Tracks id c := by
  have hafter := item?_loadItems hr.items_sound hitem items
  obtain ⟨store, hstate, -, -⟩ := insertLoaded_spec items r hr.items_sound
  rw [loadItems_state, hstate] at hafter ⊢
  have hcopies : ({ r with items := store } : Registry).copies id = r.copies id :=
    copies_congr (hafter.trans hitem.symm) rfl
  refine ⟨fun hp => (h.settled hp).trans hcopies.symm, fun hrecord hnone => h.unsealed hrecord (hcopies ▸ hnone), ?_⟩
  intro _ hnone
  rw [hafter] at hnone
  cases hnone

theorem tracks_loadHidden {id : ItemId} {item : Item} {c : Copies} (hr : r.Consistent)
    (hitem : r.items.item? id = some item) (h : r.Tracks id c) (records : List HiddenRecord) :
    (r.loadHidden records).state.Tracks id c := by
  have hafter := item?_loadHidden hr.items_sound hitem records
  have hthere : r.items.item? id ≠ none := by rw [hitem]; exact nofun
  obtain ⟨hitemUpdates, hhiddenUpdates⟩ := pends_loadHidden hr.items_sound records id
  refine ⟨fun hp => ?_, fun hrecord hnone => hhiddenUpdates (h.unsealed hrecord ?_), fun _ hnone => ?_⟩
  · have htimes := (loadHidden_times hr.items_sound hthere records).resolve_left (mt Or.inl hp)
    rw [h.settled (mt (Or.imp hitemUpdates hhiddenUpdates) hp)]
    refine (copies_congr (hafter.trans hitem.symm) ?_).symm
    rw [HiddenSet.entry?, HiddenSet.entry?, htimes]
  · rw [record_eq_none, hafter, or_iff_right nofun] at hnone
    rw [record_eq_none, or_iff_right hthere, ← Bool.not_eq_true]
    intro hid
    rw [contains_loadHidden hr.items_sound hid] at hnone
    cases hnone
  · rw [hafter] at hnone
    cases hnone

theorem tracks_load {id : ItemId} {item : Item} {c : Copies} (hr : r.Consistent) (hitem : r.items.item? id = some item)
    (h : r.Tracks id c) (backend : Backend σ) (s : σ) : (r.load backend s).state.1.Tracks id c := by
  refine (load_induction (P := fun r => r.Consistent ∧ r.items.item? id = some item ∧ r.Tracks id c)
    (fun r items ⟨hr, hitem, h⟩ => ?_) (fun r records ⟨hr, hitem, h⟩ => ?_) (fun r seeds ⟨hr, hitem, h⟩ => ?_)
    r backend s ⟨hr, hitem, h⟩).2.2
  · exact ⟨consistent_loadItems hr items, item?_loadItems hr.items_sound hitem items, tracks_loadItems hr hitem h items⟩
  · exact ⟨consistent_loadHidden hr records, item?_loadHidden hr.items_sound hitem records,
      tracks_loadHidden hr hitem h records⟩
  · refine ⟨consistent_loadSeeds hr seeds, ?_⟩
    cases seeds <;> exact ⟨hitem, h.settled, h.unsealed, h.removed⟩

theorem seeds_load {seeds : SeedConfig} (h : r.seeds.config = seeds ∨ r.seeds.dirty = true) (backend : Backend σ)
    (s : σ) : (r.load backend s).state.1.seeds.config =
      (if (r.load backend s).state.1.seeds = r.seeds then seeds else (r.load backend s).state.1.seeds.config) ∨
      (r.load backend s).state.1.seeds.dirty = true := by
  split
  · rename_i heq
    rwa [heq]
  · exact Or.inl rfl

theorem accounts_perform {k : Kept} (hr : r.Consistent) (hcounted : r.QueuesCounted) (h : r.Accounts k)
    (op : Operation) : (r.perform op).Accounts (k.after r op) := by
  cases op with
  | request q =>
    have hadvances := serve_advances r q
    refine ⟨fun id => (h.tracks id).advance hadvances, ?_⟩
    rcases hadvances.seeds with heq | hdirty
    · show (r.serve q).seeds.config = k.seeds ∨ (r.serve q).seeds.dirty = true
      rw [heq]
      exact h.seeds
    · exact Or.inr hdirty
  | load backend s =>
    refine ⟨fun id => ?_, seeds_load h.seeds backend s⟩
    show (r.load backend s).state.1.Tracks id (if _ then _ else _)
    split
    · exact tracks_copies _ id
    · obtain ⟨item, hitem⟩ := Option.ne_none_iff_exists'.1 ‹¬r.items.item? id = none›
      exact tracks_load hr hitem (h.tracks id) backend s
  | flush now backend s => exact accounts_flush hr hcounted h now backend s

theorem accounts_run {k : Kept} (hr : r.Consistent) (hcounted : r.QueuesCounted) (h : r.Accounts k)
    (ops : List Operation) : (r.run ops).Accounts (r.stored k ops) := by
  induction ops generalizing r k with
  | nil => exact h
  | cons op ops ih =>
    exact ih (consistent_perform op hr) (queuesCounted_run [op] hcounted) (accounts_perform hr hcounted h op)

theorem Accounts.eq_kept {k : Kept} (h : r.Accounts k) (hp : ∀ id, ¬r.Pends id) (hclean : r.seeds.dirty = false) :
    k = r.kept := by
  refine Kept.ext (funext fun id => (h.tracks id).settled (hp id)) (h.seeds.resolve_right ?_).symm
  rw [hclean]
  exact nofun

/-- Nothing that is pending is lost in a flush that fails. -/
structure KeepsPending (r : Registry) : Prop where
  /-- A flush is the same where its calls are noted. -/
  noted {σ : Type} (now : Int64) (backend : Backend σ) (s : σ) :
    (r.flush now backend.noting (s, [])).answer = (r.flush now backend s).answer ∧
      (r.flush now backend.noting (s, [])).state =
        ((r.flush now backend s).state.1, (r.flush now backend s).state.2, r.attempts now backend s)
  /-- It makes the calls for what is collected and for changed seeds, up to the first that fails, and the backend is as
  they leave it. -/
  calls {σ : Type} (now : Int64) (backend : Backend σ) (s : σ) :
    backend.saveAll r.savings s = (r.attempts now backend s, (r.flush now backend s).state.2)
  /-- It fails where a call fails, and with that fault. -/
  answer {σ : Type} (now : Int64) (backend : Backend σ) (s : σ) :
    faultOf (r.flush now backend s).answer = firstFault (r.attempts now backend s)
  /-- Visible items cannot be saved: all is as before. -/
  items {σ : Type} {now : Int64} {backend : Backend σ} {s : σ} {changes : ItemChanges} {e : StorageError} :
    (Saving.items changes).failed e ∈ r.attempts now backend s →
      (r.flush now backend s).answer = .error e ∧ (r.flush now backend s).state.1 = r
  /-- Hidden records cannot be saved: all is as before. -/
  hidden {σ : Type} {now : Int64} {backend : Backend σ} {s : σ} {changes : HiddenChanges} {e : StorageError} :
    (Saving.hidden changes).failed e ∈ r.attempts now backend s →
      (r.flush now backend s).answer = .error e ∧ (r.flush now backend s).state.1 = r
  /-- Only the seeds cannot be saved: the queues are empty, and all else is as before. -/
  seeds {σ : Type} {now : Int64} {backend : Backend σ} {s : σ} {config : SeedConfig} {e : StorageError} :
    (Saving.seeds config).failed e ∈ r.attempts now backend s →
      (r.flush now backend s).answer = .error e ∧ r.seeds.dirty = true ∧ (r.flush now backend s).state.1 = { r with
        itemUpdates := ∅
        hiddenUpdates := ∅
        stats := { r.stats with itemsUpdates := 0, hiddenUpdates := 0 } }
  /-- One that succeeds has saved all that there was to save. -/
  saved {σ : Type} {now : Int64} {backend : Backend σ} {s : σ} :
    (r.flush now backend s).answer = .ok () → r.attempts now backend s = r.savings.map Saving.done
  /-- Where what the registry keeps is stored, it is so again after the next flush that succeeds: whatever was done
  meanwhile and however many flushes failed, some call has stored it. -/
  retried {σ : Type} {backend : Backend σ} {s : σ} {later : Int64} (ops : List Operation) :
    ((r.run ops).flush later backend s).answer = .ok () →
      r.stored r.kept (ops ++ [.flush later backend s]) = (r.run (ops ++ [.flush later backend s])).kept

/-- Calls that are done have not failed. -/
theorem not_mem_done {saving : Saving} (savings : List Saving) : saving.failed e ∉ savings.map Saving.done := by
  intro hmem
  obtain ⟨other, -, heq⟩ := List.mem_map.1 hmem
  cases heq

theorem eq_of_mem_failed {saving last : Saving} {cause : StorageError} {savings : List Saving}
    (h : saving.failed e ∈ savings.map Saving.done ++ [last.failed cause]) : saving = last ∧ e = cause := by
  have hlast := List.mem_singleton.1 ((List.mem_append.1 h).resolve_left (not_mem_done savings))
  exact ⟨congrArg Attempt.saving hlast, Option.some.inj (congrArg Attempt.fault hlast)⟩

/-- The call that fails was a write, which leaves all as it was, or the one for the seeds. -/
theorem flush_of_failed (hcounted : r.QueuesCounted) {now : Int64} {saving : Saving}
    (h : saving.failed e ∈ r.attempts now backend s) :
    (r.flush now backend s).answer = .error e ∧
      ((∃ w : Write, saving = w.saving) ∧ (r.flush now backend s).state.1 = r ∨
        saving = .seeds r.seeds.config ∧ r.seeds.dirty = true ∧ (r.flush now backend s).state.1 = r.drained) := by
  rw [attempts_eq] at h
  rcases r.flush_saveAll now backend s with ⟨done, w, cause, -, hwritten, hanswer, hcalls⟩ |
    ⟨cause, hdirty, hanswer, hstate, hcalls⟩ | ⟨-, hcalls⟩
  all_goals rw [hcalls] at h
  · obtain ⟨rfl, rfl⟩ := eq_of_mem_failed h
    exact ⟨hanswer, Or.inl ⟨⟨w, rfl⟩, (flush_of_writes_error hcounted hwritten now).2⟩⟩
  · obtain ⟨rfl, rfl⟩ := eq_of_mem_failed h
    exact ⟨hanswer, Or.inr ⟨rfl, hdirty, hstate⟩⟩
  · exact absurd h (not_mem_done _)

/-- Anything but the seeds cannot be saved: all is as before. -/
theorem unchanged_of_failed (hcounted : r.QueuesCounted) {now : Int64} {saving : Saving}
    (h : saving.failed e ∈ r.attempts now backend s) (hsaving : ∀ config, saving ≠ .seeds config) :
    (r.flush now backend s).answer = .error e ∧ (r.flush now backend s).state.1 = r := by
  obtain ⟨hanswer, ⟨-, hstate⟩ | ⟨heq, -⟩⟩ := flush_of_failed hcounted h
  · exact ⟨hanswer, hstate⟩
  · exact absurd heq (hsaving _)

theorem Consistent.keepsPending (hr : r.Consistent) (hcounted : r.QueuesCounted) : r.KeepsPending where
  noted now backend s := by
    rw [r.flush_noting, List.nil_append, attempts_eq]
    exact ⟨rfl, rfl⟩
  calls now backend s := r.saveAll_eq now backend s
  answer now backend s := r.faultOf_flush now backend s
  items h := unchanged_of_failed hcounted h nofun
  hidden h := unchanged_of_failed hcounted h nofun
  seeds h := by
    obtain ⟨hanswer, ⟨⟨w, heq⟩, -⟩ | ⟨-, hdirty, hstate⟩⟩ := flush_of_failed hcounted h
    · cases w <;> cases heq
    · exact ⟨hanswer, hdirty, hstate⟩
  saved {_ now backend s} hok := by
    rw [attempts_eq]
    rcases r.flush_saveAll now backend s with ⟨-, -, e, -, -, hanswer, -⟩ | ⟨e, -, hanswer, -⟩ | ⟨-, hcalls⟩
    · rw [hok] at hanswer
      cases hanswer
    · rw [hok] at hanswer
      cases hanswer
    · rw [hcalls]
  retried {_ backend s later} ops hok := by
    have hall := accounts_run hr hcounted (accounts_kept r) (ops ++ [.flush later backend s])
    obtain ⟨-, -, hseeds⟩ := flush_ok hok
    have hlast : r.run (ops ++ [.flush later backend s]) = ((r.run ops).flush later backend s).state.1 := by
      rw [run, List.foldl_append]
      rfl
    exact hall.eq_kept (hlast ▸ not_pends_flush hok) (by rw [hlast, hseeds])

/-- **What could not be stored stays pending.** -/
theorem keepsPending_run (config : Configuration) (now : Int64) (ops : List Operation) :
    KeepsPending ((start config now).run ops) :=
  (consistent_run config now ops).keepsPending (queuesCounted_run ops (queuesCounted_start config now))

namespace Sample

/-- A backend without records, which fails in some calls. -/
def recorder (failing : List String) : Recorder := ⟨[], [], none, failing, []⟩

/-- An item is stored and then hidden, and the seeds are set. -/
def untilHidden : List Operation :=
  [Sample.adding, .flush 1 Recorder.backend (recorder []), Sample.concealing 2, .request (.saveSeeds ["seed"])]

/-- What was done is to be stored. -/
def pending : Registry := (start Sample.configuration 0).run untilHidden

def toStore : ChangeSet := pending.collectChanges pending.itemUpdates pending.hiddenUpdates

/-- First the hidden records cannot be saved, and then the seeds. -/
def failures : List Operation :=
  [.flush 3 Recorder.backend (recorder ["save_hidden"]), .flush 4 Recorder.backend (recorder ["save_seeds"])]

theorem savings_pending :
    pending.savings = [.hidden toStore.hiddenRecords, .items toStore.removals, .seeds pending.seeds.config] := by
  have hupserts : toStore.upserts.isEmpty = true := by decide +kernel
  have hrecords : toStore.hiddenRecords.isEmpty = false := by decide +kernel
  have hremovals : toStore.removals.isEmpty = false := by decide +kernel
  have hdirty : pending.seeds.dirty = true := by decide +kernel
  unfold toStore at hupserts hrecords hremovals
  unfold savings
  simp only [hupserts, hrecords, hremovals, hdirty]
  rfl

theorem hidden_fails : (Saving.hidden toStore.hiddenRecords).failed (.sealing "injected save_hidden") ∈
    pending.attempts 3 Recorder.backend (recorder ["save_hidden"]) := by
  rw [attempts_eq, savings_pending]
  exact List.mem_of_getLast? rfl

theorem seeds_fail : (Saving.seeds pending.seeds.config).failed (.sealing "injected save_seeds") ∈
    pending.attempts 4 Recorder.backend (recorder ["save_seeds"]) := by
  rw [attempts_eq, savings_pending]
  exact List.mem_of_getLast? rfl

end Sample

/-- A flush in which the hidden records cannot be saved leaves all as it was, one in which only the seeds cannot be
saved empties the queues; and one that succeeds after both has all stored. -/
theorem keepsPending_run_failures :
    (Saving.hidden Sample.toStore.hiddenRecords).failed (.sealing "injected save_hidden") ∈
      Sample.pending.attempts 3 Recorder.backend (Sample.recorder ["save_hidden"]) ∧
    (Sample.pending.flush 3 Recorder.backend (Sample.recorder ["save_hidden"])).answer =
      .error (.sealing "injected save_hidden") ∧
    (Sample.pending.flush 3 Recorder.backend (Sample.recorder ["save_hidden"])).state.1 = Sample.pending ∧
    (Sample.pending.flush 4 Recorder.backend (Sample.recorder ["save_seeds"])).answer =
      .error (.sealing "injected save_seeds") ∧
    (Sample.pending.flush 4 Recorder.backend (Sample.recorder ["save_seeds"])).state.1 = { Sample.pending with
      itemUpdates := ∅
      hiddenUpdates := ∅
      stats := { Sample.pending.stats with itemsUpdates := 0, hiddenUpdates := 0 } } ∧
    Sample.pending.attempts 5 Recorder.backend (Sample.recorder []) = Sample.pending.savings.map Saving.done ∧
    ((Sample.pending.run Sample.failures).flush 5 Recorder.backend (Sample.recorder [])).answer = .ok () ∧
    Sample.pending.stored Sample.pending.kept (Sample.failures ++ [.flush 5 Recorder.backend (Sample.recorder [])]) =
      (Sample.pending.run (Sample.failures ++ [.flush 5 Recorder.backend (Sample.recorder [])])).kept := by
  have hkeeps : KeepsPending Sample.pending := keepsPending_run Sample.configuration 0 Sample.untilHidden
  have hok : (Sample.pending.flush 5 Recorder.backend (Sample.recorder [])).answer = .ok () := by decide +kernel
  have hretried : ((Sample.pending.run Sample.failures).flush 5 Recorder.backend (Sample.recorder [])).answer = .ok () := by
    decide +kernel
  obtain ⟨hhidden, hsame⟩ := hkeeps.hidden Sample.hidden_fails
  obtain ⟨hseeds, -, hdrained⟩ := hkeeps.seeds Sample.seeds_fail
  exact ⟨Sample.hidden_fails, hhidden, hsame, hseeds, hdrained, hkeeps.saved hok, hretried,
    hkeeps.retried Sample.failures hretried⟩

end TransferRegistry.Registry
