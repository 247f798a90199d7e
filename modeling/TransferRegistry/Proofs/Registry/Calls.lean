import TransferRegistry.Proofs.Registry.Flush

/-!
# The calls of a flush

* `Backend.noting`: a backend that does what another does, and notes each call to save and how it ended.
* `Backend.saveAll`: calls to save, one after the other up to the first that fails.
* `Registry.savings`: what a flush has to save. `Registry.flush_noting`: it makes the calls for that, and is the same
  where they are noted; `Registry.flush_saveAll`: it ends as they do.
* `Registry.attempts`: the calls of a flush, with what went wrong in them.
-/

namespace TransferRegistry

/-- What a backend is asked to save. -/
inductive Saving where
  | items (changes : ItemChanges)
  | hidden (changes : HiddenChanges)
  | seeds (config : SeedConfig)

/-- A call to save something, and what went wrong in it. -/
structure Attempt where
  saving : Saving
  fault : Option StorageError

def Saving.done (saving : Saving) : Attempt := ⟨saving, none⟩

def Saving.failed (saving : Saving) (e : StorageError) : Attempt := ⟨saving, some e⟩

variable {σ α : Type}

def faultOf : Except StorageError α → Option StorageError
  | .error e => some e
  | .ok _ => none

/-- The fault of the first call that fails. -/
def firstFault (attempts : List Attempt) : Option StorageError := attempts.findSome? (·.fault)

theorem firstFault_done (savings : List Saving) : firstFault (savings.map Saving.done) = none := by
  rw [firstFault, List.findSome?_eq_none_iff, List.forall_mem_map]
  exact fun _ _ => rfl

theorem firstFault_failed (savings : List Saving) (saving : Saving) (e : StorageError) :
    firstFault (savings.map Saving.done ++ [saving.failed e]) = some e := by
  have hdone := firstFault_done savings
  rw [firstFault] at hdone ⊢
  rw [List.findSome?_append, hdone]
  rfl

/-! ## Noting calls -/

/-- Does a call and notes it. -/
def Call.noted (call : Call σ α) (saving : Saving) : Call (σ × List Attempt) α := fun s =>
  let step := call s.1
  ⟨(step.state, s.2 ++ [⟨saving, faultOf step.answer⟩]), step.answer, step.log⟩

/-- Does a call of which nothing is noted. -/
def Call.plain (call : Call σ α) : Call (σ × List Attempt) α := fun s =>
  let step := call s.1
  ⟨(step.state, s.2), step.answer, step.log⟩

namespace Backend

def noting (backend : Backend σ) : Backend (σ × List Attempt) where
  loadItems := Call.plain backend.loadItems
  loadHidden := Call.plain backend.loadHidden
  loadSeeds := Call.plain backend.loadSeeds
  saveItems changes := Call.noted (backend.saveItems changes) (.items changes)
  saveHidden changes := Call.noted (backend.saveHidden changes) (.hidden changes)
  saveSeeds config := Call.noted (backend.saveSeeds config) (.seeds config)

/-! ## Calls in a row -/

/-- A call to save: what went wrong in it, and what the backend is like then. -/
def save (backend : Backend σ) : Saving → σ → Option StorageError × σ
  | .items changes, s => (faultOf (backend.saveItems changes s).answer, (backend.saveItems changes s).state)
  | .hidden changes, s => (faultOf (backend.saveHidden changes s).answer, (backend.saveHidden changes s).state)
  | .seeds config, s => (faultOf (backend.saveSeeds config s).answer, (backend.saveSeeds config s).state)

/-- Calls to save, one after the other up to the first that fails, and what the backend is like then. -/
def saveAll (backend : Backend σ) : List Saving → σ → List Attempt × σ
  | [], s => ([], s)
  | saving :: savings, s =>
    match backend.save saving s with
    | (some e, s) => ([saving.failed e], s)
    | (none, s) => (saving.done :: (saveAll backend savings s).1, (saveAll backend savings s).2)

variable {backend : Backend σ} {saving : Saving} {s s' : σ} {e : StorageError}

theorem saveAll_cons_failed (h : backend.save saving s = (some e, s')) (savings : List Saving) :
    backend.saveAll (saving :: savings) s = ([saving.failed e], s') := by
  rw [saveAll, h]

theorem saveAll_cons_done (h : backend.save saving s = (none, s')) (savings : List Saving) :
    backend.saveAll (saving :: savings) s =
      (saving.done :: (backend.saveAll savings s').1, (backend.saveAll savings s').2) := by
  rw [saveAll, h]

/-- What comes after calls of which one failed is not tried. -/
theorem saveAll_append (first second : List Saving) (s : σ) :
    backend.saveAll (first ++ second) s =
      match firstFault (backend.saveAll first s).1 with
      | some _ => backend.saveAll first s
      | none => ((backend.saveAll first s).1 ++ (backend.saveAll second (backend.saveAll first s).2).1,
          (backend.saveAll second (backend.saveAll first s).2).2) := by
  induction first generalizing s with
  | nil => rfl
  | cons saving first ih =>
    rw [List.cons_append]
    rcases hsave : backend.save saving s with ⟨_ | e, s'⟩
    · rw [saveAll_cons_done hsave, saveAll_cons_done hsave, ih]
      have hfault : firstFault (saving.done :: (backend.saveAll first s').1) =
        firstFault (backend.saveAll first s').1 := rfl
      simp only [hfault]
      cases firstFault (backend.saveAll first s').1 <;> rfl
    · rw [saveAll_cons_failed hsave, saveAll_cons_failed hsave]
      rfl

end Backend

/-! ## The calls of writes -/

/-- What a write has the backend save. -/
def Write.saving : Write → Saving
  | .upserts changes => .items changes
  | .hiddenRecords changes => .hidden changes
  | .removals changes => .items changes

variable {backend : Backend σ}

theorem Write.save_eq (w : Write) (backend : Backend σ) (s : σ) :
    backend.save w.saving s = (faultOf (w.run backend s).answer, (w.run backend s).state) := by
  cases w <;> rfl

theorem Write.run_noting (w : Write) (s : σ) (log : List Attempt) :
    w.run backend.noting (s, log) = ⟨((w.run backend s).state, log ++ [⟨w.saving, faultOf (w.run backend s).answer⟩]),
      (w.run backend s).answer, (w.run backend s).log⟩ := by
  cases w <;> rfl

theorem runWrites_noting (writes : List Write) (s : σ) (log : List Attempt) :
    runWrites backend.noting writes (s, log) =
      ⟨((runWrites backend writes s).state, log ++ (backend.saveAll (writes.map Write.saving) s).1),
        (runWrites backend writes s).answer, (runWrites backend writes s).log⟩ := by
  induction writes generalizing s log with
  | nil => rw [List.map_nil, Backend.saveAll, List.append_nil]; rfl
  | cons w writes ih =>
    have hsave := w.save_eq backend s
    rw [List.map_cons]
    simp only [runWrites, w.run_noting]
    cases hanswer : (w.run backend s).answer with
    | error e =>
      rw [hanswer] at hsave
      rw [Backend.saveAll_cons_failed hsave]
      rfl
    | ok count =>
      rw [hanswer] at hsave
      rw [Backend.saveAll_cons_done hsave]
      simp only [ih, Step.after, List.append_assoc]
      rfl

variable {writes : List Write} {s : σ} {e : StorageError}

/-- Writes that are all done are calls that are all done. -/
theorem saveAll_of_done (h : (runWrites backend writes s).answer = .ok ()) :
    backend.saveAll (writes.map Write.saving) s =
      ((writes.map Write.saving).map Saving.done, (runWrites backend writes s).state) := by
  induction writes generalizing s with
  | nil => rfl
  | cons w writes ih =>
    have hsave := w.save_eq backend s
    cases hanswer : (w.run backend s).answer with
    | error e =>
      simp only [runWrites, hanswer] at h
      cases h
    | ok count =>
      rw [hanswer] at hsave
      simp only [runWrites, hanswer] at h ⊢
      rw [List.map_cons, Backend.saveAll_cons_done hsave, ih h]
      rfl

/-- Writes that fail are calls of which the last failed. -/
theorem saveAll_of_failed (h : (runWrites backend writes s).answer = .error e) :
    ∃ done w, done ++ [w] <+: writes ∧ backend.saveAll (writes.map Write.saving) s =
      ((done.map Write.saving).map Saving.done ++ [w.saving.failed e], (runWrites backend writes s).state) := by
  induction writes generalizing s with
  | nil => cases h
  | cons w writes ih =>
    have hsave := w.save_eq backend s
    cases hanswer : (w.run backend s).answer with
    | error cause =>
      rw [hanswer] at hsave
      simp only [runWrites, hanswer] at h ⊢
      obtain rfl := Except.error.inj h
      rw [List.map_cons, Backend.saveAll_cons_failed hsave]
      exact ⟨[], w, List.cons_prefix_cons.2 ⟨rfl, List.nil_prefix⟩, rfl⟩
    | ok count =>
      rw [hanswer] at hsave
      simp only [runWrites, hanswer] at h ⊢
      obtain ⟨done, last, hprefix, hcalls⟩ := ih h
      rw [List.map_cons, Backend.saveAll_cons_done hsave, hcalls]
      exact ⟨w :: done, last, List.cons_prefix_cons.2 ⟨rfl, hprefix⟩, rfl⟩

namespace Registry

/-! ## The calls of a flush -/

/-- What a flush has to save, in its order: what is collected for what is queued, and the seeds if they changed. -/
def savings (r : Registry) : List Saving :=
  let changes := r.collectChanges r.itemUpdates r.hiddenUpdates
  (if changes.upserts.isEmpty then [] else [.items changes.upserts])
    ++ (if changes.hiddenRecords.isEmpty then [] else [.hidden changes.hiddenRecords])
    ++ (if changes.removals.isEmpty then [] else [.items changes.removals])
    ++ (if r.seeds.dirty then [.seeds r.seeds.config] else [])

theorem savings_eq (r : Registry) :
    r.savings = r.writes.map Write.saving ++ if r.seeds.dirty then [.seeds r.seeds.config] else [] := by
  unfold savings writes ChangeSet.writes
  simp only [List.map_append]
  congr 3 <;> split <;> rfl

/-- The calls of a flush are its writes, and that for the seeds where no write failed. -/
theorem saveAll_savings (r : Registry) (backend : Backend σ) (s : σ) :
    backend.saveAll r.savings s =
      match (runWrites backend r.writes s).answer with
      | .error _ => backend.saveAll (r.writes.map Write.saving) s
      | .ok _ =>
        let seeds := backend.saveAll (if r.seeds.dirty then [.seeds r.seeds.config] else [])
          (runWrites backend r.writes s).state
        ((backend.saveAll (r.writes.map Write.saving) s).1 ++ seeds.1, seeds.2) := by
  rw [savings_eq, Backend.saveAll_append]
  cases hanswer : (runWrites backend r.writes s).answer with
  | error e =>
    obtain ⟨done, w, -, hcalls⟩ := saveAll_of_failed hanswer
    rw [hcalls, firstFault_failed]
  | ok _ => rw [saveAll_of_done hanswer, firstFault_done]

/-- A flush makes the calls for what it has to save, and is the same where they are noted. -/
theorem flush_noting (r : Registry) (now : Int64) (backend : Backend σ) (s : σ) (log : List Attempt) :
    r.flush now backend.noting (s, log) =
      ⟨((r.flush now backend s).state.1, (r.flush now backend s).state.2, log ++ (backend.saveAll r.savings s).1),
        (r.flush now backend s).answer, (r.flush now backend s).log⟩ := by
  have hwrites : (r.collectChanges r.itemUpdates r.hiddenUpdates).writes = r.writes := rfl
  rw [saveAll_savings]
  simp only [flush, hwrites, runWrites_noting]
  cases (runWrites backend r.writes s).answer with
  | error e => rfl
  | ok _ =>
    have hdirty : r.drained.seeds = r.seeds := rfl
    simp only [flushSeeds, hdirty]
    cases r.seeds.dirty with
    | false => simp only [Backend.saveAll, Bool.false_eq_true, if_false, List.append_nil]
    | true =>
      simp only [if_true, Backend.noting, Call.noted, Backend.saveAll, Backend.save]
      cases (backend.saveSeeds r.seeds.config (runWrites backend r.writes s).state).answer <;>
        simp only [faultOf, List.append_assoc] <;> rfl

/-- How a flush ends, by its calls: a write failed, only the seeds could not be saved, or no call failed. -/
theorem flush_saveAll (r : Registry) (now : Int64) (backend : Backend σ) (s : σ) :
    (∃ done w e, done ++ [w] <+: r.writes ∧ (runWrites backend r.writes s).answer = .error e ∧
      (r.flush now backend s).answer = .error e ∧ backend.saveAll r.savings s =
        ((done.map Write.saving).map Saving.done ++ [w.saving.failed e], (r.flush now backend s).state.2)) ∨
    (∃ e, r.seeds.dirty = true ∧ (r.flush now backend s).answer = .error e ∧
      (r.flush now backend s).state.1 = r.drained ∧ backend.saveAll r.savings s =
        ((r.writes.map Write.saving).map Saving.done ++ [(Saving.seeds r.seeds.config).failed e],
          (r.flush now backend s).state.2)) ∨
    (r.flush now backend s).answer = .ok () ∧
      backend.saveAll r.savings s = (r.savings.map Saving.done, (r.flush now backend s).state.2) := by
  rw [saveAll_savings, savings_eq]
  rcases r.flush_cases now backend s with ⟨e, stats, hwritten, hanswer, hstate⟩ |
    ⟨e, hwritten, hdirty, hsaved, hanswer, hstate⟩ | ⟨stats, hwritten, hdirty, hsaved, hanswer, hstate⟩ |
    ⟨stats, hwritten, hclean, hanswer, hstate⟩
  · obtain ⟨done, w, hprefix, hcalls⟩ := saveAll_of_failed hwritten
    rw [hwritten, hcalls, hstate]
    exact Or.inl ⟨done, w, e, hprefix, rfl, hanswer, rfl⟩
  all_goals
    have hcalls := saveAll_of_done hwritten
    rw [hwritten, hcalls, hstate]
  · simp only [hdirty, if_true, Backend.saveAll, Backend.save, hsaved, faultOf]
    exact Or.inr (Or.inl ⟨e, trivial, hanswer, trivial, rfl⟩)
  · simp only [hdirty, if_true, Backend.saveAll, Backend.save, hsaved, faultOf, List.map_append]
    exact Or.inr (Or.inr ⟨hanswer, rfl⟩)
  · simp only [hclean, Bool.false_eq_true, if_false, Backend.saveAll, List.append_nil]
    exact Or.inr (Or.inr ⟨hanswer, trivial⟩)

/-- The calls that a flush makes, as they are noted. -/
def attempts (r : Registry) (now : Int64) (backend : Backend σ) (s : σ) : List Attempt :=
  (r.flush now backend.noting (s, [])).state.2.2

theorem attempts_eq (r : Registry) (now : Int64) (backend : Backend σ) (s : σ) :
    r.attempts now backend s = (backend.saveAll r.savings s).1 := by
  rw [attempts, flush_noting]
  rfl

/-- The calls are those for what a flush has to save, and the backend is as they leave it. -/
theorem saveAll_eq (r : Registry) (now : Int64) (backend : Backend σ) (s : σ) :
    backend.saveAll r.savings s = (r.attempts now backend s, (r.flush now backend s).state.2) := by
  rw [attempts_eq]
  rcases r.flush_saveAll now backend s with ⟨_, _, _, -, -, -, hcalls⟩ | ⟨_, -, -, -, hcalls⟩ | ⟨-, hcalls⟩ <;>
    rw [hcalls]

/-- A flush fails with the fault of the call that fails. -/
theorem faultOf_flush (r : Registry) (now : Int64) (backend : Backend σ) (s : σ) :
    faultOf (r.flush now backend s).answer = firstFault (r.attempts now backend s) := by
  rw [attempts_eq]
  rcases r.flush_saveAll now backend s with ⟨_, _, e, -, -, hanswer, hcalls⟩ | ⟨e, -, hanswer, -, hcalls⟩ |
    ⟨hanswer, hcalls⟩
  · rw [hanswer, hcalls, firstFault_failed, faultOf]
  · rw [hanswer, hcalls, firstFault_failed, faultOf]
  · rw [hanswer, hcalls, firstFault_done, faultOf]

end Registry

end TransferRegistry
