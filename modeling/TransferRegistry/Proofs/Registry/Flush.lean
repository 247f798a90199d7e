import TransferRegistry.Proofs.Pending
import TransferRegistry.Registry.Flush

/-!
# How a flush ends

`Registry.flush_cases` has the four ways: a write failed and both queues are as before, the seeds could not be stored
and the queues are empty, or all is stored, with the seeds or without. Items, hidden ids and configuration are never
changed by a flush (`Registry.kept_flush`). The marker of the seeds is taken, and put back where they could not be stored
(`Registry.flushSeeds_eq`).
-/

namespace TransferRegistry.Registry

variable {σ : Type}

/-- The writes of a flush: what is pending, as the registry is now. -/
def writes (r : Registry) : List Write := (r.collectChanges r.itemUpdates r.hiddenUpdates).writes

/-- Drained queues that are put back at once are what they were, and are counted. -/
theorem requeued_drained (r : Registry) :
    r.drained.requeued r.itemUpdates r.hiddenUpdates =
      { r with
        stats := (r.stats.set .itemsUpdates (tallied r.itemUpdates.size)).set .hiddenUpdates
          (tallied r.hiddenUpdates.size) } := by
  simp only [requeued, drained, Pending.restore_empty]
  rfl

/-- The marker of the seeds is taken, and put back where they could not be stored. -/
theorem flushSeeds_eq (r : Registry) (backend : Backend σ) (s : σ) :
    r.flushSeeds backend s =
      match r.seeds.takeDirty with
      | (false, keeper) => ⟨({ r with seeds := keeper }, s), .ok (), []⟩
      | (true, keeper) =>
        let saved := backend.saveSeeds keeper.config s
        match saved.answer with
        | .error e => ⟨({ r with seeds := keeper.markDirty }, saved.state), .error e, saved.log ++ [.seedsFailed e]⟩
        | .ok _ => ⟨({ r with seeds := keeper }, saved.state), .ok (), saved.log ++ [.seedsSynced]⟩ := by
  obtain ⟨config, items, hidden, ⟨seeds, dirty⟩, stats, itemUpdates, hiddenUpdates⟩ := r
  cases dirty with
  | false => rfl
  | true =>
    simp only [flushSeeds, SeedKeeper.takeDirty, if_true]
    cases (backend.saveSeeds seeds s).answer <;> rfl

theorem flush_cases (r : Registry) (now : Int64) (backend : Backend σ) (s : σ) :
    (∃ e stats, (runWrites backend r.writes s).answer = .error e ∧ (r.flush now backend s).answer = .error e ∧
      (r.flush now backend s).state = ({ r with stats }, (runWrites backend r.writes s).state)) ∨
    (∃ e, (runWrites backend r.writes s).answer = .ok () ∧ r.seeds.dirty = true ∧
      (backend.saveSeeds r.seeds.config (runWrites backend r.writes s).state).answer = .error e ∧
      (r.flush now backend s).answer = .error e ∧ (r.flush now backend s).state =
        (r.drained, (backend.saveSeeds r.seeds.config (runWrites backend r.writes s).state).state)) ∨
    (∃ stats, (runWrites backend r.writes s).answer = .ok () ∧ r.seeds.dirty = true ∧
      (backend.saveSeeds r.seeds.config (runWrites backend r.writes s).state).answer = .ok () ∧
      (r.flush now backend s).answer = .ok () ∧ (r.flush now backend s).state =
        ({ r.drained with seeds := { r.seeds with dirty := false }, stats },
          (backend.saveSeeds r.seeds.config (runWrites backend r.writes s).state).state)) ∨
    (∃ stats, (runWrites backend r.writes s).answer = .ok () ∧ r.seeds.dirty = false ∧
      (r.flush now backend s).answer = .ok () ∧
      (r.flush now backend s).state = ({ r.drained with stats }, (runWrites backend r.writes s).state)) := by
  have hwrites : (r.collectChanges r.itemUpdates r.hiddenUpdates).writes = r.writes := rfl
  simp only [flush, hwrites]
  cases hwritten : (runWrites backend r.writes s).answer with
  | error e =>
    exact Or.inl ⟨e, _, rfl, rfl, by rw [r.requeued_drained]⟩
  | ok _ =>
    have hdirty : r.drained.seeds = r.seeds := rfl
    simp only [flushSeeds, hdirty]
    cases hseeds : r.seeds.dirty with
    | false => exact Or.inr (Or.inr (Or.inr ⟨_, trivial, rfl, rfl, rfl⟩))
    | true =>
      simp only [if_true]
      cases hsaved : (backend.saveSeeds r.seeds.config (runWrites backend r.writes s).state).answer with
      | error e => exact Or.inr (Or.inl ⟨e, trivial, trivial, rfl, rfl, rfl⟩)
      | ok _ => exact Or.inr (Or.inr (Or.inl ⟨_, trivial, trivial, rfl, rfl, rfl⟩))

theorem kept_flush (r : Registry) (now : Int64) (backend : Backend σ) (s : σ) :
    (r.flush now backend s).state.1.items = r.items ∧ (r.flush now backend s).state.1.hidden = r.hidden ∧
      (r.flush now backend s).state.1.config = r.config := by
  rcases r.flush_cases now backend s with ⟨e, stats, -, -, h⟩ | ⟨e, -, -, -, -, h⟩ | ⟨stats, -, -, -, -, h⟩ |
    ⟨stats, -, -, -, h⟩ <;> rw [h] <;> exact ⟨rfl, rfl, rfl⟩

/-- After a flush that answers that all is stored, nothing is queued. -/
theorem flush_ok {r : Registry} {now : Int64} {backend : Backend σ} {s : σ}
    (h : (r.flush now backend s).answer = .ok ()) :
    (r.flush now backend s).state.1.itemUpdates = ∅ ∧ (r.flush now backend s).state.1.hiddenUpdates = ∅ ∧
      (r.flush now backend s).state.1.seeds = { r.seeds with dirty := false } := by
  rcases r.flush_cases now backend s with ⟨e, stats, -, he, -⟩ | ⟨e, -, -, -, he, -⟩ | ⟨stats, -, -, -, -, hstate⟩ |
    ⟨stats, -, hdirty, -, hstate⟩
  · rw [h] at he
    cases he
  · rw [h] at he
    cases he
  · rw [hstate]
    exact ⟨rfl, rfl, rfl⟩
  · rw [hstate, ← hdirty]
    exact ⟨rfl, rfl, rfl⟩

end TransferRegistry.Registry
