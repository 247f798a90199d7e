import TransferRegistry.Proofs.Registry.Revision

/-!
# The life of an item

* `Registry.Edge`: where an operation takes an item, in state and flag.
* `Consistent.phase_perform`: an operation keeps state and flag of an item, or takes it along an edge;
  `item?_of_edge`: and where there is an edge, it does so.
* `Registry.Orderly`: so it is with every item, and an archived one stays so. `orderly_run`: every registry that a run
  reaches is orderly.
-/

namespace TransferRegistry.Registry

/-- Where an operation takes an item, in state and flag. Only an item that is not hidden is paused, archived or resumed,
and only a report that is answered moves an item. -/
inductive Edge (r : Registry) (op : Operation) (id : ItemId) (item : Item) : ItemState × Bool → Prop where
  | acts {now : Int64} {action : ItemAction} {phase : ItemState × Bool} (hop : op.Asks now action id)
    (hshown : r.hidden.contains id = false) (hedge : action.Edge item phase) : Edge r op id item phase
  | progresses {update : ProgressUpdate} {state : ItemState} (hop : op = .request (.reportProgress id update))
    (hanswer : (r.reportProgress id update).answer = .ok state)
    (hstate : item.state ∈ [.downloading, .seeding, .queued, .stalled]) :
    Edge r op id item (transferState update.remaining (update.peers.getD item.peers), item.archived)
  | fails (hop : op = .request (.reportError id)) : Edge r op id item (.error, item.archived)

theorem active_iff (state : ItemState) :
    state.active = true ↔ state ∈ [ItemState.downloading, .seeding, .queued, .stalled] := by cases state <;> decide

section

variable {r : Registry} {op : Operation} {id : ItemId} {before after : Item} {phase : ItemState × Bool}

/-- A report that is answered was taken over. -/
theorem applyProgress_of_answer {update : ProgressUpdate} {state : ItemState}
    (hitem : r.items.item? id = some before) (hanswer : (r.reportProgress id update).answer = .ok state) :
    ∃ next, before.applyProgress update = .ok next := by
  cases hnext : before.applyProgress update with
  | ok next => exact ⟨next, rfl⟩
  | error e =>
    rw [reportProgress_of_error hitem hnext] at hanswer
    cases hanswer

theorem Consistent.phase_perform (h : r.Consistent) (hbefore : r.items.item? id = some before)
    (hafter : (r.perform op).items.item? id = some after) :
    after.phase = before.phase ∨ r.Edge op id before after.phase := by
  cases h.revised op hbefore hafter with
  | kept => exact Or.inl rfl
  | acted hop hshown hplan hchanges => exact Or.inr (.acts hop hshown (.of_plan hplan hchanges))
  | reported hop =>
    obtain ⟨q, rfl, hq⟩ := hop
    cases q with
    | reportProgress other update =>
      obtain ⟨rfl, hnext⟩ := hq
      have hanswer := (reportProgress_of_ok hbefore hnext).1
      obtain ⟨-, rfl⟩ := Item.applyProgress_eq_ok.1 hnext
      rw [Item.takeProgress_eq]
      by_cases hactive : before.state.active = true
      · simp only [Item.phase, hactive, if_true]
        exact Or.inr (.progresses rfl hanswer ((active_iff _).1 hactive))
      · simp only [Item.phase, hactive, Bool.false_eq_true, if_false]
        exact Or.inl trivial
    | reportError other =>
      obtain ⟨rfl, rfl⟩ := hq
      exact Or.inr (.fails rfl)
    | resetUploaded other =>
      obtain ⟨rfl, rfl⟩ := hq
      exact Or.inl rfl
    | _ => exact hq.elim

theorem item?_of_edge (hbefore : r.items.item? id = some before) (hedge : r.Edge op id before phase) :
    ∃ after, (r.perform op).items.item? id = some after ∧ after.phase = phase := by
  cases hedge with
  | acts hop hshown hedge =>
    obtain ⟨q, rfl, hq⟩ := hop
    obtain ⟨transition, hplan, hphase⟩ := hedge.planned
    exact ⟨_, item?_act hq hedge.ne_delete hedge.ne_hide hbefore hshown hplan, hphase⟩
  | @progresses update state hop hanswer hstate =>
    subst hop
    obtain ⟨next, hnext⟩ := applyProgress_of_answer hbefore hanswer
    have hq : Request.Reports (.reportProgress id update) id before next := ⟨rfl, hnext⟩
    refine ⟨next, item?_report hbefore hq, ?_⟩
    rw [(Item.applyProgress_eq_ok.1 hnext).2, Item.takeProgress_eq, Item.phase]
    simp only [(active_iff _).2 hstate, if_true]
  | fails hop =>
    subst hop
    have hq : Request.Reports (.reportError id) id before { before with state := .error } := ⟨rfl, rfl⟩
    exact ⟨_, item?_report hbefore hq, rfl⟩

/-! ## Archived items -/

/-- No edge clears the flag. -/
theorem Edge.archived (hedge : r.Edge op id before phase) (h : before.archived = true) : phase.2 = true := by
  cases hedge with
  | acts hop hshown hedge =>
    cases hedge with
    | pause harchived => rw [h] at harchived; cases harchived
    | archive => rfl
    | resume harchived => rw [h] at harchived; cases harchived
  | progresses => exact h
  | fails => exact h

/-- An archived item that is stopped or in error stays so; of the edges, only that of an error moves it. -/
theorem Edge.settled (hedge : r.Edge op id before phase) (hstate : before.state = .stopped ∨ before.state = .error)
    (harchived : before.archived = true) :
    phase = before.phase ∨ (phase = (.error, true) ∧ op = .request (.reportError id)) := by
  cases hedge with
  | acts hop hshown hedge =>
    cases hedge with
    | pause hclear => rw [harchived] at hclear; cases hclear
    | archive hfrom =>
      left
      have hstopped : before.state = .stopped := by
        rcases hstate with hstopped | herror
        · exact hstopped
        · rw [herror] at hfrom
          exact absurd hfrom (by decide)
      rw [Item.phase, hstopped, harchived]
    | resume hclear => rw [harchived] at hclear; cases hclear
  | progresses hprogress hanswer hactive =>
    rcases hstate with hstate | hstate
    all_goals
      rw [hstate] at hactive
      exact absurd hactive (by decide)
  | fails hfails =>
    right
    rw [harchived]
    exact ⟨rfl, hfails⟩

theorem Consistent.archived_run (h : r.Consistent) (ops : List Operation) (hbefore : r.items.item? id = some before)
    (hstays : ∀ k, (r.run (ops.take k)).items.item? id ≠ none) (hafter : (r.run ops).items.item? id = some after)
    (harchived : before.archived = true) : after.archived = true := by
  refine h.item_induction (P := fun item => item.archived = true) ops ?_ hbefore hstays hafter harchived
  intro s op first second hs _ hfirst hsecond hflag
  rcases hs.phase_perform hfirst hsecond with hsame | hedge
  · exact (congrArg Prod.snd hsame).trans hflag
  · exact hedge.archived hflag

theorem Consistent.stopped_run (h : r.Consistent) (ops : List Operation) (hbefore : r.items.item? id = some before)
    (hstays : ∀ k, (r.run (ops.take k)).items.item? id ≠ none) (hafter : (r.run ops).items.item? id = some after)
    (hphase : before.phase = (.stopped, true)) :
    after.phase = (.stopped, true) ∨ (after.phase = (.error, true) ∧ .request (.reportError id) ∈ ops) := by
  refine h.item_induction
    (P := fun item => item.phase = (.stopped, true) ∨ (item.phase = (.error, true) ∧ .request (.reportError id) ∈ ops))
    ops ?_ hbefore hstays hafter (Or.inl hphase)
  intro s op first second hs ho hfirst hsecond hsettled
  rcases hs.phase_perform hfirst hsecond with hsame | hedge
  · rwa [hsame]
  have hfrom : (first.state = .stopped ∨ first.state = .error) ∧ first.archived = true := by
    rcases hsettled with hpair | ⟨hpair, -⟩
    · exact ⟨Or.inl (congrArg Prod.fst hpair), congrArg Prod.snd hpair⟩
    · exact ⟨Or.inr (congrArg Prod.fst hpair), congrArg Prod.snd hpair⟩
  rcases hedge.settled hfrom.1 hfrom.2 with hsame | ⟨herror, hop⟩
  · rwa [hsame]
  · subst hop
    exact Or.inr ⟨herror, ho⟩

end

/-! ## After every run -/

/-- State and flag of every item move along edges alone, in the next operation and in any run that follows. -/
structure Orderly (r : Registry) : Prop where
  moves : ∀ op id before after, r.items.item? id = some before → (r.perform op).items.item? id = some after →
    after.phase = before.phase ∨ r.Edge op id before after.phase
  takes : ∀ op id before phase, r.items.item? id = some before → r.Edge op id before phase →
    ∃ after, (r.perform op).items.item? id = some after ∧ after.phase = phase
  /-- As long as an item is stored its flag is not cleared. -/
  archived : ∀ ops id before after, r.items.item? id = some before →
    (∀ k, (r.run (ops.take k)).items.item? id ≠ none) → (r.run ops).items.item? id = some after →
    before.archived = true → after.archived = true
  /-- An archived item that is stopped stays stopped until an error of it is reported, which is where it stays then. -/
  stopped : ∀ ops id before after, r.items.item? id = some before →
    (∀ k, (r.run (ops.take k)).items.item? id ≠ none) → (r.run ops).items.item? id = some after →
    before.phase = (.stopped, true) →
      after.phase = (.stopped, true) ∨ (after.phase = (.error, true) ∧ .request (.reportError id) ∈ ops)

/-- Every registry that a run reaches moves its items along the edges of their life. -/
theorem orderly_run (config : Configuration) (now : Int64) (ops : List Operation) :
    ((start config now).run ops).Orderly where
  moves _ _ _ _ hbefore hafter := (consistent_run config now ops).phase_perform hbefore hafter
  takes _ _ _ _ hbefore hedge := item?_of_edge hbefore hedge
  archived later _ _ _ hbefore hstays hafter := (consistent_run config now ops).archived_run later hbefore hstays hafter
  stopped later _ _ _ hbefore hstays hafter := (consistent_run config now ops).stopped_run later hbefore hstays hafter

namespace Sample

/-- The item is reported to be complete. -/
def completing : Operation := .request (.reportProgress default ⟨10, 5, 0, 0, 0, none, none⟩)

def archiving : Operation := .request (.applyOne 1 .archive default)

def erring : Operation := .request (.reportError default)

/-- The item once it is complete, archived then, and in error then. -/
def complete : Item := (Item.fresh default "item" 10).takeProgress ⟨10, 5, 0, 0, 0, none, none⟩

def retired : Item := { complete with state := .stopped, archived := true }

def erred : Item := { retired with state := .error }

def seeding : Registry := (start Sample.configuration 0).run [Sample.adding, completing]

def archived : Registry := (start Sample.configuration 0).run [Sample.adding, completing, archiving]

end Sample

/-- A complete item is archived along an edge, an error is one too, and an archived item keeps its flag in it. -/
theorem orderly_run_archived :
    Sample.seeding.Edge Sample.archiving default Sample.complete Sample.retired.phase ∧
    (∃ after, (Sample.seeding.perform Sample.erring).items.item? default = some after ∧ after.phase = (.error, false)) ∧
    Sample.erred.archived = true ∧
    (Sample.erred.phase = (.stopped, true) ∨
      Sample.erred.phase = (.error, true) ∧ .request (.reportError default) ∈ [Sample.erring]) := by
  have hseeding : Sample.seeding.Orderly := orderly_run Sample.configuration 0 [Sample.adding, Sample.completing]
  have harchived : Sample.archived.Orderly :=
    orderly_run Sample.configuration 0 [Sample.adding, Sample.completing, Sample.archiving]
  have hcomplete : Sample.seeding.items.item? default = some Sample.complete := by decide +kernel
  have hmoved : (Sample.seeding.perform Sample.archiving).items.item? default = some Sample.retired := by decide +kernel
  have hbefore : Sample.archived.items.item? default = some Sample.retired := by decide +kernel
  have hafter : (Sample.archived.run [Sample.erring]).items.item? default = some Sample.erred := by decide +kernel
  have hstays : ∀ k, (Sample.archived.run ([Sample.erring].take k)).items.item? default ≠ none :=
    holds_run_take_singleton (P := fun r => r.items.item? default ≠ none) (by decide +kernel) (by decide +kernel)
  refine ⟨?_, hseeding.takes Sample.erring default _ _ hcomplete (.fails rfl), ?_, ?_⟩
  · exact (hseeding.moves Sample.archiving default _ _ hcomplete hmoved).resolve_left (by decide)
  · exact harchived.archived [Sample.erring] default _ _ hbefore hstays hafter rfl
  · exact harchived.stopped [Sample.erring] default _ _ hbefore hstays hafter rfl

end TransferRegistry.Registry
