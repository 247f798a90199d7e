import TransferRegistry.Item.Lifecycle

/-!
# Where actions and reports take an item

* `Item.phase`: the state of an item and its archived flag; `transferState`: the state that a transfer itself has.
* `ItemAction.Edge`: where pausing, archiving and resuming take an item. An action that changes a record takes it along
  its edge (`Edge.of_plan`), and where there is an edge it is planned (`Edge.planned`).
* `Item.applyProgress_eq_ok`: what a report makes of a record; `Item.regression?_eq`: a report is refused for the first
  counter that it moves the wrong way.
-/

namespace TransferRegistry

/-- The state that a transfer itself has, by what is left of it and who is connected. -/
def transferState (remaining : UInt64) (peers : List ItemPeer) : ItemState :=
  if remaining = 0 then .seeding
  else if ∃ peer ∈ peers, peer.state = .handshake ∨ peer.state = .active then .downloading
  else .stalled

theorem transferState_active (remaining : UInt64) (peers : List ItemPeer) :
    (transferState remaining peers).active = true := by
  unfold transferState
  split
  · rfl
  · split <;> rfl

theorem PeerState.connected_iff (state : PeerState) : state.connected = true ↔ state = .handshake ∨ state = .active := by
  cases state <;> decide

namespace Item

/-- The state of an item and its archived flag. -/
def phase (item : Item) : ItemState × Bool := (item.state, item.archived)

theorem derivedState_eq (item : Item) : item.derivedState = transferState item.remaining item.peers := by
  unfold derivedState transferState complete
  simp only [decide_eq_true_eq, List.any_eq_true, PeerState.connected_iff]

end Item

/-! ## Actions -/

/-- Where an action takes an item, in state and flag. -/
inductive ItemAction.Edge (item : Item) : ItemAction → ItemState × Bool → Prop where
  | pause (harchived : item.archived = false) (herror : item.state ≠ .error) (hpaused : item.state ≠ .paused) :
    Edge item .pause (.paused, false)
  | archive (hstate : item.state = .seeding ∨ item.state = .stopped) : Edge item .archive (.stopped, true)
  | resume (harchived : item.archived = false)
    (hstate : item.state = .paused ∨ item.state = .stopped ∨ item.state = .error) :
    Edge item .resume (transferState item.remaining item.peers, false)

/-- A transition that changes nothing gives the record back. -/
theorem Transition.applyTo_of_not_changes {transition : Transition} {item : Item}
    (h : transition.changes item = false) : transition.applyTo item = item := by
  cases transition with
  | setState state =>
    have hstate : item.state = state := by simpa [changes] using h
    rw [applyTo, ← hstate]
  | archive =>
    have hphase : item.state = .stopped ∧ item.archived = true := by simpa [changes] using h
    rw [applyTo, ← hphase.1, ← hphase.2]
  | _ => rfl

/-- A transition changes the state and the flag of a record, and nothing else of it. -/
theorem Transition.applyTo_eq (transition : Transition) (item : Item) : transition.applyTo item =
    { item with state := (transition.applyTo item).state, archived := (transition.applyTo item).archived } := by
  cases transition <;> rfl

namespace ItemAction.Edge

variable {action : ItemAction} {item : Item} {transition : Transition} {phase : ItemState × Bool}

theorem of_pause (hplan : ItemAction.pause.plan item = .ok transition) (hchanges : transition.changes item = true) :
    ItemAction.pause.Edge item (transition.applyTo item).phase := by
  simp only [plan] at hplan
  split at hplan
  · cases hplan
    cases hchanges
  · rename_i harchived
    rw [Bool.not_eq_true] at harchived
    split at hplan
    · cases hplan
    · cases hplan
      cases hchanges
    · rename_i herror hpaused
      cases hplan
      rw [Transition.applyTo, Item.phase, harchived]
      exact .pause harchived herror hpaused

theorem of_archive (hplan : ItemAction.archive.plan item = .ok transition)
    (hchanges : transition.changes item = true) : ItemAction.archive.Edge item (transition.applyTo item).phase := by
  simp only [plan] at hplan
  split at hplan
  · rename_i hstate
    split at hplan
    · cases hplan
      cases hchanges
    · cases hplan
      exact .archive (Or.inr hstate)
  · rename_i hstate
    cases hplan
    exact .archive (Or.inl hstate)
  · cases hplan

theorem of_resume (hplan : ItemAction.resume.plan item = .ok transition) (hchanges : transition.changes item = true) :
    ItemAction.resume.Edge item (transition.applyTo item).phase := by
  simp only [plan] at hplan
  split at hplan
  · cases hplan
  · rename_i harchived
    rw [Bool.not_eq_true] at harchived
    -- one edge for the three states that are left
    have hedge (hstate : item.state = .paused ∨ item.state = .stopped ∨ item.state = .error) :
        ItemAction.resume.Edge item ((Transition.setState item.derivedState).applyTo item).phase := by
      rw [Transition.applyTo, Item.phase, harchived, Item.derivedState_eq]
      exact .resume harchived hstate
    split at hplan
    · rename_i hstate
      cases hplan
      exact hedge (Or.inl hstate)
    · rename_i hstate
      cases hplan
      exact hedge (Or.inr (Or.inl hstate))
    · rename_i hstate
      cases hplan
      exact hedge (Or.inr (Or.inr hstate))
    · cases hplan
      cases hchanges

theorem of_plan (hplan : action.plan item = .ok transition) (hchanges : transition.changes item = true) :
    action.Edge item (transition.applyTo item).phase := by
  cases action with
  | pause => exact of_pause hplan hchanges
  | archive => exact of_archive hplan hchanges
  | resume => exact of_resume hplan hchanges
  | delete => cases hplan; cases hchanges
  | hide => cases hplan; cases hchanges

theorem planned (h : action.Edge item phase) :
    ∃ transition, action.plan item = .ok transition ∧ (transition.applyTo item).phase = phase := by
  cases h with
  | pause harchived herror hpaused =>
    refine ⟨.setState .paused, ?_, by rw [Transition.applyTo, Item.phase, harchived]⟩
    simp only [plan, harchived, Bool.false_eq_true, if_false]
  | archive hstate =>
    rcases hstate with hstate | hstate
    · exact ⟨.archive, by simp only [plan, hstate], rfl⟩
    · cases harchived : item.archived with
      | false => exact ⟨.archive, by simp [plan, hstate, harchived], rfl⟩
      | true =>
        refine ⟨.unchanged, by simp [plan, hstate, harchived], ?_⟩
        rw [Transition.applyTo, Item.phase, hstate, harchived]
  | resume harchived hstate =>
    refine ⟨.setState item.derivedState, ?_, by rw [Transition.applyTo, Item.phase, harchived, Item.derivedState_eq]⟩
    rcases hstate with hstate | hstate | hstate <;> simp [plan, harchived, hstate]

/-- An edge is neither to hide nor to delete. -/
theorem ne_hide (h : action.Edge item phase) : action ≠ .hide := by cases h <;> nofun

theorem ne_delete (h : action.Edge item phase) : action ≠ .delete := by cases h <;> nofun

/-- At the end of its edge an action has nothing left to do. -/
theorem planned_again (h : action.Edge item phase) {after : Item} (hafter : after.phase = phase) :
    action.plan after = .ok .unchanged := by
  have hactive := transferState_active item.remaining item.peers
  cases h with
  | pause =>
    obtain ⟨hstate, harchived⟩ := Prod.mk.inj hafter
    simp [plan, hstate, harchived]
  | archive =>
    obtain ⟨hstate, harchived⟩ := Prod.mk.inj hafter
    simp [plan, hstate, harchived]
  | resume =>
    obtain ⟨hstate, harchived⟩ := Prod.mk.inj hafter
    rw [← hstate] at hactive
    simp only [plan, harchived, Bool.false_eq_true, if_false]
    cases hnext : after.state with
    | paused | stopped | error =>
      rw [hnext] at hactive
      cases hactive
    | _ => rfl

end ItemAction.Edge

/-- What an action made of a record it leaves as it is when it is done again. -/
theorem ItemAction.plan_applyTo {action : ItemAction} {item : Item} {transition : Transition}
    (hplan : action.plan item = .ok transition) :
    ∃ again, action.plan (transition.applyTo item) = .ok again ∧ again.changes (transition.applyTo item) = false := by
  cases hchanges : transition.changes item with
  | false =>
    rw [Transition.applyTo_of_not_changes hchanges]
    exact ⟨transition, hplan, hchanges⟩
  | true => exact ⟨.unchanged, (Edge.of_plan hplan hchanges).planned_again rfl, rfl⟩

/-! ## Reports -/

namespace Counter

/-- The counters, in the order in which a report is looked at. -/
def all : List Counter := [downloaded, uploaded, remaining]

/-- The value of a counter in a record. -/
def ofItem (item : Item) : Counter → UInt64
  | downloaded => item.downloaded
  | uploaded => item.uploaded
  | remaining => item.remaining

/-- The value of a counter in a report. -/
def ofUpdate (update : ProgressUpdate) : Counter → UInt64
  | downloaded => update.downloaded
  | uploaded => update.uploaded
  | remaining => update.remaining

/-- A report moves the counter the wrong way. -/
def Recedes (item : Item) (update : ProgressUpdate) : Counter → Prop
  | downloaded => update.downloaded < item.downloaded
  | uploaded => update.uploaded < item.uploaded
  | remaining => item.remaining < update.remaining

instance (item : Item) (update : ProgressUpdate) (counter : Counter) : Decidable (counter.Recedes item update) :=
  match counter with
  | downloaded => inferInstanceAs (Decidable (update.downloaded < item.downloaded))
  | uploaded => inferInstanceAs (Decidable (update.uploaded < item.uploaded))
  | remaining => inferInstanceAs (Decidable (item.remaining < update.remaining))

end Counter

namespace Item

variable {item next : Item} {update : ProgressUpdate}

theorem regression?_eq (item : Item) (update : ProgressUpdate) :
    item.regression? update = (Counter.all.find? (·.Recedes item update)).map fun counter =>
      .counterRegression item.id counter (counter.ofItem item) (counter.ofUpdate update) := by
  unfold regression? Counter.all
  by_cases hdown : update.downloaded < item.downloaded
  · simp [hdown, Counter.Recedes, Counter.ofItem, Counter.ofUpdate]
  by_cases hup : update.uploaded < item.uploaded
  · simp [hdown, hup, Counter.Recedes, Counter.ofItem, Counter.ofUpdate]
  by_cases hleft : item.remaining < update.remaining
  · simp [hdown, hup, hleft, Counter.Recedes, Counter.ofItem, Counter.ofUpdate]
  · simp [hdown, hup, hleft, Counter.Recedes]

theorem applyProgress_eq_ok : item.applyProgress update = .ok next ↔
    (∀ counter : Counter, ¬counter.Recedes item update) ∧ next = item.takeProgress update := by
  have hnone : item.regression? update = none ↔ ∀ counter : Counter, ¬counter.Recedes item update := by
    rw [regression?_eq, Option.map_eq_none_iff, List.find?_eq_none]
    constructor
    · intro h counter
      simpa using h counter (by cases counter <;> decide)
    · intro h counter _
      simpa using h counter
  rw [← hnone, applyProgress]
  cases item.regression? update with
  | none => simp [eq_comm]
  | some e => simp

/-- A report is taken over as a whole; only an active state follows it. -/
theorem takeProgress_eq (item : Item) (update : ProgressUpdate) : item.takeProgress update =
    { item with
      state := if item.state.active then transferState update.remaining (update.peers.getD item.peers) else item.state
      downloaded := update.downloaded
      uploaded := update.uploaded
      ratio := ratioOf update.uploaded update.downloaded
      remaining := update.remaining
      downRate := update.downRate
      upRate := update.upRate
      peers := update.peers.getD item.peers
      files := update.files.getD item.files } := by
  unfold takeProgress
  by_cases hactive : item.state.active = true <;>
    simp only [refreshRatio, derivedState_eq, hactive, Bool.false_eq_true, if_true, if_false]

end Item

end TransferRegistry
