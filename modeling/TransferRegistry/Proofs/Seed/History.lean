import Mathlib.Data.List.Induction
import TransferRegistry.Proofs.Seed
import TransferRegistry.Seed.Basic

/-!
# What the seeds are after a history of requests

* `SeedEvent`: what is asked of the seeds, and the taking of their marker. `SeedKeeper.run` does a list of them.
* `SeedKeeper.SetSince`: an event that sets a flag came after the last one that clears it. `Flag.run_iff`: that is what
  each flag tells of its history.
* `SeedKeeper.Recalls`: all that the keeper tells of its history, and `recalls_run`: it does so after every history.
-/

namespace TransferRegistry

/-- What is asked of the seeds. A list to save is one that can be counted in 64 bits; to draw a list needs a random
supply. -/
inductive SeedEvent where
  | save (seeds : List String) (counted : seeds.length < UInt64.size)
  | autoGenerate (e : Entropy)
  | acknowledgeRestart
  | takeDirty

/-- A text of some length, each character of which is a small letter or a digit. -/
def IsPlainSeed (length : Nat) (seed : String) : Prop :=
  seed.length = length ∧ ∀ c ∈ seed.toList, ('a' ≤ c ∧ c ≤ 'z') ∨ ('0' ≤ c ∧ c ≤ '9')

theorem IsSeed.plain {length : Nat} {seed : String} (h : IsSeed length seed) : IsPlainSeed length seed := by
  have hcharset : seedCharset.all (fun c => ('a' ≤ c ∧ c ≤ 'z') ∨ ('0' ≤ c ∧ c ≤ '9')) = true := by decide +kernel
  refine ⟨?_, fun c hc => ?_⟩
  · rw [← String.length_toList]
    exact h.length_eq
  · exact of_decide_eq_true (List.all_eq_true.1 hcharset c (h.drawn c hc))

namespace SeedEvent

/-- A list is saved. -/
def Saves : SeedEvent → Prop
  | save _ _ => True
  | _ => False

/-- The list is replaced by another. -/
def Replaces : SeedEvent → Prop
  | save _ _ | autoGenerate _ => True
  | _ => False

/-- The restart is acknowledged. -/
def Acknowledges : SeedEvent → Prop
  | acknowledgeRestart => True
  | _ => False

/-- The marker is taken. -/
def Takes : SeedEvent → Prop
  | takeDirty => True
  | _ => False

end SeedEvent

namespace SeedKeeper

/-- What an event makes of the seeds. -/
def perform (k : SeedKeeper) : SeedEvent → SeedKeeper
  | .save seeds _ => k.save seeds
  | .autoGenerate e => (k.autoGenerate e).1
  | .acknowledgeRestart => k.acknowledgeRestart
  | .takeDirty => k.takeDirty.2

/-- What a history makes of the seeds. -/
def run (k : SeedKeeper) (events : List SeedEvent) : SeedKeeper := events.foldl perform k

variable {k : SeedKeeper} {e : SeedEvent} {events before after : List SeedEvent}

theorem run_append_cons : k.run (before ++ e :: after) = ((k.run before).perform e).run after := by
  rw [run, List.foldl_append, List.foldl_cons]
  rfl

/-- What no event of a history changes is as it was. -/
theorem run_keeps {α : Type} (f : SeedKeeper → α) {P : SeedEvent → Prop}
    (h : ∀ k e, P e → f (k.perform e) = f k) (hevents : ∀ e ∈ events, P e) (k : SeedKeeper) :
    f (k.run events) = f k := by
  induction events generalizing k with
  | nil => rfl
  | cons e events ih =>
    obtain ⟨he, hrest⟩ := List.forall_mem_cons.1 hevents
    exact (ih hrest (k.perform e)).trans (h k e he)

/-- After an acknowledgement no restart is due, and there is something to store if one was. -/
theorem acknowledgeRestart_eq (k : SeedKeeper) :
    k.acknowledgeRestart = ⟨{ k.config with restartRequired := false }, k.config.restartRequired || k.dirty⟩ := by
  obtain ⟨⟨seeds, length, count, required⟩, dirty⟩ := k
  cases required <;> rfl

/-! ## The list -/

theorem seedLength_perform (k : SeedKeeper) (e : SeedEvent) :
    (k.perform e).config.seedLength = k.config.seedLength := by
  cases e with
  | acknowledgeRestart => rw [perform, acknowledgeRestart_eq]
  | _ => rfl

theorem seedCount_perform (k : SeedKeeper) (e : SeedEvent) (h : ¬e.Saves) :
    (k.perform e).config.seedCount = k.config.seedCount := by
  cases e with
  | save => exact absurd trivial h
  | acknowledgeRestart => rw [perform, acknowledgeRestart_eq]
  | _ => rfl

theorem seeds_perform (k : SeedKeeper) (e : SeedEvent) (h : ¬e.Replaces) :
    (k.perform e).config.seeds = k.config.seeds := by
  cases e with
  | save | autoGenerate => exact absurd trivial h
  | acknowledgeRestart => rw [perform, acknowledgeRestart_eq]
  | _ => rfl

/-- As many seeds are drawn as are counted, each of the length that is kept. -/
theorem seeds_autoGenerate (k : SeedKeeper) (e : Entropy) :
    (k.autoGenerate e).1.config.seeds.length = k.config.seedCount.toNat ∧
      ∀ seed ∈ (k.autoGenerate e).1.config.seeds, IsPlainSeed k.config.seedLength.toNat seed := by
  obtain ⟨hlength, hseeds⟩ := generateSeeds_spec k.config.seedCount.toNat k.config.seedLength.toNat e
  have hdrawn : (k.autoGenerate e).1.config.seeds =
      (generateSeeds k.config.seedCount.toNat k.config.seedLength.toNat e).1 := rfl
  rw [hdrawn]
  exact ⟨hlength, fun seed hseed => (hseeds seed hseed).plain⟩

/-! ## Flags -/

/-- An event that sets comes after the last one that clears. -/
def SetSince (sets : SeedKeeper → SeedEvent → Prop) (clears : SeedEvent → Prop) (k : SeedKeeper)
    (events : List SeedEvent) : Prop :=
  ∃ before e after, events = before ++ e :: after ∧ sets (k.run before) e ∧ ∀ other ∈ after, ¬clears other

/-- A flag is set by some events, cleared by others and left alone by the rest. -/
structure Flag (flag : SeedKeeper → Bool) (sets : SeedKeeper → SeedEvent → Prop) (clears : SeedEvent → Prop) :
    Prop where
  set : ∀ k e, sets k e → flag (k.perform e) = true
  clear : ∀ k e, clears e → ¬sets k e → flag (k.perform e) = false
  keep : ∀ k e, ¬sets k e → ¬clears e → flag (k.perform e) = flag k

variable {flag : SeedKeeper → Bool} {sets : SeedKeeper → SeedEvent → Prop} {clears : SeedEvent → Prop}

theorem Flag.stays (h : Flag flag sets clears) (hk : flag k = true) (hevents : ∀ e ∈ events, ¬clears e) :
    flag (k.run events) = true := by
  induction events generalizing k with
  | nil => exact hk
  | cons e events ih =>
    obtain ⟨he, hrest⟩ := List.forall_mem_cons.1 hevents
    refine ih (k := k.perform e) ?_ hrest
    by_cases hsets : sets k e
    · exact h.set k e hsets
    · rw [h.keep k e hsets he, hk]

/-- A flag that is not set at first tells whether it was set since it was last cleared. -/
theorem Flag.run_iff (h : Flag flag sets clears) (hk : flag k = false) (events : List SeedEvent) :
    flag (k.run events) = true ↔ SetSince sets clears k events := by
  constructor
  · -- by the last event: it sets the flag, or leaves it as it was
    induction events using List.reverseRecOn with
    | nil =>
      intro hset
      rw [run, List.foldl_nil, hk] at hset
      cases hset
    | append_singleton events e ih =>
      intro hset
      rw [run_append_cons] at hset
      by_cases hsets : sets (k.run events) e
      · exact ⟨events, e, [], rfl, hsets, List.forall_mem_nil _⟩
      by_cases hclears : clears e
      · rw [run, List.foldl_nil, h.clear _ e hclears hsets] at hset
        cases hset
      · rw [run, List.foldl_nil, h.keep _ e hsets hclears] at hset
        obtain ⟨before, other, after, rfl, hother, hafter⟩ := ih hset
        refine ⟨before, other, after ++ [e], by simp, hother, fun x hx => ?_⟩
        rcases List.mem_append.1 hx with hx | hx
        · exact hafter x hx
        · rw [List.mem_singleton.1 hx]
          exact hclears
  · rintro ⟨before, e, after, rfl, hsets, hafter⟩
    rw [run_append_cons]
    exact h.stays (h.set _ e hsets) hafter

/-- What makes a restart due. -/
def RequiresRestart (_ : SeedKeeper) (e : SeedEvent) : Prop := e.Replaces

/-- What gives something to store: a new list, or the end of a restart that was due. -/
def Dirties (k : SeedKeeper) (e : SeedEvent) : Prop :=
  e.Replaces ∨ (e.Acknowledges ∧ k.config.restartRequired = true)

theorem flag_restartRequired : Flag (·.config.restartRequired) RequiresRestart SeedEvent.Acknowledges where
  set k e h := by
    cases e with
    | save | autoGenerate => rfl
    | _ => exact h.elim
  clear k e h _ := by
    cases e with
    | acknowledgeRestart => simp only [perform, acknowledgeRestart_eq]
    | _ => exact h.elim
  keep k e hsets hclears := by
    cases e with
    | takeDirty => rfl
    | acknowledgeRestart => exact absurd trivial hclears
    | _ => exact absurd trivial hsets

theorem flag_dirty : Flag (·.dirty) Dirties SeedEvent.Takes where
  set k e h := by
    cases e with
    | save | autoGenerate => rfl
    | acknowledgeRestart =>
      obtain ⟨-, hdue⟩ := h.resolve_left id
      simp only [perform, acknowledgeRestart_eq, hdue, Bool.true_or]
    | takeDirty => exact (h.resolve_left id).1.elim
  clear k e h _ := by
    cases e with
    | takeDirty => rfl
    | _ => exact h.elim
  keep k e hsets hclears := by
    cases e with
    | acknowledgeRestart =>
      have hnone : k.config.restartRequired = false := by
        rw [← Bool.not_eq_true]
        exact fun hdue => hsets (Or.inr ⟨trivial, hdue⟩)
      simp only [perform, acknowledgeRestart_eq, hnone, Bool.false_or]
    | takeDirty => exact absurd trivial hclears
    | _ => exact absurd (Or.inl trivial) hsets

/-! ## Histories -/

/-- What the keeper tells of a history that starts from it. -/
structure Recalls (k : SeedKeeper) (events : List SeedEvent) : Prop where
  length : (k.run events).config.seedLength = k.config.seedLength
  /-- Until a list is saved the number is that of the start. -/
  count_start : (∀ e ∈ events, ¬e.Saves) → (k.run events).config.seedCount = k.config.seedCount
  /-- It is the length of the list that was saved last. -/
  count_saved : ∀ before seeds counted after, events = before ++ .save seeds counted :: after →
    (∀ e ∈ after, ¬e.Saves) → (k.run events).config.seedCount.toNat = seeds.length
  seeds_start : (∀ e ∈ events, ¬e.Replaces) → (k.run events).config.seeds = k.config.seeds
  seeds_saved : ∀ before seeds counted after, events = before ++ .save seeds counted :: after →
    (∀ e ∈ after, ¬e.Replaces) → (k.run events).config.seeds = seeds
  seeds_drawn : ∀ before entropy after, events = before ++ .autoGenerate entropy :: after →
    (∀ e ∈ after, ¬e.Replaces) →
    (k.run events).config.seeds.length = (k.run events).config.seedCount.toNat ∧
      ∀ seed ∈ (k.run events).config.seeds, IsPlainSeed k.config.seedLength.toNat seed
  restart : (k.run events).config.restartRequired = true ↔ SetSince RequiresRestart SeedEvent.Acknowledges k events
  dirty : (k.run events).dirty = true ↔ SetSince Dirties SeedEvent.Takes k events

theorem seedLength_run (k : SeedKeeper) (events : List SeedEvent) :
    (k.run events).config.seedLength = k.config.seedLength :=
  run_keeps (·.config.seedLength) (fun k e _ => k.seedLength_perform e) (fun _ _ => trivial) k

theorem seedCount_run (h : ∀ e ∈ events, ¬e.Saves) (k : SeedKeeper) :
    (k.run events).config.seedCount = k.config.seedCount :=
  run_keeps (·.config.seedCount) seedCount_perform h k

theorem seeds_run (h : ∀ e ∈ events, ¬e.Replaces) (k : SeedKeeper) :
    (k.run events).config.seeds = k.config.seeds :=
  run_keeps (·.config.seeds) seeds_perform h k

theorem recalls (hrestart : k.config.restartRequired = false) (hdirty : k.dirty = false) (events : List SeedEvent) :
    k.Recalls events where
  length := seedLength_run k events
  count_start h := seedCount_run h k
  count_saved before seeds counted after hevents hafter := by
    rw [hevents, run_append_cons, seedCount_run hafter]
    exact UInt64.toNat_ofNat_of_lt' counted
  seeds_start h := seeds_run h k
  seeds_saved before seeds counted after hevents hafter := by
    rw [hevents, run_append_cons, seeds_run hafter]
    rfl
  seeds_drawn before entropy after hevents hafter := by
    have hsaves : ∀ e ∈ after, ¬e.Saves := by
      intro e he hsaves
      cases e with
      | save => exact hafter _ he trivial
      | _ => exact hsaves
    obtain ⟨hlength, hseeds⟩ := (k.run before).seeds_autoGenerate entropy
    rw [seedLength_run] at hseeds
    rw [hevents, run_append_cons, seeds_run hafter, seedCount_run hsaves]
    exact ⟨hlength, hseeds⟩
  restart := flag_restartRequired.run_iff hrestart events
  dirty := flag_dirty.run_iff hdirty events

/-- **The seeds tell of their history**, from those of a configuration on, or from those that were restored. -/
theorem recalls_run (g : SeedGeneration) (events : List SeedEvent) :
    (ofGeneration g).Recalls events ∧ ∀ config, ((ofGeneration g).restore config).Recalls events :=
  ⟨recalls rfl rfl events, fun _ => recalls rfl rfl events⟩

end SeedKeeper

end TransferRegistry
