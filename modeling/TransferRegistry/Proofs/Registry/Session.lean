import TransferRegistry.Proofs.Registry.Restore

/-!
# Sessions

* `Session`: a registry and a disk that a program comes to that starts on an empty directory, answers requests, stores
  its changes through backends that may fail, and is started anew at any time.
* `Synced`: what the documents hold is what the registry keeps, but for what is queued. Every session comes to a
  synced state (`Session.synced`).
-/

namespace TransferRegistry

open Registry

/-- What a program comes to that starts on an empty directory. Backends that it stores to may fail; one that is
started anew finds the documents as they were left. -/
inductive Session (dir : StateDirectory) (config : Configuration) : Registry → Disk → Prop where
  | fresh {d : Disk} (now : Int64) (hkey : d.key = none)
    (hempty : ∀ name ∈ StateDirectory.documents, d.files.read (dir.file name) = .error .notFound) :
    Session dir config (start config now) d
  | request {r : Registry} {d : Disk} (h : Session dir config r d) (q : Request) : Session dir config (r.serve q) d
  | flush {r : Registry} {d : Disk} {backend : Backend Disk} (h : Session dir config r d) (now : Int64)
    (hb : dir.Unreliable backend) :
    Session dir config (r.flush now backend d).state.1 (r.flush now backend d).state.2
  | restart {r : Registry} {d d' : Disk} (h : Session dir config r d) (now : Int64) (hd : dir.Alike d d') :
    Session dir config ((start config now).load dir.backend d').state.1 ((start config now).load dir.backend d').state.2

/-- A directory holds an archive, and where it is not what a registry keeps, it is queued. -/
structure Synced (dir : StateDirectory) (r : Registry) (d : Disk) (a : Archive) : Prop where
  holds : dir.Holds d a
  tracks (id : ItemId) : r.Tracks id (a.copies id)
  seeds : r.seeds.dirty = false →
    (a.seeds.getD (SeedKeeper.ofGeneration r.config.seeds).config).restarted = r.seeds.config.restarted

variable {dir : StateDirectory} {r s : Registry} {d d' : Disk} {a : Archive} {id : ItemId}

theorem Synced.advance (h : Synced dir r d a) (ha : Advances r s) : Synced dir s d a where
  holds := h.holds
  tracks id := (h.tracks id).advance ha
  seeds hclean := by
    rcases ha.seeds with heq | hdirty
    · rw [heq] at hclean ⊢
      rw [ha.config]
      exact h.seeds hclean
    · rw [hdirty] at hclean
      cases hclean

theorem Synced.alike (h : Synced dir r d a) (hd : dir.Alike d d') : Synced dir r d' a := ⟨h.holds.alike hd, h.tracks, h.seeds⟩

/-- The copies of a registry itself are tracked. -/
theorem tracks_copies (r : Registry) (id : ItemId) : r.Tracks id (r.copies id) where
  settled _ := rfl
  unsealed hsome hnone := absurd hnone hsome
  removed hsome hnone := absurd (by rw [Registry.copies, hnone]) hsome

theorem synced_fresh (hkey : d.key = none)
    (hempty : ∀ name ∈ StateDirectory.documents, d.files.read (dir.file name) = .error .notFound)
    (config : Configuration) (now : Int64) : Synced dir (start config now) d .empty where
  holds := StateDirectory.holds_empty (fun key hk => by rw [hkey] at hk; cases hk) hempty
  tracks id := by
    have hcopies : (start config now).copies id = Archive.empty.copies id := by
      have hnone : (start config now).items.item? id = none := Store.item?_empty id
      rw [Registry.copies, hnone]
      rfl
    rw [← hcopies]
    exact tracks_copies _ id
  seeds _ := rfl

/-! ## Flushes -/

section Flush

variable {backend : Backend Disk}

/-- Once all writes are done the documents hold what the registry keeps. -/
theorem Synced.writes (h : Synced dir r d a) (hr : r.Consistent) (hs : s.copies id = r.copies id) :
    s.Tracks id ((r.writes.foldl Archive.after a).copies id) := by
  rw [Archive.copies_foldl_after]
  show s.Tracks id (effects r.writes id (a.copies id))
  rw [(h.tracks id).effects_writes hr, ← hs]
  exact tracks_copies s id

theorem Synced.flush (h : Synced dir r d a) (hr : r.Consistent) (hb : dir.Unreliable backend) (now : Int64) :
    ∃ a', Synced dir (r.flush now backend d).state.1 (r.flush now backend d).state.2 a' := by
  obtain ⟨k, -, -, hholds, hall⟩ :=
    h.holds.runWrites hb r.writes fun w hw => wellKeyed_stages hr (mem_stages List.prefix_rfl hw)
  rcases r.flush_cases now backend d with ⟨e, stats, -, -, hstate⟩ | ⟨e, hwritten, hdirty, hsaved, -, hstate⟩ |
    ⟨stats, hwritten, hdirty, hsaved, -, hstate⟩ | ⟨stats, hwritten, hclean, -, hstate⟩
  · -- some first writes are done, and all is queued again
    rw [hstate]
    refine ⟨_, Synced.advance (r := r) ⟨hholds, fun id => ?_, ?_⟩ (Move.count (q := .acknowledgeRestart) stats).advances⟩
    · rw [Archive.copies_foldl_after]
      exact (h.tracks id).prefix_writes hr (List.take_prefix k r.writes)
    · rw [Archive.seeds_foldl_after]
      exact h.seeds
  · -- the seeds are still to be stored
    rw [hall hwritten] at hholds
    have hends := hholds.ends_saveSeeds hb r.seeds.config
    rw [hsaved] at hends
    rw [hstate]
    refine ⟨_, hholds.alike hends, fun id => h.writes hr rfl, fun hclean => ?_⟩
    have hclean : r.seeds.dirty = false := hclean
    rw [hdirty] at hclean
    cases hclean
  · rw [hall hwritten] at hholds
    have hends := hholds.ends_saveSeeds hb r.seeds.config
    rw [hsaved] at hends
    rw [hstate]
    exact ⟨_, hends, fun id => h.writes hr rfl, fun _ => rfl⟩
  · rw [hall hwritten] at hholds
    rw [hstate]
    refine ⟨_, hholds, fun id => h.writes hr rfl, fun hclean => ?_⟩
    rw [Archive.seeds_foldl_after]
    exact h.seeds hclean

end Flush

/-! ## Restarts -/

theorem Registry.Restores.tracks {config : Configuration} (h : Restores config a r) (id : ItemId) :
    r.Tracks id (a.copies id) where
  settled hp := by
    have hsingle : (a.copies id).item ≠ none → (a.copies id).record = none := fun hitem => by
      by_contra hrecord
      exact hp (Or.inl ((h.itemUpdates id).2 ⟨hitem, hrecord⟩))
    rw [h.copies, Copies.loaded_eq_self hsingle]
  unsealed hsome hnone := by
    rw [h.copies, Copies.record_loaded] at hnone
    exact absurd hnone hsome
  removed hsome hnone := by
    -- an id that is stored is there
    have hloaded : (a.copies id).loaded = ⟨none, none⟩ := by rw [← h.copies, Registry.copies, hnone]
    have hrecord : (a.copies id).record = none := Copies.record_loaded.1 (by rw [hloaded])
    rw [Copies.loaded_eq_self fun _ => hrecord] at hloaded
    exact absurd (by rw [hloaded]) hsome

theorem Synced.restart (h : Synced dir r d a) (config : Configuration) (now : Int64) :
    Synced dir ((start config now).load dir.backend d).state.1 ((start config now).load dir.backend d).state.2 a := by
  obtain ⟨-, hrestores, halike⟩ := restore_spec h.holds config now
  refine ⟨h.holds.alike halike, hrestores.tracks, fun _ => ?_⟩
  rw [hrestores.seeds, hrestores.config_eq]
  rfl

/-! ## Every session -/

/-- The state of a registry and a disk that a session comes to. -/
structure Session.Invariant (dir : StateDirectory) (config : Configuration) (r : Registry) (d : Disk) : Prop where
  consistent : r.Consistent
  passkey : r.hidden.passkey = config.core.hiddenPasskey
  config_eq : r.config = config
  synced : ∃ a, Synced dir r d a

theorem Session.invariant {config : Configuration} (h : Session dir config r d) : Session.Invariant dir config r d := by
  induction h with
  | fresh now hkey hempty => exact ⟨consistent_start config now, rfl, rfl, _, synced_fresh hkey hempty config now⟩
  | @request r d h q ih =>
    obtain ⟨a, hsynced⟩ := ih.synced
    exact ⟨(serve_moves r q).consistent ih.consistent, (serve_moves r q).passkey_eq.trans ih.passkey,
      (serve_advances r q).config.trans ih.config_eq, a, hsynced.advance (serve_advances r q)⟩
  | @flush r d backend h now hb ih =>
    obtain ⟨a, hsynced⟩ := ih.synced
    obtain ⟨-, hhidden, hconfig⟩ := r.kept_flush now backend d
    exact ⟨consistent_perform (.flush now backend d) ih.consistent, hhidden ▸ ih.passkey, hconfig.trans ih.config_eq,
      hsynced.flush ih.consistent hb now⟩
  | @restart r d d' h now hd ih =>
    obtain ⟨a, hsynced⟩ := ih.synced
    obtain ⟨-, hrestores, -⟩ := restore_spec (hsynced.alike hd).holds config now
    exact ⟨hrestores.consistent, hrestores.passkey, hrestores.config_eq, a, (hsynced.alike hd).restart config now⟩

end TransferRegistry
