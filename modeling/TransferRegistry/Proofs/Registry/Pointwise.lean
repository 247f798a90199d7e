import Mathlib.Data.Finset.Card
import TransferRegistry.Proofs.Registry.Repetition
import TransferRegistry.Proofs.Registry.Statistics
import TransferRegistry.Proofs.Registry.Views

/-!
# A batch id by id

* `Registry.counted_applyAction`: the answer counts the ids by what the action would tell of each of them alone.
* `Registry.unordered_applyAction`: a request depends on which ids it lists alone.
* `Registry.alikeAt_applyParts`, `SameContent.of_alikeAt`: what several requests do to an id, and registries that are
  alike at every id.
* `Registry.ActsPointwise`: all that a bulk action does, it does to each id alone. `pointwise_run` says so after every run.
-/

namespace TransferRegistry

namespace BulkTally

theorem processed_ofOutcomes (outcomes : List ItemOutcome) :
    (ofOutcomes outcomes).processed = outcomes.countP ItemOutcome.processed := by
  rw [ofOutcomes_eq]

theorem remaining_ofOutcomes (outcomes : List ItemOutcome) :
    (ofOutcomes outcomes).remaining = outcomes.countP fun outcome => !outcome.processed := by
  have hlength := List.length_eq_countP_add_countP (l := outcomes) ItemOutcome.processed
  simp only [Bool.not_eq_true, Bool.decide_eq_false] at hlength
  rw [ofOutcomes_eq, remaining, hlength, Nat.add_sub_cancel_left]

end BulkTally

theorem distinctIds_congr {ids others : List ItemId} (h : ∀ id, id ∈ ids ↔ id ∈ others) :
    distinctIds ids = distinctIds others := by
  have hset : Std.ExtTreeSet.ofList ids compare = Std.ExtTreeSet.ofList others compare := by
    ext id
    simp only [Std.ExtTreeSet.mem_ofList, List.contains_iff_mem, h]
  rw [distinctIds, distinctIds, hset]

namespace Registry

/-! ## Counting -/

theorem countP_distinctIds (ids : List ItemId) (p : ItemId → Bool) :
    (distinctIds ids).countP p = (ids.toFinset.filter fun id => p id = true).card := by
  rw [List.countP_eq_length_filter, ← List.toFinset_card_of_nodup ((nodup_distinctIds ids).filter _)]
  refine congrArg Finset.card (Finset.ext fun id => ?_)
  simp only [List.mem_toFinset, List.mem_filter, mem_distinctIds, Finset.mem_filter]

/-- How many ids of a list would, each for itself, end in one of some outcomes. -/
def countAlone (r : Registry) (now : Int64) (action : ItemAction) (ids : List ItemId) (outcomes : List ItemOutcome) :
    Nat :=
  (ids.toFinset.filter fun id => (r.applyOne now action id).answer ∈ outcomes).card

theorem countP_outcomes (r : Registry) (now : Int64) (action : ItemAction) (ids : List ItemId)
    {p : ItemOutcome → Bool} {outcomes : List ItemOutcome} (hp : ∀ outcome, p outcome = true ↔ outcome ∈ outcomes) :
    ((distinctIds ids).map fun id => (r.applyOne now action id).answer).countP p =
      r.countAlone now action ids outcomes := by
  rw [List.countP_map, countP_distinctIds, countAlone]
  simp only [Function.comp_apply, hp]

theorem counted_applyAction (r : Registry) (now : Int64) (action : ItemAction) {ids : List ItemId} (hids : ids ≠ []) :
    ∃ response, (r.applyAction now action ids).answer = .ok response ∧
      response.processed = r.countAlone now action ids [.applied, .unchanged, .alreadyProcessed] ∧
      response.remaining = r.countAlone now action ids [.notFound, .invalidTransition] := by
  refine ⟨_, r.answer_applyAction now action hids, ?_, ?_⟩
  · rw [← r.countP_outcomes (p := ItemOutcome.processed) now action ids (by intro outcome; cases outcome <;> decide)]
    exact BulkTally.processed_ofOutcomes _
  · rw [← r.countP_outcomes (p := fun outcome => !outcome.processed) now action ids
      (by intro outcome; cases outcome <;> decide)]
    exact BulkTally.remaining_ofOutcomes _

/-! ## Order and repetitions -/

theorem unordered_applyAction (r : Registry) (now : Int64) (action : ItemAction) {ids others : List ItemId}
    (h : ∀ id, id ∈ ids ↔ id ∈ others) : r.applyAction now action ids = r.applyAction now action others := by
  have hempty : ids = [] ↔ others = [] := by
    rw [List.eq_nil_iff_forall_not_mem, List.eq_nil_iff_forall_not_mem]
    exact forall_congr' fun id => not_congr (h id)
  unfold applyAction
  rw [distinctIds_congr h]
  simp only [hempty]

/-! ## Several requests -/

/-- The action to the ids of one list after the other, at one time. -/
def applyParts (r : Registry) (now : Int64) (action : ItemAction) (parts : List (List ItemId)) : Registry :=
  parts.foldl (fun r part => (r.applyAction now action part).state) r

section

variable {r s : Registry} {now : Int64} {action : ItemAction} {id : ItemId}

theorem applyParts_concat (r : Registry) (parts : List (List ItemId)) (part : List ItemId) :
    r.applyParts now action (parts ++ [part]) = ((r.applyParts now action parts).applyAction now action part).state := by
  rw [applyParts, List.foldl_append]
  rfl

theorem Consistent.applyParts (h : r.Consistent) (now : Int64) (action : ItemAction) (parts : List (List ItemId)) :
    (r.applyParts now action parts).Consistent ∧
      (r.applyParts now action parts).hidden.passkey = r.hidden.passkey := by
  induction parts generalizing r with
  | nil => exact ⟨h, rfl⟩
  | cons part parts ih =>
    have hmoves := applyAction_moves r now action part
    obtain ⟨hconsistent, hpasskey⟩ := ih (hmoves.consistent h)
    exact ⟨hconsistent, hpasskey.trans hmoves.passkey_eq⟩

/-- An id that is listed once or more is acted on once, any other id not at all. -/
theorem alikeAt_applyParts (r : Registry) (parts : List (List ItemId)) (id : ItemId) :
    AlikeAt id (if ∃ part ∈ parts, id ∈ part then (r.applyOne now action id).state else r)
      (r.applyParts now action parts) := by
  induction parts using List.reverseRecOn with
  | nil =>
    rw [if_neg (by simp)]
    exact AlikeAt.refl id r
  | append_singleton parts part ih =>
    rw [applyParts_concat]
    have hlast := (r.applyParts now action parts).alikeAt_applyAction now action part id
    by_cases hpart : id ∈ part
    · rw [if_pos hpart] at hlast
      rw [if_pos ⟨part, by simp, hpart⟩]
      split at ih
      · -- an earlier list has it, and the action is done
        rw [(ih.again now).1] at hlast
        exact ih.trans hlast
      · exact ih.applyOne.trans hlast
    · have hearlier : (∃ p ∈ parts ++ [part], id ∈ p) ↔ ∃ p ∈ parts, id ∈ p := by simp [hpart]
      rw [if_neg hpart] at hlast
      simp only [hearlier]
      exact ih.trans hlast

theorem AlikeAt.symm (h : AlikeAt id r s) : AlikeAt id s r :=
  ⟨⟨h.slot.symm, h.time.symm⟩, h.itemUpdate.symm, h.hiddenUpdate.symm⟩

/-- Registries that are alike at every id have the same content. -/
theorem SameContent.of_alikeAt (hr : r.items.Sound) (hs : s.items.Sound) (hpasskey : s.hidden.passkey = r.hidden.passkey)
    (h : ∀ id, AlikeAt id r s) : SameContent r s where
  items := hs.ext_item? hr fun id => (h id).item?
  hidden := HiddenSet.ext_times (fun id => (h id).time) hpasskey
  itemUpdates := Std.ExtTreeMap.ext_getElem? fun id => (h id).itemUpdate
  hiddenUpdates := Std.ExtTreeMap.ext_getElem? fun id => (h id).hiddenUpdate

theorem Consistent.parted_applyAction (h : r.Consistent) {ids : List ItemId} {parts : List (List ItemId)}
    (hparts : ∀ id, id ∈ ids ↔ ∃ part ∈ parts, id ∈ part) :
    SameContent (r.applyAction now action ids).state (r.applyParts now action parts) := by
  have hmoves := applyAction_moves r now action ids
  obtain ⟨hconsistent, hpasskey⟩ := h.applyParts now action parts
  refine SameContent.of_alikeAt (hmoves.consistent h).items_sound hconsistent.items_sound
    (hpasskey.trans hmoves.passkey_eq.symm) fun id => ?_
  have hwhole := r.alikeAt_applyAction now action ids id
  simp only [hparts] at hwhole
  exact hwhole.symm.trans (r.alikeAt_applyParts parts id)

end

/-! ## After every run -/

/-- A bulk action acts on each of its ids as if on it alone. -/
structure ActsPointwise (r : Registry) : Prop where
  /-- Item, hidden time and queued changes of a listed id are as if it alone had been asked for; any other id keeps its. -/
  each : ∀ now action ids id,
    AlikeAt id (if id ∈ ids then (r.applyOne now action id).state else r) (r.applyAction now action ids).state
  counted : ∀ now action ids, ids ≠ [] → ∃ response, (r.applyAction now action ids).answer = .ok response ∧
    response.processed = r.countAlone now action ids [.applied, .unchanged, .alreadyProcessed] ∧
    response.remaining = r.countAlone now action ids [.notFound, .invalidTransition]
  /-- Neither the registry nor the answer depends on the order of the ids or on repetitions. -/
  unordered : ∀ now action ids others, (∀ id, id ∈ ids ↔ id ∈ others) →
    r.applyAction now action ids = r.applyAction now action others
  /-- Lists that may overlap, one after the other, do what all their ids in one list do. -/
  parted : ∀ now action ids parts, (∀ id, id ∈ ids ↔ ∃ part ∈ parts, id ∈ part) →
    SameContent (r.applyAction now action ids).state (r.applyParts now action parts)
  empty : ∀ now action, r.applyAction now action [] = ⟨r, .error .emptyIds, []⟩

/-- **A batch acts id by id**, in every registry that the program can come to. -/
theorem pointwise_run (config : Configuration) (start : Int64) (ops : List Operation) :
    ((Registry.start config start).run ops).ActsPointwise where
  each := alikeAt_applyAction _
  counted now action _ := counted_applyAction _ now action
  unordered now action _ _ := unordered_applyAction _ now action
  parted _ _ _ _ := (consistent_run config start ops).parted_applyAction
  empty _ _ := rfl

namespace Sample

/-- An item that is there, and an id without one. -/
def present : ItemId := default

def absent : ItemId := ⟨.replicate 32 1⟩

def single : Registry := (start Sample.configuration 0).run [Sample.adding]

end Sample

/-- One of two ids is hidden, in whatever order they are listed and in however many lists. -/
theorem pointwise_run_single :
    (∃ response, (Sample.single.applyAction 1 .hide [Sample.present, Sample.absent, Sample.present]).answer = .ok response ∧
      response.processed = 1 ∧ response.remaining = 1) ∧
    Sample.single.applyAction 1 .hide [Sample.present, Sample.absent, Sample.present] =
      Sample.single.applyAction 1 .hide [Sample.absent, Sample.present] ∧
    SameContent (Sample.single.applyAction 1 .hide [Sample.present, Sample.absent, Sample.present]).state
      (Sample.single.applyParts 1 .hide [[Sample.absent], [Sample.present, Sample.absent]]) := by
  have hpointwise : Sample.single.ActsPointwise := pointwise_run Sample.configuration 0 [Sample.adding]
  obtain ⟨response, hanswer, hprocessed, hremaining⟩ :=
    hpointwise.counted 1 .hide [Sample.present, Sample.absent, Sample.present] (List.cons_ne_nil _ _)
  refine ⟨⟨response, hanswer, hprocessed.trans (by decide +kernel), hremaining.trans (by decide +kernel)⟩, ?_, ?_⟩
  · refine hpointwise.unordered 1 .hide _ _ fun id => ?_
    simp only [List.mem_cons, List.not_mem_nil, or_false]
    tauto
  · refine hpointwise.parted 1 .hide _ _ fun id => ?_
    simp only [List.mem_cons, List.not_mem_nil, or_false, exists_eq_or_imp, exists_eq_left]
    tauto

end Registry

end TransferRegistry
