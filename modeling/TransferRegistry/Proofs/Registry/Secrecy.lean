import TransferRegistry.Proofs.Registry.Gate

/-!
# What shows without the passkey

* `Probe`: what can be asked by who does not have the passkey, `Registry.ask` and `Registry.askAll` ask it.
* `Registry.LooksLike`: two registries have the same passkey, hide as many ids, and show the same of every id, whatever
  they hide. `LooksLike.ask`: what is asked without the passkey has the same answer in both, and they still look alike
  after it; `LooksLike.askAll` is the same of a list of probes.
* `Registry.Untouched`: nothing of a hidden item has changed. `Consistent.untouched_ask`: so it is after a probe.
-/

namespace TransferRegistry

/-- The same step with an answer made of its answer. -/
def Step.map {σ α β : Type} (f : α → β) (step : Step σ α) : Step σ β := ⟨step.state, f step.answer, step.log⟩

inductive Probe where
  | getItem (id : ItemId)
  | listItems
  | hiddenCount
  | applyAction (now : Int64) (action : ItemAction) (ids : List ItemId)
  | unhide (ids : List ItemId) (passkey : Option String)
  | unhideAll (passkey : Option String)
  | hiddenEntries (passkey : Option String)
  | hiddenItems (passkey : Option String)

namespace Probe

inductive Answer where
  | item (answer : Except ItemError Item)
  | items (answer : List Item)
  | count (answer : Nat)
  | bulk (answer : Except BulkError BulkResponse)
  | entries (answer : Except HiddenError (List HiddenEntry))
  | records (answer : Except HiddenError (List Item))

/-- The probe does not give the secret, and asks for no action that hides or deletes. An empty secret may be given: it
opens nothing. -/
def Outside (secret : String) : Probe → Prop
  | getItem _ | listItems | hiddenCount => True
  | applyAction _ action _ => action = .pause ∨ action = .archive ∨ action = .resume
  | unhide _ passkey | unhideAll passkey | hiddenEntries passkey | hiddenItems passkey =>
    passkey = some secret → secret = ""

theorem plain_of_outside {secret : String} {now : Int64} {action : ItemAction} {ids : List ItemId}
    (h : (applyAction now action ids).Outside secret) : action.Plain := by
  rcases h with rfl | rfl | rfl <;> exact ⟨nofun, nofun⟩

end Probe

namespace Registry

def ask (r : Registry) : Probe → Step Registry Probe.Answer
  | .getItem id => ⟨r, .item (r.getItem id), []⟩
  | .listItems => ⟨r, .items r.listItems, []⟩
  | .hiddenCount => ⟨r, .count r.hiddenCount, []⟩
  | .applyAction now action ids => (r.applyAction now action ids).map .bulk
  | .unhide ids passkey => (r.unhide ids passkey).map .bulk
  | .unhideAll passkey => (r.unhideAll passkey).map .bulk
  | .hiddenEntries passkey => (r.hiddenEntries passkey).map .entries
  | .hiddenItems passkey => (r.hiddenItems passkey).map .records

def askAll (r : Registry) : List Probe → Step Registry (List Probe.Answer)
  | [] => ⟨r, [], []⟩
  | probe :: probes =>
    let first := r.ask probe
    let rest := askAll first.state probes
    ⟨rest.state, first.answer :: rest.answer, first.log ++ rest.log⟩

theorem Consistent.ask {r : Registry} (h : r.Consistent) (probe : Probe) : (r.ask probe).state.Consistent := by
  cases probe with
  | getItem id => exact h
  | listItems => exact h
  | hiddenCount => exact h
  | applyAction now action ids => exact consistent_perform (.request (.applyAction now action ids)) h
  | unhide ids passkey => exact consistent_perform (.request (.unhide ids passkey)) h
  | unhideAll passkey => exact consistent_perform (.request (.unhideAll passkey)) h
  | hiddenEntries passkey => exact consistent_perform (.request (.hiddenEntries passkey)) h
  | hiddenItems passkey => exact consistent_perform (.request (.hiddenItems passkey)) h

/-! ## What is shown of an id -/

theorem getItem_eq (r : Registry) (id : ItemId) :
    r.getItem id = match r.shown? id with
      | some item => .ok item
      | none => .error (.notFound id) := by
  unfold getItem shown? Store.get
  cases r.hidden.contains id <;> rfl

theorem Consistent.mem_listItems_iff {r : Registry} (h : r.Consistent) (item : Item) :
    item ∈ r.listItems ↔ r.shown? item.id = some item := by
  rw [h.mem_listItems, shown?_eq_some]

/-! ## Two registries -/

/-- The registries look the same to who does not have the passkey. -/
structure LooksLike (r s : Registry) : Prop where
  passkey : s.hidden.passkey = r.hidden.passkey
  hiddenCount : s.hiddenCount = r.hiddenCount
  shown : ∀ id, s.shown? id = r.shown? id

/-- Two steps have the same answer, and leave registries that look the same. -/
structure Indistinct {α : Type} (first second : Step Registry α) : Prop where
  answer : second.answer = first.answer
  state : first.state.LooksLike second.state

section

variable {r s : Registry} {action : ItemAction}

theorem LooksLike.of_listItems (hr : r.Consistent) (hs : s.Consistent) (hpasskey : s.hidden.passkey = r.hidden.passkey)
    (hlist : s.listItems = r.listItems) (hcount : s.hiddenCount = r.hiddenCount) : r.LooksLike s := by
  have hsome : ∀ id item, s.shown? id = some item ↔ r.shown? id = some item := by
    intro id item
    constructor
    · intro h
      obtain rfl := hs.items_sound.id_eq (shown?_eq_some.1 h).1
      rwa [← hr.mem_listItems_iff, ← hlist, hs.mem_listItems_iff]
    · intro h
      obtain rfl := hr.items_sound.id_eq (shown?_eq_some.1 h).1
      rwa [← hs.mem_listItems_iff, hlist, hr.mem_listItems_iff]
  exact ⟨hpasskey, hcount, fun id => Option.ext fun item => hsome id item⟩

theorem LooksLike.listItems (h : r.LooksLike s) (hr : r.Consistent) (hs : s.Consistent) :
    s.listItems = r.listItems := by
  have hmem : ∀ item, item ∈ s.listItems ↔ item ∈ r.listItems := by
    intro item
    rw [hs.mem_listItems_iff, hr.mem_listItems_iff, h.shown]
  exact (hs.items_sound.ascending_toList.filter _).ext (hr.items_sound.ascending_toList.filter _) hmem

theorem LooksLike.changeOne {id : ItemId} {item : Item} (h : r.LooksLike s) (hitem : r.shown? id = some item)
    (transition : Transition) : Indistinct (r.changeOne id item transition) (s.changeOne id item transition) := by
  have hr := (shown?_eq_some.1 hitem).2
  have hs := (shown?_eq_some.1 ((h.shown id).trans hitem)).2
  unfold Registry.changeOne
  split
  · refine ⟨rfl, h.passkey, h.hiddenCount, fun other => ?_⟩
    rw [shown?_put hs, shown?_put hr, h.shown]
  · exact ⟨rfl, h⟩

theorem LooksLike.applyOne (h : r.LooksLike s) (now : Int64) (hplain : action.Plain) (id : ItemId) :
    Indistinct (r.applyOne now action id) (s.applyOne now action id) := by
  cases hr : r.shown? id with
  | none =>
    have hs : s.shown? id = none := (h.shown id).trans hr
    rw [applyOne_of_not_shown hplain hr, applyOne_of_not_shown hplain hs]
    exact ⟨rfl, h⟩
  | some item =>
    have hs : s.shown? id = some item := (h.shown id).trans hr
    rw [applyOne_of_shown hplain hr, applyOne_of_shown hplain hs]
    cases action.plan item with
    | error e => exact ⟨rfl, h⟩
    | ok transition => exact h.changeOne hr transition

theorem LooksLike.applyEach (h : r.LooksLike s) (now : Int64) (hplain : action.Plain)
    (ids : List ItemId) : Indistinct (r.applyEach now action ids) (s.applyEach now action ids) := by
  induction ids generalizing r s with
  | nil => exact ⟨rfl, h⟩
  | cons id ids ih =>
    have hfirst := h.applyOne now hplain id
    have hrest := ih hfirst.state
    refine ⟨?_, hrest.state⟩
    show _ :: _ = _ :: _
    rw [hfirst.answer, hrest.answer]

theorem LooksLike.recordTally (h : r.LooksLike s) (tally : BulkTally) :
    (r.recordTally tally).LooksLike (s.recordTally tally) := ⟨h.passkey, h.hiddenCount, h.shown⟩

/-- The answer is made of the outcomes and of the number of hidden ids. -/
theorem LooksLike.applyAction (h : r.LooksLike s) (now : Int64) (hplain : action.Plain)
    (ids : List ItemId) : Indistinct (r.applyAction now action ids) (s.applyAction now action ids) := by
  unfold Registry.applyAction
  by_cases hids : ids = []
  · rw [if_pos hids, if_pos hids]
    exact ⟨rfl, h⟩
  · have hcounted : (r.addStat .bulkCalls 1).LooksLike (s.addStat .bulkCalls 1) :=
      ⟨h.passkey, h.hiddenCount, h.shown⟩
    have heach := hcounted.applyEach now hplain (distinctIds ids)
    rw [if_neg hids, if_neg hids]
    generalize (r.addStat .bulkCalls 1).applyEach now action (distinctIds ids) = first at heach ⊢
    generalize (s.addStat .bulkCalls 1).applyEach now action (distinctIds ids) = second at heach ⊢
    obtain ⟨hanswer, hstate⟩ := heach
    have htally := hstate.recordTally (BulkTally.ofOutcomes first.answer)
    simp only [hanswer]
    refine ⟨?_, htally⟩
    simp only [htally.hiddenCount]

theorem LooksLike.refused (h : r.LooksLike s) : r.refused.LooksLike s.refused := ⟨h.passkey, h.hiddenCount, h.shown⟩

/-- Two requests that are refused have the same answer. -/
theorem LooksLike.indistinct_of_refused {α ε : Type} {e : ε} {first second : Step Registry (Except ε α)}
    (h : r.LooksLike s) (hr : first.answer = .error e ∧ first.state = r.refused)
    (hs : second.answer = .error e ∧ second.state = s.refused) : Indistinct first second := by
  refine ⟨hs.1.trans hr.1.symm, ?_⟩
  rw [hr.2, hs.2]
  exact h.refused

theorem Indistinct.map {α β : Type} {first second : Step Registry α} (h : Indistinct first second) (f : α → β) :
    Indistinct (first.map f) (second.map f) := ⟨congrArg f h.answer, h.state⟩

theorem LooksLike.ask (h : r.LooksLike s) (hr : r.Consistent) (hs : s.Consistent) {probe : Probe}
    (hout : probe.Outside r.hidden.passkey) : Indistinct (r.ask probe) (s.ask probe) := by
  have hrefuses : ∀ {passkey : Option String}, (passkey = some r.hidden.passkey → r.hidden.passkey = "") →
      r.Refuses passkey ∧ s.Refuses passkey := by
    intro passkey hpasskey
    refine ⟨hr.gated.refuses passkey hpasskey, hs.gated.refuses passkey ?_⟩
    rwa [h.passkey]
  cases probe with
  | getItem id =>
    refine ⟨?_, h⟩
    show Probe.Answer.item _ = .item _
    rw [getItem_eq, getItem_eq, h.shown]
  | listItems => exact ⟨congrArg Probe.Answer.items (h.listItems hr hs), h⟩
  | hiddenCount => exact ⟨congrArg Probe.Answer.count h.hiddenCount, h⟩
  | applyAction now action ids =>
    exact (h.applyAction now (Probe.plain_of_outside hout) ids).map Probe.Answer.bulk
  | unhide ids passkey =>
    obtain ⟨hr, hs⟩ := hrefuses hout
    refine Indistinct.map ?_ Probe.Answer.bulk
    by_cases hids : ids = []
    · unfold Registry.unhide
      rw [if_pos hids, if_pos hids]
      exact ⟨rfl, h⟩
    · exact h.indistinct_of_refused (hr.unhide ids hids) (hs.unhide ids hids)
  | unhideAll passkey =>
    obtain ⟨hr, hs⟩ := hrefuses hout
    exact (h.indistinct_of_refused hr.unhideAll hs.unhideAll).map Probe.Answer.bulk
  | hiddenEntries passkey =>
    obtain ⟨hr, hs⟩ := hrefuses hout
    exact (h.indistinct_of_refused hr.hiddenEntries hs.hiddenEntries).map Probe.Answer.entries
  | hiddenItems passkey =>
    obtain ⟨hr, hs⟩ := hrefuses hout
    exact (h.indistinct_of_refused hr.hiddenItems hs.hiddenItems).map Probe.Answer.records

end

/-! ## What is hidden -/

/-- The hidden ids, their times and their records are as they were. -/
structure Untouched (r s : Registry) : Prop where
  hidden : s.hidden = r.hidden
  records : ∀ id, r.hidden.contains id = true → s.items.item? id = r.items.item? id

section

variable {r s t : Registry} {action : ItemAction}

theorem Untouched.refl (r : Registry) : Untouched r r := ⟨rfl, fun _ _ => rfl⟩

theorem Untouched.trans (h : Untouched r s) (h' : Untouched s t) : Untouched r t := by
  refine ⟨h'.hidden.trans h.hidden, fun id hid => ?_⟩
  have hstill : s.hidden.contains id = true := by rwa [h.hidden]
  exact (h'.records id hstill).trans (h.records id hid)

theorem untouched_applyOne (r : Registry) (now : Int64) (hplain : action.Plain) (id : ItemId) :
    Untouched r (r.applyOne now action id).state := by
  rcases r.applyOne_cases now action id with hstate | ⟨hact, -⟩ | ⟨hact, -⟩ |
    ⟨item, transition, hitem, hshown, -, -, hstate⟩
  · rw [hstate]
    exact Untouched.refl r
  · exact absurd hact hplain.1
  · exact absurd hact hplain.2
  · rw [hstate]
    refine ⟨rfl, fun other hother => ?_⟩
    have hne : id ≠ other := by
      rintro rfl
      rw [hshown] at hother
      cases hother
    rw [items_queueItem, Store.item?_put, if_neg hne]

theorem untouched_applyEach (r : Registry) (now : Int64) (hplain : action.Plain) (ids : List ItemId) :
    Untouched r (r.applyEach now action ids).state := by
  induction ids generalizing r with
  | nil => exact Untouched.refl r
  | cons id ids ih => exact (untouched_applyOne r now hplain id).trans (ih _)

theorem untouched_applyAction (r : Registry) (now : Int64) (hplain : action.Plain) (ids : List ItemId) :
    Untouched r (r.applyAction now action ids).state := by
  unfold applyAction
  split
  · exact Untouched.refl r
  · have heach := untouched_applyEach (r.addStat .bulkCalls 1) now hplain (distinctIds ids)
    exact ⟨heach.hidden, heach.records⟩

theorem Consistent.untouched_ask (h : r.Consistent) {probe : Probe} (hout : probe.Outside r.hidden.passkey) :
    Untouched r (r.ask probe).state := by
  have hrefused : Untouched r r.refused := ⟨rfl, fun _ _ => rfl⟩
  cases probe with
  | getItem id => exact Untouched.refl r
  | listItems => exact Untouched.refl r
  | hiddenCount => exact Untouched.refl r
  | applyAction now action ids =>
    exact untouched_applyAction r now (Probe.plain_of_outside hout) ids
  | unhide ids passkey =>
    show Untouched r (r.unhide ids passkey).state
    by_cases hids : ids = []
    · rw [Registry.unhide, if_pos hids]
      exact Untouched.refl r
    · rw [((h.gated.refuses passkey hout).unhide ids hids).2]
      exact hrefused
  | unhideAll passkey =>
    show Untouched r (r.unhideAll passkey).state
    rwa [(h.gated.refuses passkey hout).unhideAll.2]
  | hiddenEntries passkey =>
    show Untouched r (r.hiddenEntries passkey).state
    rwa [(h.gated.refuses passkey hout).hiddenEntries.2]
  | hiddenItems passkey =>
    show Untouched r (r.hiddenItems passkey).state
    rwa [(h.gated.refuses passkey hout).hiddenItems.2]

end

/-! ## Many probes -/

section

variable {r s : Registry}

theorem Consistent.askAll (probes : List Probe) (h : r.Consistent) : (r.askAll probes).state.Consistent := by
  induction probes generalizing r with
  | nil => exact h
  | cons probe probes ih => exact ih (h.ask probe)

/-- By induction on the probes: neither the passkey nor what is shown tells the registries apart at any of them. -/
theorem LooksLike.askAll (probes : List Probe) (h : r.LooksLike s) (hr : r.Consistent) (hs : s.Consistent)
    (hout : ∀ probe ∈ probes, probe.Outside r.hidden.passkey) : Indistinct (r.askAll probes) (s.askAll probes) := by
  induction probes generalizing r s with
  | nil => exact ⟨rfl, h⟩
  | cons probe probes ih =>
    obtain ⟨hprobe, hprobes⟩ := List.forall_mem_cons.1 hout
    have hfirst := h.ask hr hs hprobe
    have hrest := ih hfirst.state (hr.ask probe) (hs.ask probe) (by rwa [(hr.untouched_ask hprobe).hidden])
    refine ⟨?_, hrest.state⟩
    show _ :: _ = _ :: _
    rw [hfirst.answer, hrest.answer]

theorem Consistent.untouched_askAll (probes : List Probe) (h : r.Consistent)
    (hout : ∀ probe ∈ probes, probe.Outside r.hidden.passkey) : Untouched r (r.askAll probes).state := by
  induction probes generalizing r with
  | nil => exact Untouched.refl r
  | cons probe probes ih =>
    obtain ⟨hprobe, hprobes⟩ := List.forall_mem_cons.1 hout
    have hfirst := h.untouched_ask hprobe
    exact hfirst.trans (ih (h.ask probe) (by rwa [hfirst.hidden]))

end

/-- What is hidden in two registries is not told apart by probes, and is not touched by them. -/
structure Secret (r s : Registry) (probes : List Probe) : Prop where
  answers : (s.askAll probes).answer = (r.askAll probes).answer
  listItems : ∀ k, (s.askAll (probes.take k)).state.listItems = (r.askAll (probes.take k)).state.listItems
  first : Untouched r (r.askAll probes).state
  second : Untouched s (s.askAll probes).state

/-- **A hidden item is as good as absent.** Two registries that runs reach, that list the same items and hide as many,
answer the same to all that is asked without the passkey, whatever they hide. -/
theorem secret_run (config : Configuration) (now now' : Int64) (ops ops' : List Operation) (probes : List Probe)
    (hlist : ((start config now').run ops').listItems = ((start config now).run ops).listItems)
    (hcount : ((start config now').run ops').hiddenCount = ((start config now).run ops).hiddenCount)
    (hout : ∀ probe ∈ probes, probe.Outside config.core.hiddenPasskey) :
    Secret ((start config now).run ops) ((start config now').run ops') probes := by
  have hr := consistent_run config now ops
  have hs := consistent_run config now' ops'
  have hrkey := passkey_run config now ops
  have hskey := passkey_run config now' ops'
  generalize (start config now).run ops = r at *
  generalize (start config now').run ops' = s at *
  have hlooks : r.LooksLike s := .of_listItems hr hs (hskey.trans hrkey.symm) hlist hcount
  have hsteps : ∀ k, Indistinct (r.askAll (probes.take k)) (s.askAll (probes.take k)) := by
    intro k
    refine hlooks.askAll (probes.take k) hr hs fun probe hp => ?_
    rw [hrkey]
    exact hout probe (List.mem_of_mem_take hp)
  have hall := hsteps probes.length
  rw [List.take_length] at hall
  exact {
    answers := hall.answer
    listItems := fun k => (hsteps k).state.listItems (hr.askAll _) (hs.askAll _)
    first := hr.untouched_askAll probes (by rwa [hrkey])
    second := hs.untouched_askAll probes (by rwa [hskey]) }

namespace Twins

def config : Configuration := ⟨"info", ⟨"open sesame"⟩, ⟨8, 2, ["seed"]⟩, ⟨true, ".", 60⟩⟩

def id (n : UInt8) : ItemId := ⟨Vector.replicate 32 n⟩

/-- One item is shown, and another one is hidden. -/
def ops (n : UInt8) : List Operation :=
  [.request (.addItem (.fresh (id 0) "shown" 10)), .request (.addItem (.fresh (id n) "secret" 10)),
    .request (.applyAction 5 .hide [id n])]

def probes : List Probe :=
  [.getItem (id 1), .applyAction 6 .pause [id 0, id 1, id 2], .unhideAll (some "guess"), .hiddenCount, .listItems]

end Twins

/-- Two registries that hide different items. -/
theorem secret_run_twins :
    ((start Twins.config 0).run (Twins.ops 1)).hidden.contains (Twins.id 1) = true ∧
    ((start Twins.config 0).run (Twins.ops 2)).hidden.contains (Twins.id 1) = false ∧
    ((start Twins.config 0).run (Twins.ops 2)).listItems = ((start Twins.config 0).run (Twins.ops 1)).listItems ∧
    ((start Twins.config 0).run (Twins.ops 2)).hiddenCount = ((start Twins.config 0).run (Twins.ops 1)).hiddenCount ∧
    (∀ probe ∈ Twins.probes, probe.Outside Twins.config.core.hiddenPasskey) ∧
    Secret ((start Twins.config 0).run (Twins.ops 1)) ((start Twins.config 0).run (Twins.ops 2)) Twins.probes := by
  have hlist : ((start Twins.config 0).run (Twins.ops 2)).listItems =
      ((start Twins.config 0).run (Twins.ops 1)).listItems := by decide +kernel
  have hcount : ((start Twins.config 0).run (Twins.ops 2)).hiddenCount =
      ((start Twins.config 0).run (Twins.ops 1)).hiddenCount := by decide +kernel
  have hout : ∀ probe ∈ Twins.probes, probe.Outside Twins.config.core.hiddenPasskey := by
    simp [Twins.probes, Twins.config, Probe.Outside]
  exact ⟨by decide +kernel, by decide +kernel, hlist, hcount, hout,
    secret_run Twins.config 0 0 (Twins.ops 1) (Twins.ops 2) Twins.probes hlist hcount hout⟩

end Registry

end TransferRegistry
