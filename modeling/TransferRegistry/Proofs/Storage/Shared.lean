import Mathlib.Logic.Function.Basic
import TransferRegistry.Proofs.Storage.Formats
import TransferRegistry.Proofs.Storage.Writable

/-!
# One directory, several backends

Each backend that is opened on a directory keeps the last key it used, while others write the document of the hidden
records, and while the files may be replaced from outside.

* `Sharing`: the files, and the last key of each backend. `SharedEvent`: what happens to them.
* `StateDirectory.recordsIn`, `recordsAfter`: the hidden records of the files, and what is to become of them.
* `Serves`: a call answers what is to be answered, and what it writes opens under its own salt, which is kept.
* `Agrees`: every kept key belongs to its salt, and the files have the records that are to be there. `Agrees.load` and
  `Agrees.save` keep it, and `servesAll_of_agrees` carries it along all that happens.
-/

namespace TransferRegistry

open Json (reread)

/-- The files of a directory, and the last key of each backend that is opened on it. -/
structure Sharing where
  files : FileTree
  keys : Nat → Option SealKey

namespace Sharing

/-- No backend has used a key yet. -/
def opened (files : FileTree) : Sharing := ⟨files, fun _ => none⟩

/-- The directory as one of the backends finds it. -/
def disk (s : Sharing) (backend : Nat) (entropy : Entropy) : Disk := Disk.start s.files (s.keys backend) entropy

/-- The directory as one of the backends leaves it. -/
def left (s : Sharing) (backend : Nat) (d : Disk) : Sharing := ⟨d.files, Function.update s.keys backend d.key⟩

end Sharing

/-- What happens to a directory: one of the backends is called, or the files are replaced by others. -/
inductive SharedEvent where
  | load (backend : Nat) (entropy : Entropy)
  | save (backend : Nat) (changes : HiddenChanges) (entropy : Entropy)
  | replace (files : FileTree)

namespace StateDirectory

open DiskAction (on_bind call_eq)

section Events

variable (dir : StateDirectory)

def loadBy (s : Sharing) (backend : Nat) (entropy : Entropy) : Step Disk (Except StorageError (List HiddenRecord)) :=
  dir.backend.loadHidden (s.disk backend entropy)

def saveBy (s : Sharing) (backend : Nat) (changes : HiddenChanges) (entropy : Entropy) :
    Step Disk (Except StorageError Nat) :=
  dir.backend.saveHidden changes (s.disk backend entropy)

def after (s : Sharing) : SharedEvent → Sharing
  | .load backend entropy => s.left backend (dir.loadBy s backend entropy).state
  | .save backend changes entropy => s.left backend (dir.saveBy s backend changes entropy).state
  | .replace files => { s with files }

/-- The hidden records of a tree of files, by their ids. -/
def recordsIn (t : FileTree) (id : ItemId) : Option HiddenRecord :=
  match dir.hiddenIn t with
  | .ok stored => stored[id]?
  | .error _ => none

/-- What is to be stored after an event of what was stored before it. -/
def recordsAfter (records : ItemId → Option HiddenRecord) : SharedEvent → ItemId → Option HiddenRecord
  | .load _ _, id => records id
  | .save _ changes _, id =>
    match changes[id]? with
    | some change => if change.action = .remove then none else change.record
    | none => records id
  | .replace files, id => dir.recordsIn files id

/-! ## What is asked for -/

/-- A list has the records that are stored, but for ratios, in the order of their ids. -/
structure Lists (listed : List HiddenRecord) (records : ItemId → Option HiddenRecord) : Prop where
  ascending : listed.Pairwise fun a b => compare a.entry.id b.entry.id = .lt
  record : ∀ id, (listed.find? (·.entry.id = id)).map unrated = (records id).map unrated

/-- Every record of a document opens under the key of the passkey and the salt of the document. -/
def Opens (document : SealedDocument) : Prop :=
  ∃ salt key, Text.Base64.decode? document.salt = some salt ∧ SealKey.derive dir.passkey salt = .ok key ∧
    ∀ r ∈ document.records, ∃ record, openRecord key r = .ok record

/-- An event of a directory with some records goes as it is to go. -/
def Serves (s : Sharing) (records : ItemId → Option HiddenRecord) : SharedEvent → Prop
  | .load backend entropy => ∃ listed, (dir.loadBy s backend entropy).answer = .ok listed ∧ Lists listed records
  | .save backend changes entropy =>
    (dir.saveBy s backend changes entropy).answer = .ok changes.size ∧
      ∃ document, dir.document (dir.saveBy s backend changes entropy).state.files hiddenFile = .ok (some document) ∧
        dir.Opens document ∧
        ∀ old : SealedDocument, dir.document s.files hiddenFile = .ok (some old) → document.salt = old.salt
  | .replace _ => True

/-- All events go as they are to go, one after the other. -/
def ServesAll : Sharing → (ItemId → Option HiddenRecord) → List SharedEvent → Prop
  | _, _, [] => True
  | s, records, event :: events =>
    dir.Serves s records event ∧ ServesAll (dir.after s event) (dir.recordsAfter records event) events

/-- The files fail an event. -/
def Fails (s : Sharing) : SharedEvent → Prop
  | .load backend entropy => (dir.loadBy s backend entropy).answer = .error .io
  | .save backend changes entropy => (dir.saveBy s backend changes entropy).answer = .error .io
  | .replace _ => False

/-- The files fail none of the events. -/
def Undisturbed : Sharing → List SharedEvent → Prop
  | _, [] => True
  | s, event :: events => ¬dir.Fails s event ∧ Undisturbed (dir.after s event) events

/-- Records are saved under the ids of their entries, and what takes the place of the files can be opened. -/
def Fair : SharedEvent → Prop
  | .load _ _ => True
  | .save _ changes _ => ∀ (id : ItemId) (change : Change HiddenRecord) (record : HiddenRecord),
      changes[id]? = some change → change.result = some record → record.entry.id = id
  | .replace files => ∃ stored, dir.hiddenIn files = .ok stored

/-! ## The invariant -/

/-- The keys that are kept belong to their salts, and the files have the records, but for ratios. -/
structure Agrees (s : Sharing) (records : ItemId → Option HiddenRecord) : Prop where
  keys : ∀ backend key, s.keys backend = some key → SealKey.derive dir.passkey key.salt = .ok key
  records : ∃ stored, dir.hiddenIn s.files = .ok stored ∧ ∀ id : ItemId, stored[id]?.map unrated = (records id).map unrated

end Events

variable {dir : StateDirectory} {s : Sharing} {records : ItemId → Option HiddenRecord}

theorem openRecord_of_mem {key : SealKey} {sealedRecords : List SealedRecord} {opened : List HiddenRecord}
    (h : openRecords key sealedRecords = .ok opened) : ∀ r ∈ sealedRecords, ∃ record, openRecord key r = .ok record := by
  induction sealedRecords generalizing opened with
  | nil => exact nofun
  | cons first rest ih =>
    rw [openRecords] at h
    intro r hr
    cases hfirst : openRecord key first with
    | error e =>
      rw [hfirst] at h
      cases h
    | ok record =>
      cases hrest : openRecords key rest with
      | error e =>
        rw [hfirst, hrest] at h
        cases h
      | ok others =>
        rcases List.mem_cons.1 hr with rfl | hr
        · exact ⟨record, hfirst⟩
        · exact ih hrest r hr

/-- How changes to the hidden records end: the files could not be changed, or a document was written. -/
theorem on_saveHidden_cases {d : Disk} (hpasskey : dir.passkey ≠ "") (hkey : dir.KeyFits d)
    {stored : Std.ExtTreeMap ItemId HiddenRecord} (hread : dir.hiddenIn d.files = .ok stored) (changes : HiddenChanges) :
    ∃ answer d', (dir.saveHidden changes).on d = (answer, d') ∧
      match answer with
      | .error e => e = .io
      | .ok count => count = changes.size ∧ dir.KeyFits d' ∧
          ∃ key sealedRecords, SealKey.derive dir.passkey key.salt = .ok key ∧
            openRecords key sealedRecords = .ok ((applyChanges stored changes).values.map reread) ∧
            dir.document d'.files hiddenFile = .ok (some (⟨key.saltText, sealedRecords⟩ : SealedDocument)) ∧
            ∀ old : SealedDocument, dir.document d.files hiddenFile = .ok (some old) → key.saltText = old.salt := by
  rcases on_saveHidden_eq hkey hread changes with ⟨hempty, -⟩ |
    ⟨key, sealedRecords, d₁, hfiles, hfits, hderive, hopen, hsalt, hon⟩
  · exact absurd hempty hpasskey
  · obtain ⟨answer, d', hwrite, hdone⟩ := on_writeDocument_cases hiddenFile_mem hfits
      (hfiles.files ▸ read_of_hiddenIn hread) (⟨key.saltText, sealedRecords⟩ : SealedDocument)
    rw [hon, on_bind, hwrite]
    cases answer with
    | error e => exact ⟨_, _, rfl, hdone.1⟩
    | ok _ => exact ⟨_, _, rfl, rfl, hdone.1, key, sealedRecords, hderive, hopen, hdone.2.1, hsalt⟩

namespace Agrees

theorem keyFits (h : dir.Agrees s records) (backend : Nat) (entropy : Entropy) : dir.KeyFits (s.disk backend entropy) :=
  h.keys backend

/-- A backend that leaves a key that belongs to its salt leaves all keys so. -/
theorem keys_left (h : dir.Agrees s records) (backend : Nat) {d : Disk} (hd : dir.KeyFits d) :
    ∀ other key, (s.left backend d).keys other = some key → SealKey.derive dir.passkey key.salt = .ok key := by
  intro other key hkey
  have hkey : Function.update s.keys backend d.key other = some key := hkey
  by_cases heq : other = backend
  · subst heq
    rw [Function.update_self] at hkey
    exact hd key hkey
  · rw [Function.update_of_ne heq] at hkey
    exact h.keys other key hkey

theorem opened {files : FileTree} {stored : Std.ExtTreeMap ItemId HiddenRecord} (h : dir.hiddenIn files = .ok stored) :
    dir.Agrees (.opened files) (dir.recordsIn files) where
  keys _ _ hkey := nomatch hkey
  records := ⟨stored, h, fun id => by rw [recordsIn, h]⟩

theorem load (h : dir.Agrees s records) (backend : Nat) (entropy : Entropy) :
    dir.Serves s records (.load backend entropy) ∧
      dir.Agrees (dir.after s (.load backend entropy)) (dir.recordsAfter records (.load backend entropy)) := by
  obtain ⟨hanswer, huntouched⟩ := loadHidden_eq (h.keyFits backend entropy)
  obtain ⟨stored, hstored, hrecords⟩ := h.records
  have hkeyed := keyed_hiddenIn hstored
  refine ⟨⟨stored.values, ?_, hkeyed.ascending_values, fun id => ?_⟩, ?_, stored, ?_, hrecords⟩
  · refine hanswer.trans ?_
    show (dir.hiddenIn s.files).map (·.values) = _
    rw [hstored]
    rfl
  · rw [hkeyed.find?_values, hrecords]
  · exact h.keys_left backend (huntouched.key (h.keyFits backend entropy))
  · show dir.hiddenIn (dir.backend.loadHidden (s.disk backend entropy)).state.files = _
    rw [huntouched.files]
    exact hstored

theorem save (hpasskey : dir.passkey ≠ "") (h : dir.Agrees s records) (backend : Nat) {changes : HiddenChanges}
    (entropy : Entropy) (hfair : dir.Fair (.save backend changes entropy))
    (hsmooth : ¬dir.Fails s (.save backend changes entropy)) :
    dir.Serves s records (.save backend changes entropy) ∧
      dir.Agrees (dir.after s (.save backend changes entropy))
        (dir.recordsAfter records (.save backend changes entropy)) := by
  obtain ⟨stored, hstored, hrecords⟩ := h.records
  obtain ⟨answer, d', hon, hdone⟩ := on_saveHidden_cases hpasskey (h.keyFits backend entropy) hstored changes
  obtain ⟨hanswer, hstate⟩ := call_eq (d := s.disk backend entropy) hon
  have hanswer : (dir.saveBy s backend changes entropy).answer = answer := hanswer
  have hstate : (dir.saveBy s backend changes entropy).state = d' := hstate
  cases answer with
  | error e => exact absurd (hanswer.trans (congrArg _ hdone)) hsmooth
  | ok count =>
    obtain ⟨rfl, hfits, key, sealedRecords, hderive, hopen, hdocument, hsalt⟩ := hdone
    have hkeyed : Keyed (fun record : HiddenRecord => record.entry.id) (applyChanges stored changes) :=
      (keyed_hiddenIn hstored).applyChanges hfair
    refine ⟨⟨hanswer, ⟨key.saltText, sealedRecords⟩, by rw [hstate, hdocument], ?_, hsalt⟩, ?_,
      (applyChanges stored changes).map fun _ => reread, ?_, fun id => ?_⟩
    · exact ⟨key.salt, key, Text.Base64.decode?_encode key.salt, hderive, openRecord_of_mem hopen⟩
    · rw [after, hstate]
      exact h.keys_left backend hfits
    · show dir.hiddenIn (dir.saveBy s backend changes entropy).state.files = _
      rw [hstate, hiddenIn, hdocument]
      exact openDocument_sealed hderive hkeyed hopen
    · have hreread : (fun record : HiddenRecord => unrated (reread record)) = unrated := funext Rated.unrated_reread
      rw [getElem?_map_eq, Option.map_map, Function.comp_def, hreread, getElem?_applyChanges, recordsAfter]
      cases hchange : changes[id]? with
      | none => exact hrecords id
      | some change =>
        obtain ⟨record, action⟩ := change
        cases action <;> rfl

end Agrees

theorem Agrees.step (hpasskey : dir.passkey ≠ "") (h : dir.Agrees s records) {event : SharedEvent}
    (hfair : dir.Fair event) (hsmooth : ¬dir.Fails s event) :
    dir.Serves s records event ∧ dir.Agrees (dir.after s event) (dir.recordsAfter records event) := by
  cases event with
  | load backend entropy => exact h.load backend entropy
  | save backend changes entropy => exact h.save hpasskey backend entropy hfair hsmooth
  | replace files =>
    obtain ⟨stored, hstored⟩ := hfair
    exact ⟨trivial, h.keys, (Agrees.opened hstored).records⟩

/-! ## All that happens -/

theorem servesAll_of_agrees (hpasskey : dir.passkey ≠ "") (events : List SharedEvent) (h : dir.Agrees s records)
    (hfair : ∀ event ∈ events, dir.Fair event) (hsmooth : dir.Undisturbed s events) : dir.ServesAll s records events := by
  induction events generalizing s records with
  | nil => trivial
  | cons event events ih =>
    obtain ⟨hfirst, hrest⟩ := hsmooth
    obtain ⟨hserves, hagrees⟩ := h.step hpasskey (hfair event List.mem_cons_self) hfirst
    exact ⟨hserves, ih hagrees (fun other ho => hfair other (List.mem_cons_of_mem _ ho)) hrest⟩

/-- **Whatever key a backend has kept, it reads what was stored and stores what can be read.** On a directory whose hidden
records can be opened with the passkey, every call succeeds that the files do not fail. -/
theorem servesAll_opened (hpasskey : dir.passkey ≠ "") {files : FileTree} {stored : Std.ExtTreeMap ItemId HiddenRecord}
    (hfiles : dir.hiddenIn files = .ok stored) (events : List SharedEvent) (hfair : ∀ event ∈ events, dir.Fair event)
    (hsmooth : dir.Undisturbed (.opened files) events) : dir.ServesAll (.opened files) (dir.recordsIn files) events :=
  servesAll_of_agrees hpasskey events (Agrees.opened hfiles) hfair hsmooth

/-! ## Directories that can be written -/

theorem Agrees.saveBy_ok (hpasskey : dir.passkey ≠ "") (h : dir.Agrees s records) (hw : dir.Writable s.files)
    (backend : Nat) (changes : HiddenChanges) (entropy : Entropy) :
    (dir.saveBy s backend changes entropy).answer = .ok changes.size ∧
      dir.Writable (dir.saveBy s backend changes entropy).state.files := by
  obtain ⟨stored, hstored, -⟩ := h.records
  have hready : dir.Ready (s.disk backend entropy) := ⟨rfl, hw⟩
  obtain ⟨d', hon, hafter⟩ := on_saveHidden_ok (h.keyFits backend entropy) hstored hready hpasskey changes
  obtain ⟨hanswer, hstate⟩ := call_eq (d := s.disk backend entropy) hon
  refine ⟨hanswer, ?_⟩
  rw [saveBy, show (dir.backend.saveHidden changes (s.disk backend entropy)).state = d' from hstate]
  exact hafter.writable

/-- Files that can be written, and are replaced by such, fail no call. -/
theorem undisturbed_of_writable (hpasskey : dir.passkey ≠ "") (events : List SharedEvent) (h : dir.Agrees s records)
    (hw : dir.Writable s.files) (hfair : ∀ event ∈ events, dir.Fair event)
    (hreplaced : ∀ files, .replace files ∈ events → dir.Writable files) : dir.Undisturbed s events := by
  induction events generalizing s records with
  | nil => trivial
  | cons event events ih =>
    have hstep : ¬dir.Fails s event ∧ dir.Writable (dir.after s event).files := by
      cases event with
      | load backend entropy =>
        obtain ⟨⟨listed, hanswer, -⟩, -⟩ := h.load backend entropy
        refine ⟨fun hfails => ?_, ?_⟩
        · rw [Fails, hanswer] at hfails
          cases hfails
        · show dir.Writable (dir.backend.loadHidden (s.disk backend entropy)).state.files
          rw [(loadHidden_eq (h.keyFits backend entropy)).2.files]
          exact hw
      | save backend changes entropy =>
        obtain ⟨hanswer, hwritable⟩ := h.saveBy_ok hpasskey hw backend changes entropy
        refine ⟨fun hfails => ?_, hwritable⟩
        rw [Fails, hanswer] at hfails
        cases hfails
      | replace files => exact ⟨id, hreplaced files List.mem_cons_self⟩
    obtain ⟨-, hagrees⟩ := h.step hpasskey (hfair event List.mem_cons_self) hstep.1
    exact ⟨hstep.1, ih hagrees hstep.2 (fun other ho => hfair other (List.mem_cons_of_mem _ ho))
      fun files hf => hreplaced files (List.mem_cons_of_mem _ hf)⟩

namespace Sample

/-- A supply of which every byte is the same. -/
def supply (b : UInt8) : Entropy := ⟨fun _ => b, 0⟩

/-- A hidden item; every byte of its id is the same. -/
def secret (b : UInt8) : HiddenRecord := ⟨⟨⟨.replicate 32 b⟩, 5⟩, .fresh ⟨.replicate 32 b⟩ "item" 10⟩

def change (b : UInt8) (record : Option HiddenRecord) (action : UpdatesAction) : HiddenChanges :=
  (∅ : HiddenChanges).insert (secret b).entry.id ⟨record, action⟩

/-- The files of another directory with the same passkey, whose salt is another one. -/
def elsewhere : FileTree := (vault.saveBy (.opened ∅) 0 (change 3 (some (secret 3)) .add) (supply 7)).state.files

/-- Two backends take turns, and in between the files are replaced. -/
def events : List SharedEvent :=
  [.save 0 (change 1 (some (secret 1)) .add) (supply 1), .load 1 (supply 2),
    .save 1 (change 2 (some (secret 2)) .update) (supply 3), .replace elsewhere, .load 0 (supply 4),
    .save 0 (change 3 none .remove) (supply 5), .save 1 (change 1 (some (secret 1)) .add) (supply 6), .load 0 (supply 8)]

theorem fair_change (backend : Nat) {b : UInt8} {record : Option HiddenRecord}
    (hrecord : record = none ∨ record = some (secret b)) (action : UpdatesAction) (entropy : Entropy) :
    vault.Fair (.save backend (change b record action) entropy) := by
  intro id c r hc hr
  rw [change, Std.ExtTreeMap.getElem?_insert] at hc
  split at hc
  · rename_i hid
    obtain rfl := Option.some.inj hc
    have hsome : record = some r := by
      cases action with
      | remove => cases hr
      | _ => exact hr
    rcases hrecord with hnone | hsecret
    · rw [hnone] at hsome
      cases hsome
    · rw [← Option.some.inj (hsecret.symm.trans hsome)]
      exact Std.compare_eq_iff_eq.1 hid
  · rw [Std.ExtTreeMap.getElem?_empty] at hc
    cases hc

/-- There is no document at first, and where the other files come from neither. -/
theorem agrees_fresh : vault.hiddenIn ∅ = .ok ∅ ∧ vault.Writable ∅ := by
  have hread : (∅ : FileTree).read (vault.file hiddenFile) = .error .notFound := by decide +kernel
  exact ⟨by rw [hiddenIn, document, hread], by decide +kernel⟩

theorem elsewhere_opens : (∃ stored, vault.hiddenIn elsewhere = .ok stored) ∧ vault.Writable elsewhere := by
  have hpasskey : vault.passkey ≠ "" := by decide
  obtain ⟨hread, hwritable⟩ := agrees_fresh
  have hfresh := Agrees.opened hread
  have hfair := fair_change 0 (Or.inr (rfl : some (secret 3) = some (secret 3))) .add (supply 7)
  obtain ⟨hanswer, hafter⟩ := hfresh.saveBy_ok hpasskey hwritable 0 (change 3 (some (secret 3)) .add) (supply 7)
  have hsaved := hfresh.save hpasskey 0 (supply 7) hfair fun hfails => by
    rw [Fails, hanswer] at hfails
    cases hfails
  obtain ⟨stored, hstored, -⟩ := hsaved.2.records
  exact ⟨⟨stored, hstored⟩, hafter⟩

theorem fair_events : ∀ event ∈ events, vault.Fair event := by
  intro event hevent
  simp only [events, List.mem_cons, List.not_mem_nil, or_false] at hevent
  rcases hevent with rfl | rfl | rfl | rfl | rfl | rfl | rfl | rfl
  · exact fair_change _ (Or.inr rfl) _ _
  · trivial
  · exact fair_change _ (Or.inr rfl) _ _
  · exact elsewhere_opens.1
  · trivial
  · exact fair_change _ (Or.inl rfl) _ _
  · exact fair_change _ (Or.inr rfl) _ _
  · trivial

theorem undisturbed_events : vault.Undisturbed (.opened ∅) events := by
  obtain ⟨hread, hwritable⟩ := agrees_fresh
  refine undisturbed_of_writable (by decide) events (Agrees.opened hread) hwritable fair_events fun files hfiles => ?_
  simp only [events, List.mem_cons, List.not_mem_nil, reduceCtorEq, SharedEvent.replace.injEq, false_or, or_false] at hfiles
  rw [hfiles]
  exact elsewhere_opens.2

end Sample

/-- Two backends of a directory that is empty at first, and is replaced by one with another salt later on. -/
theorem servesAll_opened_sample :
    Sample.vault.passkey ≠ "" ∧ Sample.vault.hiddenIn ∅ = .ok ∅ ∧ (∀ event ∈ Sample.events, Sample.vault.Fair event) ∧
      Sample.vault.Undisturbed (.opened ∅) Sample.events ∧
      Sample.vault.ServesAll (.opened ∅) (Sample.vault.recordsIn ∅) Sample.events :=
  ⟨by decide, Sample.agrees_fresh.1, Sample.fair_events, Sample.undisturbed_events,
    servesAll_opened (by decide) Sample.agrees_fresh.1 Sample.events Sample.fair_events Sample.undisturbed_events⟩

end StateDirectory

end TransferRegistry
