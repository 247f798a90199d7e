import Mathlib.Data.List.DropRight
import TransferRegistry.Config.Validate
import TransferRegistry.Proofs.Pattern
import TransferRegistry.Proofs.Seed
import TransferRegistry.Proofs.Text

/-!
# What configurations pass

* `validateValue_levelPattern`: a level passes where its name can be read.
* `validateValue_seedPattern`: a seed passes where it is `Visible`, not empty and without a blank;
  `validateSeeds_eq_ok` is a list of them.
* `Configuration.validate_eq_ok`: a configuration passes exactly where it is `Valid`.
* `Configuration.validate_generate`: a generated configuration passes, whatever was drawn.
-/

namespace TransferRegistry

open Text (isBlank)

/-! ## Rules -/

section

variable {x y : Except ConfigError Unit}

theorem andThen_eq_ok : (do x; y) = .ok () ↔ x = .ok () ∧ y = .ok () := by
  cases x with
  | error e => exact ⟨nofun, nofun⟩
  | ok _ => exact ⟨fun hy => ⟨rfl, hy⟩, And.right⟩

/-- What is refused for a condition passes only without it. -/
theorem refuse_eq_ok {P : Prop} [Decidable P] (hx : x ≠ .ok ()) : (if P then x else y) = .ok () ↔ ¬ P ∧ y = .ok () := by
  by_cases h : P
  · rw [if_pos h]
    exact ⟨fun hok => absurd hok hx, fun hok => absurd h hok.1⟩
  · rw [if_neg h]
    exact ⟨fun hok => ⟨h, hok⟩, And.right⟩

end

theorem validateValue_eq_ok {name value pattern : String} {p : Pattern} (hp : Pattern.parse? pattern = some p) :
    validateValue name value pattern = .ok () ↔ p.matchesIn value = true := by
  unfold validateValue
  rw [hp]
  cases hmatch : p.matchesIn value with
  | true => simp only [hmatch, if_true]
  | false => simp only [hmatch, Bool.false_eq_true, if_false, reduceCtorEq]

/-! ## Levels -/

theorem parse?_levelPattern : Pattern.parse? levelPattern =
    some (.whole (.oneOf "off" ["trace", "debug", "info", "warn", "error"])) := by
  decide +kernel

theorem parseLevel_iff {name : String} :
    (∃ level, parseLevel name = .ok level) ↔ ∃ level ∈ LevelFilter.all, level.name = name := by
  have hfound : (LevelFilter.parse? name).isSome = true ↔ ∃ level ∈ LevelFilter.all, level.name = name := by
    rw [LevelFilter.parse?, List.find?_isSome]
    simp only [decide_eq_true_eq]
  rw [← hfound, parseLevel]
  cases LevelFilter.parse? name with
  | none => simp only [reduceCtorEq, exists_false, Option.isSome_none, Bool.false_eq_true]
  | some level => exact ⟨fun _ => rfl, fun _ => ⟨level, rfl⟩⟩

/-- The pattern has the names of the filters, and no others. -/
theorem validateValue_levelPattern {field name : String} :
    validateValue field name levelPattern = .ok () ↔ ∃ level, parseLevel name = .ok level := by
  have hnames : ∀ text, text ∈ ["off", "trace", "debug", "info", "warn", "error"] ↔
      ∃ level ∈ LevelFilter.all, level.name = text := by
    intro text
    simp only [LevelFilter.all, LevelFilter.name, List.mem_cons, List.not_mem_nil, or_false, exists_eq_or_imp,
      exists_eq_left, eq_comm (a := text)]
    tauto
  rw [validateValue_eq_ok parse?_levelPattern, Pattern.matchesIn_whole, Pattern.match_oneOf, parseLevel_iff, ← hnames]
  simp only [String.toList_inj, exists_eq_right']

/-! ## Seeds -/

/-- A text with something in it, and no blank. -/
def Visible (text : String) : Prop := text.toList ≠ [] ∧ ∀ c ∈ text.toList, isBlank c = false

/-- The characters of a seed. -/
def seedSet : CharSet := .not (.kind .blank)

theorem parse?_seedPattern : Pattern.parse? seedPattern = some (.whole (.times (.char seedSet) 1 none)) := by
  decide +kernel

theorem matchesIn_seedSet {seed : String} :
    (Pattern.whole (.times (.char seedSet) 1 none)).matchesIn seed = true ↔ Visible seed := by
  rw [Pattern.matchesIn_whole, Pattern.match_plus]
  simp only [Visible, seedSet, CharSet.contains, CharKind.contains, Bool.not_eq_true']

theorem validateValue_seedPattern {name seed : String} :
    validateValue name seed seedPattern = .ok () ↔ Visible seed :=
  (validateValue_eq_ok parse?_seedPattern).trans matchesIn_seedSet

theorem validateSeeds_eq_ok {seeds : List String} {index : Nat} :
    validateSeeds index seeds = .ok () ↔ ∀ seed ∈ seeds, Visible seed := by
  induction seeds generalizing index with
  | nil => exact ⟨fun _ => List.forall_mem_nil _, fun _ => rfl⟩
  | cons seed rest ih => rw [validateSeeds, andThen_eq_ok, validateValue_seedPattern, ih, List.forall_mem_cons]

theorem IsSeed.visible {length : Nat} {seed : String} (h : IsSeed length seed) (hlength : length ≠ 0) :
    Visible seed := by
  have hcharset : seedCharset.all (fun c => !isBlank c) = true := by decide +kernel
  constructor
  · intro hnil
    rw [← h.length_eq, hnil] at hlength
    exact hlength rfl
  · intro c hc
    rw [← Bool.not_eq_true']
    exact List.all_eq_true.1 hcharset c (h.drawn c hc)

/-! ## Configurations -/

/-- A text without the blanks at its ends. -/
def trimmed (text : String) : List Char := (text.toList.dropWhile isBlank).rdropWhile isBlank

theorem isBlankText_iff {text : String} : isBlankText text = true ↔ trimmed text = [] := by
  rw [isBlankText, trimmed, List.rdropWhile_eq_nil_iff, List.all_eq_true]
  constructor
  · exact fun h c hc => h c ((List.dropWhile_sublist isBlank).mem hc)
  · intro h c hc
    rw [← List.takeWhile_append_dropWhile (p := isBlank) (l := text.toList)] at hc
    rcases List.mem_append.1 hc with hfront | hrest
    · exact List.mem_takeWhile_imp hfront
    · exact h c hrest

/-- What the fields of a configuration have to be. -/
structure Configuration.Valid (c : Configuration) : Prop where
  level : ∃ level, parseLevel c.logLevel = .ok level
  seeds : ∀ seed ∈ c.seeds.defaultSeeds, Visible seed
  length : 1 ≤ c.seeds.seedLength.toNat ∧ c.seeds.seedLength.toNat ≤ 256
  count : c.seeds.seedCount.toNat ≤ 64
  path : c.persistence.enabled = true → trimmed c.persistence.path ≠ []
  interval : c.persistence.enabled = true → c.persistence.interval ≠ 0
  passkey : c.persistence.enabled = true → c.core.hiddenPasskey ≠ ""

theorem SeedGeneration.validate_eq_ok {g : SeedGeneration} : g.validate = .ok () ↔
    (∀ seed ∈ g.defaultSeeds, Visible seed) ∧ (1 ≤ g.seedLength.toNat ∧ g.seedLength.toNat ≤ 256) ∧
      g.seedCount.toNat ≤ 64 := by
  have hlength : ¬ (g.seedLength = 0 ∨ seedLimits.length < g.seedLength) ↔
      1 ≤ g.seedLength.toNat ∧ g.seedLength.toNat ≤ 256 := by
    rw [not_or, UInt64.not_lt, UInt64.le_iff_toNat_le, ← UInt64.toNat_inj]
    exact and_congr_left' Nat.one_le_iff_ne_zero.symm
  have hcount : ¬ seedLimits.count < g.seedCount ↔ g.seedCount.toNat ≤ 64 := by
    rw [UInt64.not_lt, UInt64.le_iff_toNat_le]
    rfl
  unfold validate
  rw [andThen_eq_ok, validateSeeds_eq_ok, ← hlength, ← hcount]
  refine and_congr_right' ((refuse_eq_ok (by nofun)).trans (and_congr_right' ((refuse_eq_ok (by nofun)).trans ?_)))
  exact and_iff_left rfl

theorem Configuration.validatePersistence_eq_ok {c : Configuration} : c.validatePersistence = .ok () ↔
    (c.persistence.enabled = true →
      trimmed c.persistence.path ≠ [] ∧ c.persistence.interval ≠ 0 ∧ c.core.hiddenPasskey ≠ "") := by
  unfold validatePersistence
  cases c.persistence.enabled with
  | false => exact ⟨fun _ => nofun, fun _ => rfl⟩
  | true =>
    rw [if_pos rfl, forall_prop_of_true rfl, ne_eq, ne_eq, ne_eq, ← isBlankText_iff, ← String.isEmpty_iff]
    refine (refuse_eq_ok (by nofun)).trans (and_congr_right' ((refuse_eq_ok (by nofun)).trans (and_congr_right' ?_)))
    exact (refuse_eq_ok (by nofun)).trans (and_iff_left rfl)

/-- **A configuration passes exactly where it is valid.** -/
theorem Configuration.validate_eq_ok {c : Configuration} : c.validate = .ok () ↔ c.Valid := by
  rw [validate, andThen_eq_ok, andThen_eq_ok, validateValue_levelPattern, SeedGeneration.validate_eq_ok,
    validatePersistence_eq_ok]
  constructor
  · rintro ⟨hlevel, ⟨hseeds, hlength, hcount⟩, hstored⟩
    exact ⟨hlevel, hseeds, hlength, hcount, fun h => (hstored h).1, fun h => (hstored h).2.1, fun h => (hstored h).2.2⟩
  · intro h
    exact ⟨h.level, ⟨h.seeds, h.length, h.count⟩, fun he => ⟨h.path he, h.interval he, h.passkey he⟩⟩

/-! ## Generated configurations -/

theorem isEmpty_passkey (e : Entropy) : (Passkey.generate e).1.isEmpty = false := by
  have hbytes : (e.take Passkey.randomBytes).1 ≠ [] := by
    apply List.ne_nil_of_length_pos
    rw [e.length_take]
    decide
  exact Text.Base64.isEmpty_encodeUrl hbytes

namespace Configuration

variable (e : Entropy)

theorem defaultSeeds_generate : (generate e).1.seeds.defaultSeeds =
    (generateSeeds newSeedCount newSeedLength (Passkey.generate e).2).1 := by
  simp only [generate]

theorem valid_generate : (generate e).1.Valid where
  level := by
    change ∃ level, parseLevel "info" = .ok level
    exact ⟨.info, rfl⟩
  seeds seed hseed := by
    rw [defaultSeeds_generate] at hseed
    have hdrawn := (generateSeeds_spec newSeedCount newSeedLength (Passkey.generate e).2).2
    exact (hdrawn seed hseed).visible (by decide)
  length := by
    change 1 ≤ (UInt64.ofNat newSeedLength).toNat ∧ (UInt64.ofNat newSeedLength).toNat ≤ 256
    decide
  count := by
    change (UInt64.ofNat newSeedCount).toNat ≤ 64
    decide
  path _ := by
    change trimmed "./data" ≠ []
    decide +kernel
  interval _ := by
    change (60 : UInt64) ≠ 0
    decide
  passkey _ := by
    rw [ne_eq, ← String.isEmpty_iff, Bool.not_eq_true]
    exact isEmpty_passkey e

/-- A generated configuration passes, whatever was drawn. -/
theorem validate_generate : (generate e).1.validate = .ok () := validate_eq_ok.2 (valid_generate e)

end Configuration

end TransferRegistry
