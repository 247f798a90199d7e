import TransferRegistry.Config.Toml
import TransferRegistry.Proofs.Text
import TransferRegistry.Proofs.Toml.Document

/-!
# The configuration file is read as it was written

* `Configuration.lines`: the lines of the file with what they say; each is read as this (`readsLine_of_mem_lines`).
* `Configuration.table`: the table that the lines make (`foldlM_lines`); the configuration is read from it
  (`ofValue?_table`).
* `Configuration.ofToml?_toToml`, `Configuration.ofBytes?_utf8`: the text and the bytes of the file.
-/

namespace TransferRegistry.Configuration

open Toml (Statement Document Table Reads ReadsLine IsKey assignment heading quoted naturalText booleanText stringsText)

variable (c : Configuration)

/-- The lines of the file, each with what it says. -/
def lines : List (List Char × Statement) :=
  [(assignment "log_level" (quoted c.logLevel), .assignment [] "log_level" (.string c.logLevel)),
    (heading "core", .header [] "core"),
    (assignment "hidden_passkey" (quoted c.core.hiddenPasskey),
      .assignment [] "hidden_passkey" (.string c.core.hiddenPasskey)),
    (heading "seeds", .header [] "seeds"),
    (assignment "seed_length" (naturalText c.seeds.seedLength.toNat),
      .assignment [] "seed_length" (.integer c.seeds.seedLength.toNat)),
    (assignment "seed_count" (naturalText c.seeds.seedCount.toNat),
      .assignment [] "seed_count" (.integer c.seeds.seedCount.toNat)),
    (assignment "default_seeds" (stringsText c.seeds.defaultSeeds),
      .assignment [] "default_seeds" (.array (c.seeds.defaultSeeds.map .string))),
    (heading "persistence", .header [] "persistence"),
    (assignment "enabled" (booleanText c.persistence.enabled),
      .assignment [] "enabled" (.boolean c.persistence.enabled)),
    (assignment "path" (quoted c.persistence.path), .assignment [] "path" (.string c.persistence.path)),
    (assignment "interval" (naturalText c.persistence.interval.toNat),
      .assignment [] "interval" (.integer c.persistence.interval.toNat))]

theorem tomlChars_eq : c.tomlChars = c.lines.flatMap (·.1) := by
  simp only [tomlChars, lines, List.flatMap_cons, List.flatMap_nil, List.append_assoc, List.append_nil]

/-- The table that the lines make. -/
def table : Table :=
  [("log_level", .value (.string c.logLevel)),
    ("core", .table .header [("hidden_passkey", .value (.string c.core.hiddenPasskey))]),
    ("seeds", .table .header
      [("seed_length", .value (.integer c.seeds.seedLength.toNat)),
        ("seed_count", .value (.integer c.seeds.seedCount.toNat)),
        ("default_seeds", .value (.array (c.seeds.defaultSeeds.map .string)))]),
    ("persistence", .table .header
      [("enabled", .value (.boolean c.persistence.enabled)), ("path", .value (.string c.persistence.path)),
        ("interval", .value (.integer c.persistence.interval.toNat))])]

theorem foldlM_lines : (c.lines.map (·.2)).foldlM Document.add? ⟨[], []⟩ = some ⟨c.table, ["persistence"]⟩ := rfl

theorem uint64?_toNat (n : UInt64) : Toml.uint64? (.integer n.toNat) = some n := by
  rw [Toml.uint64?, if_pos ⟨Int.natCast_nonneg _, n.toNat_lt⟩, Int.toNat_natCast, UInt64.ofNat_toNat]

theorem strings?_map (ss : List String) : Toml.strings? (.array (ss.map .string)) = some ss := by
  rw [Toml.strings?]
  induction ss with
  | nil => rfl
  | cons s ss ih =>
    rw [List.map_cons, List.mapM_cons, ih]
    rfl

theorem ofToml?_core (c : CoreConfig) :
    CoreConfig.ofToml? (.table [("hidden_passkey", .string c.hiddenPasskey)]) = some c := rfl

theorem ofToml?_seeds (g : SeedGeneration) :
    SeedGeneration.ofToml? (.table [("seed_length", .integer g.seedLength.toNat),
      ("seed_count", .integer g.seedCount.toNat), ("default_seeds", .array (g.defaultSeeds.map .string))]) = some g := by
  simp [SeedGeneration.ofToml?, Toml.fields?, List.lookup_cons, uint64?_toNat, strings?_map]

theorem ofToml?_persistence (p : PersistenceConfig) :
    PersistenceConfig.ofToml? (.table [("enabled", .boolean p.enabled), ("path", .string p.path),
      ("interval", .integer p.interval.toNat)]) = some p := by
  simp [PersistenceConfig.ofToml?, Toml.fields?, Toml.boolean?, Toml.string?, List.lookup_cons, uint64?_toNat]

theorem ofValue?_table : ofValue? c.table.toToml = some c := by
  simp [ofValue?, table, Table.toToml, Table.entryValues, Table.entryValue, Toml.fields?, Toml.string?, List.lookup_cons,
    ofToml?_core, ofToml?_seeds, ofToml?_persistence]

/-! ## Reading the lines -/

/-- How many values and lines a reader may have to go through for the strings in brackets. -/
def leastFuel : Nat := c.seeds.defaultSeeds.length + 3

theorem readsLine_of_mem_lines {line : List Char × Statement} (h : line ∈ c.lines) :
    ReadsLine c.leastFuel line.1 line.2 := by
  have hassignment : ∀ {key : String} {text : List Char} {v : Toml}, IsKey key → (∀ fuel, Reads (fuel + 1) text v) →
      ReadsLine c.leastFuel (assignment key text) (.assignment [] key v) := by
    intro key text v hkey hreads
    exact (Toml.readsLine_assignment hkey fun fuel (_ : 0 ≤ fuel) => hreads fuel).mono (by unfold leastFuel; omega)
  have hheading : ∀ {key : String}, IsKey key → ReadsLine c.leastFuel (heading key) (.header [] key) :=
    fun hkey => (Toml.readsLine_heading hkey).mono (by unfold leastFuel; omega)
  simp only [lines, List.mem_cons, List.not_mem_nil, or_false] at h
  rcases h with rfl | rfl | rfl | rfl | rfl | rfl | rfl | rfl | rfl | rfl | rfl
  · exact hassignment (by decide) (Toml.reads_quoted _)
  · exact hheading (by decide)
  · exact hassignment (by decide) (Toml.reads_quoted _)
  · exact hheading (by decide)
  · exact hassignment (by decide) (Toml.reads_naturalText (UInt64.toNat_lt_size _))
  · exact hassignment (by decide) (Toml.reads_naturalText (UInt64.toNat_lt_size _))
  · apply Toml.readsLine_assignment (by decide)
    intro fuel hfuel
    exact Toml.reads_stringsText _ (by omega)
  · exact hheading (by decide)
  · exact hassignment (by decide) (Toml.reads_booleanText _)
  · exact hassignment (by decide) (Toml.reads_quoted _)
  · exact hassignment (by decide) (Toml.reads_naturalText (UInt64.toNat_lt_size _))

theorem length_assignment (key : String) (text : List Char) :
    (assignment key text).length = key.toList.length + text.length + 4 := by
  simp only [assignment, List.length_append, List.length_cons, List.length_nil]
  omega

/-- There are more characters than that. -/
theorem leastFuel_le : c.leastFuel + c.lines.length ≤ c.tomlChars.length + 1 := by
  have hseeds := Toml.length_le_length_stringsText c.seeds.defaultSeeds
  have hlevel : "log_level".toList.length = 9 := rfl
  have hlines : c.lines.length = 11 := rfl
  simp only [tomlChars, List.length_append, length_assignment, hlevel, hlines, leastFuel]
  omega

theorem statements?_tomlChars : Toml.statements? (c.tomlChars.length + 2) c.tomlChars = some (c.lines.map (·.2)) := by
  have hread := Toml.statements?_lines c.lines (fun _ h => c.readsLine_of_mem_lines h) c.leastFuel_le
  rwa [← tomlChars_eq] at hread

/-! ## Results -/

/-- The text of the file is read as the configuration. -/
theorem ofToml?_toToml : ofToml? c.toToml = some c := by
  have hmark : Toml.dropMark c.tomlChars = c.tomlChars := rfl
  have hparse : Toml.parse? c.toToml = some c.table.toToml := by
    rw [Toml.parse?, toToml, String.toList_ofList]
    simp only [hmark, statements?_tomlChars, Option.bind_eq_bind, Option.bind_some, foldlM_lines]
    rfl
  rw [ofToml?, hparse]
  exact c.ofValue?_table

theorem ofBytes?_utf8 : ofBytes? (Text.utf8 c.toToml) = some c := by
  rw [ofBytes?, Text.ofUtf8Lossy_utf8, ofToml?_toToml]

end TransferRegistry.Configuration
