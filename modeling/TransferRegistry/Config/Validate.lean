import TransferRegistry.Config.Basic
import TransferRegistry.Log.Event
import TransferRegistry.Pattern.Parser

/-!
# What a configuration has to be

* `validateValue` requires a text to match a pattern.
* `Configuration.validate` refuses a configuration for the first rule that it breaks.
* `Configuration.passkeyWarnings` are the warnings for a passkey that is empty or weak; neither is refused for that.
-/

namespace TransferRegistry

/-- Why there is no configuration to go on with. -/
inductive ConfigError where
  | mismatch (name value pattern : String)
  | invalidPattern (pattern : String)
  | seedLength (found : UInt64)
  | seedCount (found : UInt64)
  | pathMissing
  | intervalZero
  | passkeyMissing
  | unknownLevel (name : String)
  /-- There is no readable file, and none was to be made. -/
  | absent
  /-- A new file was made, which has to be looked at first. -/
  | created
  | notCreated
deriving DecidableEq

/-- The greatest seed parameters. -/
structure SeedLimits where
  length : UInt64
  count : UInt64

/-- At most 64 seeds of at most 256 characters. -/
def seedLimits : SeedLimits := ⟨256, 64⟩

def ConfigError.message : ConfigError → String
  | mismatch name value pattern =>
    s!"[VALIDATE CONFIG] Error checking {name} [:] Value: \"{value}\" [:] Regex: \"{pattern}\""
  | invalidPattern pattern => s!"[VALIDATE CONFIG] Invalid regex {pattern}: regex parse error:"
  | seedLength found =>
    s!"[VALIDATE CONFIG] [seeds] seed_length must be between 1 and {seedLimits.length}, got {found}"
  | seedCount found => s!"[VALIDATE CONFIG] [seeds] seed_count must be at most {seedLimits.count}, got {found}"
  | pathMissing => "[VALIDATE CONFIG] [persistence] path is required when persistence is enabled"
  | intervalZero => "[VALIDATE CONFIG] [persistence] interval must be greater than 0"
  | passkeyMissing => "[VALIDATE CONFIG] [core] hidden_passkey is required when persistence is enabled"
  | unknownLevel name => s!"Unknown log level encountered: '{name}'"
  | absent => "will not create config file automatically"
  | created => "created config file"
  | notCreated => "could not create config file"

def parseLevel (name : String) : Except ConfigError LevelFilter :=
  match LevelFilter.parse? name with
  | some level => .ok level
  | none => .error (.unknownLevel name)

/-- Requires a text to match a pattern. -/
def validateValue (name value pattern : String) : Except ConfigError Unit :=
  match Pattern.parse? pattern with
  | none => .error (.invalidPattern pattern)
  | some p => if p.matchesIn value then .ok () else .error (.mismatch name value pattern)

/-- The pattern of the names of log levels. -/
def levelPattern : String := "^(off|trace|debug|info|warn|error)$"

def seedPattern : String := "^\\S+$"

def isBlankText (s : String) : Bool := s.toList.all Text.isBlank

/-- Requires seeds to match their pattern; the number of the first is given. -/
def validateSeeds (index : Nat) : List String → Except ConfigError Unit
  | [] => .ok ()
  | seed :: rest => do
    validateValue s!"[seeds] default_seeds[{index}]" seed seedPattern
    validateSeeds (index + 1) rest

namespace SeedGeneration

/-- Refuses seed parameters for the first rule that they break: the given seeds, their length, their number. -/
def validate (g : SeedGeneration) : Except ConfigError Unit := do
  validateSeeds 0 g.defaultSeeds
  if g.seedLength = 0 ∨ seedLimits.length < g.seedLength then throw (.seedLength g.seedLength)
  if seedLimits.count < g.seedCount then throw (.seedCount g.seedCount)

end SeedGeneration

namespace Configuration

/-- What storing the state needs. -/
def validatePersistence (c : Configuration) : Except ConfigError Unit := do
  if c.persistence.enabled then
    if isBlankText c.persistence.path then throw .pathMissing
    if c.persistence.interval = 0 then throw .intervalZero
    if c.core.hiddenPasskey.isEmpty then throw .passkeyMissing

/-- Refuses a configuration for the first rule that it breaks. -/
def validate (c : Configuration) : Except ConfigError Unit := do
  validateValue "log_level" c.logLevel levelPattern
  c.seeds.validate
  c.validatePersistence

/-- The warnings for a passkey that is empty or weak. -/
def passkeyWarnings (c : Configuration) : List Event :=
  if c.core.hiddenPasskey.isEmpty then [.passkeyEmpty]
  else if !Passkey.strong c.core.hiddenPasskey then [.passkeyWeak]
  else []

end Configuration

end TransferRegistry
