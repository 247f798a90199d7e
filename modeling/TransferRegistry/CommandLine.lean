import TransferRegistry.Config.Load
import TransferRegistry.Registry.Flush
import TransferRegistry.Registry.Load
import TransferRegistry.Storage.Directory

/-!
# The command line

* `Invocation.parse?` reads the arguments.
* `boot` loads the configuration and the state, or ends the program with what was asked for or with an error.
* `Service.tick` stores what has changed, again and again while the program runs, and `Service.shutdown` does so at
  its end.
* `run` is a whole run of the program, with the first of those ticks.
-/

namespace TransferRegistry

/-! ## Arguments -/

/-- What the arguments ask for. -/
structure Invocation where
  config : String
  createConfig : Bool
  generateSeeds : Bool
  generatePasskey : Bool
  status : Bool

namespace Invocation

def plain : Invocation := ⟨"config.toml", false, false, false, false⟩

/-- The value of an argument `name=value`. -/
def valueOf? (name arg : String) : Option String :=
  let start := name.toList ++ ['=']
  if start.isPrefixOf arg.toList then some (String.ofList (arg.toList.drop start.length)) else none

/-- Whether an argument is no value: it starts with a dash and is longer than that. -/
def isFlag (arg : String) : Bool :=
  match arg.toList with
  | '-' :: _ :: _ => true
  | _ => false

/-- Reads arguments, each at most once; `named` says whether the configuration file was named. -/
def parseFrom? (i : Invocation) (named : Bool) : List String → Option Invocation
  | [] => some i
  | "--create-config" :: rest => if i.createConfig then none else parseFrom? { i with createConfig := true } named rest
  | "--generate-seeds" :: rest =>
    if i.generateSeeds then none else parseFrom? { i with generateSeeds := true } named rest
  | "--generate-passkey" :: rest =>
    if i.generatePasskey then none else parseFrom? { i with generatePasskey := true } named rest
  | "--status" :: rest => if i.status then none else parseFrom? { i with status := true } named rest
  | "--config" :: path :: rest =>
    if named || isFlag path then none else parseFrom? { i with config := path } true rest
  | arg :: rest =>
    match valueOf? "--config" arg with
    | some path => if named then none else parseFrom? { i with config := path } true rest
    | none => none

def parse? (args : List String) : Option Invocation := parseFrom? plain false args

end Invocation

/-! ## Output -/

/-- What is written to the standard output. -/
inductive Output where
  | line (text : String)
  | event (e : Event)
  | status (v : Json)

namespace Event

def colour : Severity → Nat
  | .error => 31
  | .warn => 33
  | .info => 32
  | .debug => 35

/-- The label of a severity, as long as the longest of them. -/
def paddedLabel (s : Severity) : String :=
  let label := s.label
  String.ofList (label.toList ++ List.replicate (5 - label.length) ' ')

def line (time : String) (e : Event) : String :=
  s!"{time} [\x1b[{colour e.severity}m{paddedLabel e.severity}\x1b[0m][{e.origin.path}] {e.text}"

end Event

def Output.text (time : String) : Output → String
  | line text => text
  | event e => e.line time
  | status v => v.pretty

/-- What a run leaves so far: the files and what they were after each change, the random supply, and what was
written. -/
structure Progress where
  files : FileTree
  history : List FileTree
  entropy : Entropy
  out : List Output
  err : List String

/-- A run at its start. -/
def Progress.start (files : FileTree) (entropy : Entropy) : Progress := ⟨files, [], entropy, [], []⟩

/-- The run after something was done to the disk. -/
def Progress.onDisk (p : Progress) (d : Disk) : Progress :=
  { p with files := d.files, history := p.history ++ d.history, entropy := d.entropy }

/-- Writes events that the filter shows. -/
def Progress.log (p : Progress) (level : LevelFilter) (events : List Event) : Progress :=
  { p with out := p.out ++ (events.filter fun e => level.shows e.severity).map .event }

/-! ## Start -/

/-- The program while it runs. -/
structure Service where
  config : Configuration
  level : LevelFilter
  registry : Registry
  /-- The state directory and its last key, if state is stored. -/
  directory : Option (StateDirectory × Option SealKey)

/-- What the start of the program comes to. -/
inductive Booted where
  | ended (code : Nat) (p : Progress)
  | serving (s : Service) (p : Progress)

/-- The name and the version of the program. -/
structure Release where
  name : String
  version : String

def release : Release := ⟨"swarm-keeper", "0.1.0"⟩

def Registry.status (r : Registry) : Json :=
  .record
    [("items", .ofNat r.itemCount), ("hidden", .ofNat r.hiddenCount), ("seeds", Json.toJson r.seeds.config),
      ("stats", Json.toJson r.stats)]

/-- Opens the state directory and loads what is in it. -/
def openState (s : Service) (p : Progress) : Booted :=
  let path := s.config.persistence.path
  let dir : StateDirectory := ⟨FilePath.ofText path, s.config.core.hiddenPasskey⟩
  let opened := (dir.create path).call (.start p.files none p.entropy)
  let p := p.onDisk opened.state |>.log s.level opened.log
  match opened.answer with
  | .error e => .ended 1 (p.log s.level [.openFailed path e])
  | .ok _ =>
    let loaded := s.registry.load dir.backend (.start p.files none p.entropy)
    let disk := loaded.state.2
    let p := p.onDisk disk |>.log s.level loaded.log
    match loaded.answer with
    | .error e => .ended 1 (p.log s.level [.loadFailed e])
    | .ok _ => .serving { s with registry := loaded.state.1, directory := some (dir, disk.key) } p

/-- Goes on with a loaded configuration. -/
def startService (config : Configuration) (level : LevelFilter) (now : Int64) (p : Progress) : Booted :=
  let s : Service := ⟨config, level, .start config now, none⟩
  let p := p.log level ([.loggingStarted, .programStarted release.name release.version] ++ config.passkeyWarnings)
  if config.persistence.enabled then openState s p
  else .serving s (p.log level [.persistenceDisabled])

def boot (i : Invocation) (files : FileTree) (now : Int64) (e : Entropy) : Booted :=
  if i.generatePasskey then
    let (passkey, e) := Passkey.generate e
    .ended 0 { Progress.start files e with out := [.line passkey] }
  else
    let loading := Configuration.load files i.config i.createConfig e
    let p : Progress :=
      { Progress.start loading.files loading.entropy with
        out := loading.notes.map .line, err := loading.warnings }
    let failed (e : ConfigError) : Booted := .ended 101 { p with err := p.err ++ [e.message] }
    match loading.result with
    | .error e => failed e
    | .ok config =>
      if i.generateSeeds then
        let g := config.seeds
        let (seeds, e) := TransferRegistry.generateSeeds g.seedCount.toNat g.seedLength.toNat p.entropy
        .ended 0 { p with entropy := e, out := p.out ++ seeds.map .line }
      else
        match parseLevel config.logLevel with
        | .error e => failed e
        | .ok level =>
          match startService config level now p with
          | .serving s p =>
            if i.status then .ended 0 { p with out := p.out ++ [.status s.registry.status] } else .serving s p
          | ended => ended

/-! ## Service -/

namespace Service

/-- Stores what has changed; `report` makes an event of the outcome. -/
def store (s : Service) (now : Int64) (report : Except StorageError Unit → List Event) (p : Progress) :
    Service × Progress :=
  match s.directory with
  | none => (s, p)
  | some (dir, key) =>
    let done := s.registry.flush now dir.backend (.start p.files key p.entropy)
    let disk := done.state.2
    ({ s with registry := done.state.1, directory := some (dir, disk.key) },
      (p.onDisk disk).log s.level (done.log ++ report done.answer))

/-- Reports that the program runs. -/
def announce (s : Service) (p : Progress) : Progress :=
  p.log s.level
    (.deadlockWatchStarted
      :: if s.directory.isSome then [.flushingStarted s.config.persistence.interval] else [])

/-- Stores what has changed while the program runs. -/
def tick (s : Service) (now : Int64) (p : Progress) : Service × Progress :=
  if s.directory.isNone then (s, p)
  else
    s.store now
      (fun
        | .ok _ => [.flushCompleted]
        | .error e => [.flushFailed e])
      (p.log s.level [.flushStarted])

/-- Ends the program, with what has changed stored. -/
def shutdown (s : Service) (now : Int64) (p : Progress) : Progress :=
  let p := p.log s.level [.shutdownRequested]
  let p :=
    if s.directory.isNone then p
    else
      (s.store now
        (fun
          | .ok _ => []
          | .error e => [.finalFlushFailed e])
        (p.log s.level [.finalFlushStarted])).2
  p.log s.level [.shutdownCompleted]

end Service

/-- What is told of arguments that are not understood. -/
def usage : String :=
  "Usage: swarm-keeper [--config <CONFIG>] [--create-config] [--generate-seeds] [--generate-passkey] [--status]"

/-- The exit code of a run whose arguments are not understood. -/
def usageCode : Nat := 2

/-- A run of the program that is asked to end after the first time it has stored what changed. -/
def run (args : List String) (files : FileTree) (now : Int64) (e : Entropy) : Nat × Progress :=
  match Invocation.parse? args with
  | none => (usageCode, { Progress.start files e with err := [usage] })
  | some i =>
    match boot i files now e with
    | .ended code p => (code, p)
    | .serving s p =>
      let (s, p) := s.tick now (s.announce p)
      (0, s.shutdown now p)

end TransferRegistry
