import Std.Async.Signal
import Std.Time
import TransferRegistry.CommandLine
import TransferRegistry.Crypto.Sha256

/-!
# The program

Reads the files that a run needs, has `boot` and `Service` decide what is done, and writes and prints that. A request
to end the program is taken up within a second.
-/

namespace TransferRegistry.Main

open Crypto (Bytes)

/-! ## Files -/

def look (path : FilePath) : IO (Option FileNode) := do
  try
    let content ← IO.FS.readBinFile path.text
    return some (.file content.data.toList)
  catch _ =>
    try
      if ← (← IO.FS.realPath path.text).isDir then return some .directory else return none
    catch _ => return none

/-- The files with what is at a path and on the way to it. -/
def observe (files : FileTree) (path : FilePath) : IO FileTree :=
  (List.range path.length).foldlM (fun files n => do
    let here := path.take (n + 1)
    match ← look here with
    | some node => return { files with nodes := files.nodes.insert here node }
    | none => return files) files

/-- The files that a run with a configuration file can need. -/
def observeAll (config : String) : IO FileTree := do
  let files ← observe ∅ (.ofText config)
  match Configuration.fromFile files config with
  | .error _ => return files
  | .ok c =>
    let directory := FilePath.ofText c.persistence.path
    let documents := [StateDirectory.itemsFile, StateDirectory.hiddenFile, StateDirectory.seedsFile]
    let names := documents ++ documents.map (· ++ ".tmp")
    let files ← observe files directory
    names.foldlM (fun files name => observe files (directory ++ [name])) files

/-- Does to the files of the system what leads from some files to others. -/
def realize (old new : FileTree) : IO Unit := do
  let gone := old.nodes.toList.filter fun entry => (new.node? entry.1).isNone
  for (path, node) in new.nodes.toList do
    if old.node? path ≠ some node then
      match node, gone.find? (·.2 = node) with
      | .directory, _ => IO.FS.createDirAll path.text
      | .file _, some (source, _) => IO.FS.rename source.text path.text
      | .file content, none => IO.FS.writeBinFile path.text ⟨content.toArray⟩

/-! ## Runs -/

/-- An endless supply of bytes from a random start. -/
def supply : IO Entropy := do
  let start := (← IO.getRandomBytes 32).data.toList
  let block (i : Nat) : Bytes :=
    Crypto.sha256 (start ++ (List.range 8).map fun k => UInt8.ofNat (i >>> (8 * k)))
  return ⟨fun i => (block (i / 32)).getD (i % 32) 0, 0⟩

/-- The seconds since 1970. -/
def now : IO Int64 := do
  let t ← Std.Time.Timestamp.now
  return Int64.ofInt t.toSecondsSinceUnixEpoch.val

/-- Writes what a run has come to, and goes on from there. -/
def settle (files : FileTree) (p : Progress) : IO Progress := do
  let last ← p.history.foldlM (fun old new => do realize old new; return new) files
  realize last p.files
  for out in p.out do
    let time ← Std.Time.PlainDateTime.now
    IO.println (out.text (time.format "uuuu-MM-dd HH:mm:ss.SSSSSSSSS"))
  for line in p.err do
    IO.eprintln line
  (← IO.getStdout).flush
  return .start p.files p.entropy

/-- Waits for some seconds, or until it is asked to end. -/
partial def wait (asked : IO Bool) (seconds : Nat) : IO Bool := do
  if ← asked then return true
  if seconds = 0 then return false
  IO.sleep 1000
  wait asked (seconds - 1)

/-- Runs until it is asked to end. -/
partial def serve (asked : IO Bool) (s : Service) (p : Progress) : IO Unit := do
  let (s, next) := s.tick (← now) p
  let p ← settle p.files next
  if ← wait asked s.config.persistence.interval.toNat then
    let _ ← settle p.files (s.shutdown (← now) p)
  else serve asked s p

end TransferRegistry.Main

open TransferRegistry TransferRegistry.Main in
def main (args : List String) : IO UInt32 := do
  match Invocation.parse? args with
  | none =>
    IO.eprintln usage
    return UInt32.ofNat usageCode
  | some i =>
    let files ← observeAll i.config
    match boot i files (← now) (← supply) with
    | .ended code p =>
      let _ ← settle files p
      return UInt32.ofNat code
    | .serving s p =>
      let p ← settle files (s.announce p)
      let signal ← Std.Async.Signal.Waiter.mk .sigint false
      let asked ← signal.wait
      serve (IO.hasFinished asked) s p
      return 0
