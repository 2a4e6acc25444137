import Stencil.Bundled
import Stencil.Command.Paths

/-!
# Stencil.Main

The program, with the toolkit that is bundled with it. It looks up what a run needs on the real
disk, runs, and writes what the run wrote.
-/

namespace Stencil.Command

/-- What lies at a path, if anything. -/
def lookUp (path : String) : IO (Option Entry) := do
  match ← (IO.FS.readBinFile path).toBaseIO with
  | .ok content => return some (.file content)
  | .error (.inappropriateType ..) => return some .directory
  | .error _ => return none

/-- A disk that also knows what lies on the way to a path. -/
def learn (disk : Disk) (path : String) : IO Disk := do
  let steps := Path.steps path
  let mut known := disk
  for length in List.range steps.length do
    let way := steps.take (length + 1)
    if let .ok place := known.locate way then
      if (known.entry? place).isNone then
        if let some entry ← lookUp (Path.withSteps path way) then
          known := known.put place entry
  return known

def writeOut (file : OutputFile) : IO Unit := do
  let above := (Path.steps file.name).dropLast
  unless above.isEmpty do
    IO.FS.createDirAll (Path.withSteps file.name above)
  IO.FS.writeBinFile file.name file.content.toUTF8

end Stencil.Command

open Stencil Command in
def main (words : List String) : IO UInt32 := do
  let verbosity := Verbosity.ofText (← IO.getEnv "PROTOC_GEN_TEMPLATE_LOG")
  let input ←
    match Invocation.ofWords? words with
    | some .plugin => (← IO.getStdin).readBinToEnd
    | _ => pure ByteArray.empty
  let mut disk : Disk := {}
  if let some invocation := Invocation.ofWords? words then
    for _ in List.range rounds do
      for path in invocation.paths .bundled disk input do
        disk ← learn disk path
  let outcome := run .bundled disk input words
  outcome.files.forM writeOut
  let errors ← IO.getStderr
  (outcome.lines verbosity).forM errors.putStrLn
  (← IO.getStdout).write (outcome.shown.bytes Toolkit.bundled.codec)
  if let some report := outcome.report? then
    errors.putStr report.text
  return UInt32.ofNat outcome.status
