import StepTrace.Command.Run

/-!
The command. It takes a picture of the files that the command line names, carries the command line
out on the picture, and writes what has changed. No other program is started from here: what the
debugger says is read from standard input, and there is no renderer.
-/

set_option autoImplicit false

namespace StepTrace.Main

open Command

def pathsOf : Task → List String
  | .trace asked =>
      [ asked.overrides.traceLog, asked.overrides.dotFile, asked.json, asked.summaryJson ].filterMap id
  | .visualize asked =>
      asked.traceLog ::
        [asked.source, asked.source.map Visualize.defaultAnnotatedPath, asked.dot, asked.annotated,
        asked.json].filterMap id

def configuredPaths (file : Config.File) : List String :=
  let set := [file.output.traceLog, file.output.dotFile, file.output.simplifiedDotFile].filterMap id
  set ++ [Config.defaultTraceLog, Config.defaultDotFile, Config.defaultSimplifiedDotFile]

def absolute (place : Files.Place) : String :=
  "/" ++ "/".intercalate place

def picture (files : Files) (place : Files.Place) : IO Files := do
  let path := (← IO.currentDir) / absolute place
  if ← path.isDir then return files.put place .directory
  if ← path.pathExists then return files.put place (.file (← IO.FS.readBinFile path))
  return files

def placesAlong (start : Files.Place) : List String → List Files.Place
  | [] => [start]
  | segment :: rest => start :: placesAlong (Files.follow segment start) rest

def pictureOfPath (files : Files) (path : String) : IO Files :=
  let start := if path.toList.head? = some '/' then [] else files.working
  ((placesAlong start (Files.segments path)).filter (· ≠ [])).foldlM picture files

def pictureOf (files : Files) (i : Invocation) : IO Files := do
  let files ← i.config.toList.foldlM pictureOfPath files
  let file := ((i.config.map fun path => (Config.File.load path files).toOption).getD none).getD {}
  (pathsOf i.task ++ configuredPaths file).foldlM pictureOfPath files

def writeBack (before after : Files) : IO Unit :=
  after.entries.forM fun (place, entry) => do
    match entry with
    | .file content =>
        if before.entry? place ≠ some entry then
          IO.FS.writeBinFile ((← IO.currentDir) / absolute place) content
    | _ => return ()

def isTrace : Request → Bool
  | .invocation i =>
      match i.task with
      | .trace _ => true
      | .visualize _ => false
  | _ => false

partial def readAll (input : IO.FS.Stream) (sofar : ByteArray) : IO ByteArray := do
  let piece ← input.read 65536
  if piece.isEmpty then return sofar
  readAll input (sofar ++ piece)

def heard : IO (Option (List Text.Line)) := do
  return some (Text.linesOf (← readAll (← IO.getStdin) .empty))

def surroundings (request : Request) : IO Surroundings := do
  let working := ((← IO.currentDir).components).filter fun name => name ≠ "" && name ≠ "/"
  let bare : Files := { working, entries := [] }
  let files ←
    match request with
    | .invocation i => pictureOf bare i
    | _ => pure bare
  let debugger ← if isTrace request then heard else pure none
  return { files, debugger, filter := ← IO.getEnv "RUST_LOG" }

end StepTrace.Main

def main (args : List String) : IO UInt32 := do
  let request := StepTrace.Command.parse args
  let around ← StepTrace.Main.surroundings request
  let outcome := StepTrace.Command.run around args
  StepTrace.Main.writeBack around.files outcome.files
  IO.eprint outcome.told
  IO.print outcome.output
  if request == .misuse then IO.eprint StepTrace.Command.usage
  return outcome.exit.toUInt32
