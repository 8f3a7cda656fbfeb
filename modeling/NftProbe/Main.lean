import NftProbe.Program

/-!
# The command-line program

The outer layer around `Program.run`: it reads the files the run may need from disk (those
the arguments name, and the artifact a settings file names), runs the program on them, writes
back every file and directory the run created or changed, and prints what the run printed.

No node can be reached from here, so requests to a node fail as an unreachable one does.
-/

open NftProbe

/-- The content of a file, if it can be read. -/
def readIfPresent (path : String) : IO (Option String) := do
  try
    pure (some (← IO.FS.readFile path))
  catch _ =>
    pure none

/-- Adds a file read from disk to the model, with the directories above it. -/
def addFile (fs : FileSystem) (path content : String) : FileSystem :=
  let fs := (fs.createDirAll (Run.Report.parentPath path)).toOption.getD fs
  (fs.write path content).toOption.getD fs

/-- The files a run may read: those the arguments name and, when one of them is a settings
file, the artifact it names. -/
def gather (args : List String) : IO FileSystem := do
  let mut fs : FileSystem := {}
  for path in args do
    if let some content ← readIfPresent path then
      fs := addFile fs path content
      if let .ok settings := Config.Settings.readFile content then
        if let some artifact := settings.harness.artifact then
          if let some artifactContent ← readIfPresent artifact then
            fs := addFile fs artifact artifactContent
  pure fs

/-- Writes back the files and directories the run created or changed. -/
def writeBack (before after : FileSystem) : IO Unit := do
  for (parts, node) in after.entries do
    let path := "/".intercalate parts
    match node with
    | .directory => IO.FS.createDirAll path
    | .file content =>
      if before.nodeAt parts != some (.file content) then
        IO.FS.writeFile path content

/-- Runs the program on the command line. -/
def main (args : List String) : IO UInt32 := do
  let fs ← gather args
  let runId := toString (← IO.monoNanosNow)
  let node : Program.Node Unit := { transport := Rpc.offline true, state := () }
  let exit := Program.run node runId args fs
  writeBack fs exit.files
  IO.print exit.stdout
  for line in exit.stderr do
    IO.eprintln line
  pure exit.code.toUInt32
