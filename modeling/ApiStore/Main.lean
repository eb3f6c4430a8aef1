import ApiStore.Command
/-
`Main.lean` -- the program.

All that happens here is input and output. What stands at the paths that the command
line names is read first, together with the directories on the way to it; the run is
then a function of that; and at the end its file is written and its text printed.
-/
set_option autoImplicit false

namespace ApiStore.Program

/-- The paths that lead to a path, itself included. -/
def leads (path : String) : List String :=
  let names := path.splitOn "/"
  (List.range names.length).map fun i => "/".intercalate (names.take (i + 1))

/-- Adds what stands at a path to a folder. -/
def addPath (folder : Folder) (path : String) : IO Folder := do
  try
    let real ← IO.FS.realPath path
    let names := (Folder.route path).2
    let place := names.foldl Folder.step (Folder.route path).1
    if ← real.isDir then return { folder with directories := folder.directories ++ [place] }
    else return folder.put place (← IO.FS.readBinFile path).toList
  catch _ => return folder

/-- What stands at paths, and on the way to them. -/
def readFolder (paths : List String) : IO Folder :=
  (paths.flatMap leads).foldlM addPath { files := [], directories := [] }

/-- Writes a file, and the directories that lead to it. -/
def writeFile (path text : String) : IO Unit := do
  let names := Folder.properNames path
  if names.length > 1 then IO.FS.createDirAll (Folder.pathOf path names.dropLast)
  IO.FS.writeFile path text

/-- Runs a command line; the result is the exit code. -/
def start (words : List String) : IO UInt32 := do
  let folder ← readFolder (Command.paths words)
  let outcome := Command.run folder words
  match outcome.written with
  | some (path, text) => writeFile path text
  | none => pure ()
  IO.print outcome.output
  match outcome.usage with
  | some e => IO.eprintln ("Error: " ++ e.message)
  | none => if outcome.exitCode = 2 then IO.eprint (Command.usageText none)
  return outcome.exitCode.toUInt32

end ApiStore.Program

/-- The program. -/
def main (words : List String) : IO UInt32 := ApiStore.Program.start words
