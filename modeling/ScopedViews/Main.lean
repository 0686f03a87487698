import ScopedViews.CommandLine
/-!
# The program

Reads the files of a project, runs the command line on them, and writes the files that have
changed.
-/

namespace ScopedViews.Program

/-- The names in an absolute path. -/
def placeOf (path : String) : Place := ((path.splitOn "/").filter (· ≠ "")).map Text.utf8

def pathOf (place : Place) : String := "/" ++ (Project.pathOf place).text

/-- The tree with everything below a directory. -/
partial def gather (t : FileTree) (place : Place) : IO FileTree := do
  let mut t := { t with directories := place :: t.directories }
  let folder ← IO.FS.realPath (pathOf place)
  for entry in ← folder.readDir do
    let inner : Place := place ++ [Text.utf8 entry.fileName]
    if ← entry.path.isDir then
      t ← gather t inner
    else
      t := t.put inner (← IO.FS.readBinFile entry.path)
  return t

/-- The tree with a file, if there is one that can be read. -/
def gatherFile (t : FileTree) (place : Place) : IO FileTree := do
  try
    return t.put place (← IO.FS.readBinFile (pathOf place))
  catch _ =>
    return t

/-- The tree with the directories above a place, and their ignore files. -/
def gatherAbove (t : FileTree) (place : Place) : IO FileTree := do
  let mut t := t
  for i in List.range place.length do
    let above := place.take i
    t := { t with directories := above :: t.directories }
    t ← gatherFile t (above ++ ([".ignore"] : Place))
    t ← gatherFile t (above ++ ([".gitignore"] : Place))
  return t

/-- The files that a run with these arguments may read. -/
def project (arguments : List String) (here : Place) : IO FileTree := do
  let start : FileTree := { working := here }
  let t ← gather (← gatherAbove start here) here
  match CommandLine.invocation? arguments with
  | some (.build a) =>
    let t ← match a.root with
      | none => pure t
      | some root =>
        let place := placeOf ((Path.join ⟨pathOf here⟩ root).normalize).text
        if here.isPrefixOf place then pure t
        else
          try
            gather (← gatherAbove t place) place
          catch _ => pure t
    match a.options with
    | none => return t
    | some options => gatherFile t (placeOf ((Path.join ⟨pathOf here⟩ options).normalize).text)
  | _ => return t

/-- Writes the files of `after` that are not in `before`. -/
def save (before after : FileTree) : IO Unit := do
  for (place, bytes) in after.files do
    if (before.contents? place).map ByteArray.toList ≠ some bytes.toList then
      IO.FS.createDirAll (pathOf place.dropLast)
      IO.FS.writeBinFile (pathOf place) bytes

/-- A number of milliseconds in seconds with four places. -/
def seconds (ms : Nat) : String :=
  let places := toString (10000 + ms % 1000 * 10)
  toString (ms / 1000) ++ "." ++ String.ofList (places.toList.drop 1)

/-- Writes what a run has to say. -/
def report (r : CommandLine.Result) (ms : Nat) : IO Unit := do
  IO.print r.output
  for n in r.notices do
    IO.eprintln n.text
  for n in r.notes do
    IO.eprintln n
  match r.summary with
  | some s => IO.eprintln (s ++ " in " ++ seconds ms ++ "s")
  | none => pure ()

end ScopedViews.Program

open ScopedViews in
def main (arguments : List String) : IO UInt32 := do
  let started ← IO.monoMsNow
  let here := Program.placeOf (← IO.currentDir).toString
  let before ← Program.project arguments here
  match CommandLine.run? arguments before ⟨Program.pathOf here⟩ with
  | none =>
    IO.eprintln CommandLine.usage
    return 2
  | some r =>
    Program.save before r.tree
    Program.report r ((← IO.monoMsNow) - started)
    return UInt32.ofNat r.exit
