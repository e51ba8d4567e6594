import PageTemplates.CommandLine.Run
import PageTemplates.Files.Directory

/-!
# The program

The words after the name of the program are the command line. The files that it may look at are
listed on standard input, one path on a line, as tools that list files print them; the file of the
settings need not be listed.
-/

namespace PageTemplates.CommandLine

/-- The lines of a stream. -/
partial def readLines (input : IO.FS.Stream) (lines : Array String) : IO (Array String) := do
  let line ← input.getLine
  if line.isEmpty then return lines
  readLines input (lines.push (String.ofList (line.toList.filter (· != '\n'))))

/-- The tree with one more file, as far as it can be read. -/
def addFile (tree : Directory) (path : String) : IO Directory := do
  try
    let content ← IO.FS.readBinFile path
    return (tree.write? ⟨path⟩ content).getD tree
  catch _ => return tree

end PageTemplates.CommandLine

open PageTemplates CommandLine

/-- Runs the command line on the listed files. -/
def main (args : List String) : IO UInt32 := do
  let settings : List String := match CommandLine.parse args with
    | .ok o => (o.settings.map fun path => path.text).toList
    | .error _ => []
  let listed ← match CommandLine.parse args with
    | .ok _ => readLines (← IO.getStdin) #[]
    | .error _ => pure #[]
  let tree ← (listed.toList ++ settings).foldlM addFile Directory.empty
  let exit := CommandLine.process tree.fileSystem args
  let output ← IO.getStdout
  output.write exit.output
  output.flush
  (← IO.getStderr).putStr exit.errors
  return exit.code.toUInt32
