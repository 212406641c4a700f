import ChainScript.Shell

/-!
# The shell on a terminal

Reads lines from standard input until it ends and writes the response to each. The files are read
from the disk anew for each line: those under the root, and for a line that loads a path also those
of the directory around it. The root is the first argument, or the working directory.
-/

namespace ChainScript

namespace FileTree

/-- Directories are read down to this depth. -/
def maxDepth : Nat := 16

/-- Adds what the directory of a disk holds to a tree, at a location. What cannot be read is left
out. -/
def gather (t : FileTree) (location : Location) (entries : Array IO.FS.DirEntry) :
    Nat → IO FileTree
  | 0 => pure t
  | depth + 1 => do
    let mut t := t
    for entry in entries do
      let here := location ++ [entry.fileName]
      try
        if ← entry.path.isDir then
          t ← (t.put here .directory).gather here (← entry.path.readDir) depth
        else
          t := t.write here (String.fromUTF8? (← IO.FS.readBinFile entry.path))
      catch _ => pure ()
    return t

/-- Adds what the directory with the given path holds to a tree. -/
def gatherPath (t : FileTree) (path : String) : IO FileTree := do
  try
    let place ← IO.FS.realPath path
    let location := (Path.names place.toString).filter (· ≠ "")
    (t.putDirectories [] location).gather location (← place.readDir) maxDepth
  catch _ => return t

end FileTree

/-- The directories whose files a request can read: the root, and the one around a loaded file. -/
def Request.directories (root : String) : Request → List String
  | load path => [root, "/".intercalate ((Path.names path).dropLast ++ ["."])]
  | _ => [root]

/-- The files that a request can read, as they are on the disk. -/
def Request.files (root : String) (r : Request) : IO FileTree := do
  let place ← IO.FS.realPath "."
  let workingDirectory := (Path.names place.toString).filter (· ≠ "")
  let t : FileTree := ({ workingDirectory } : FileTree).putDirectories [] workingDirectory
  (r.directories root).foldlM FileTree.gatherPath t

/-- Answers lines until the input ends. -/
partial def Shell.serve (s : Shell) (input output : IO.FS.Stream) : IO Unit := do
  output.putStr ">>> "
  output.flush
  let line ← input.getLine
  if line.isEmpty then output.putStrLn "Exiting"
  else
    let request := Request.read line
    let files ← request.files s.context.config.root
    let (response, next) := s.answer files request
    output.putStrLn response
    next.serve input output

end ChainScript

/-- Runs the shell with the given arguments. -/
def main (args : List String) : IO Unit := do
  let root := args.head?.getD "."
  let output ← IO.getStdout
  output.putStrLn ("Voices are read from " ++ root)
  let shell := ChainScript.Shell.ofContext (.ofConfig { root })
  shell.serve (← IO.getStdin) output
