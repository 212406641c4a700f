import ChainScript.FileTree
import ChainScript.Series.Zeros

/-!
# Configuration

Where a context finds its definition files, and how its primitives work.
-/

namespace ChainScript

/-- How a context is set up. -/
structure Config where
  /-- The directory with the definition files. Files are read from here too. -/
  root : String := "."
  /-- The extension of definition files, without the point. -/
  extension : String := "voices"
  /-- The first execution loads the definition files of the root. -/
  lazyLoad : Bool := true
  search : Search := {}

namespace Config

/-- The configuration with another extension. Points before it are dropped. -/
def withExtension (c : Config) (extension : String) : Config :=
  { c with extension := String.ofList (extension.toList.dropWhile (· == '.')) }

/-- The path leads to a file that has the extension of definition files. -/
def isDefinitionFile (c : Config) (files : FileTree) (path : String) : Bool :=
  files.isFile path && Path.extension? path == some c.extension

/-- The definition files directly under the root, in the order of their names. -/
def definitionFiles (c : Config) (files : FileTree) : Except FileFault (List String) :=
  (files.list c.root).map fun names =>
    ((names.mergeSort fun a b => a ≤ b).map (Path.join c.root)).filter (c.isDefinitionFile files)

end Config

end ChainScript
