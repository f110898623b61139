import Arbiter.CommandLine.Path
import Arbiter.File

namespace Arbiter

structure FileAccess (m : Type → Type) where
  /-- The text of a file, if it can be read. -/
  text : String → m (Option String)
  /-- The names of the plain files in a directory, if it is one. -/
  names : String → m (Option (List String))

/-- The file of that path. -/
def FileAccess.open [Monad m] (fs : FileAccess m) (path : String) : m File := do
  return ⟨(Path.extension? path).getD "", ← fs.text path⟩

/-- Files and directories below the one where the program runs, each by the steps to it. -/
structure FileTree where
  files : List (List String × String)
  directories : List (List String) := []

namespace FileTree

/-- A tree of files with these paths and texts, and of these directories. -/
def ofPaths (files : List (String × String)) (directories : List String) : FileTree :=
  ⟨files.map fun f => (Path.names f.1, f.2), directories.map Path.names⟩

/-- What holds a file or directory is a directory. -/
def isDirectory (t : FileTree) (here : List String) : Bool :=
  here = [] || t.files.any (fun f => here.isPrefixOf f.1 && here ≠ f.1) || t.directories.any here.isPrefixOf

/-- Where a path leads; `none` where it leaves the tree. -/
def walk? (t : FileTree) (here : List String) : List String → Option (List String)
  | [] => some here
  | step :: rest =>
    if !t.isDirectory here then none
    else
      match step with
      | "" | "." => walk? t here rest
      | ".." => if here = [] then none else walk? t here.dropLast rest
      | _ => walk? t (here ++ [step]) rest

def find? (t : FileTree) (path : String) : Option (List String) :=
  if path.isEmpty ∨ path.startsWith "/" then none else walk? t [] (Path.steps path)

def text? (t : FileTree) (path : String) : Option String := do
  let here ← t.find? path
  return (← t.files.find? (·.1 = here)).2

def names? (t : FileTree) (path : String) : Option (List String) := do
  let here ← t.find? path
  if t.isDirectory here then
    return t.files.filterMap fun f => if f.1.dropLast = here then f.1.getLast? else none
  else none

def access (t : FileTree) : FileAccess Id := ⟨t.text?, t.names?⟩

end FileTree

end Arbiter
