import ScopeAlgebra.Text.Slice

/-!
# Files of a command

A command names its files by paths and sees the entry at each path. `plainPath` is the form in which
a path is looked up and shown; `Files.ofList` is what a command sees of the files of its working
directory.
-/

namespace ScopeAlgebra.Cli

/-- The components of a path: empty ones and those for the directory itself are left out. -/
def pathComponents (path : String) : List String :=
  (path.splitOn "/").filter fun part => !part.isEmpty && decide (part ≠ ".")

/-- A path in its plain form. -/
def plainPath (path : String) : String :=
  let relative := "/".intercalate (pathComponents path)
  if Text.hasHead "//" path && !Text.hasHead "///" path then "//" ++ relative
  else if Text.hasHead "/" path then "/" ++ relative
  else if relative.isEmpty then "."
  else relative

/-- What stands at a path: a file with its content, or what cannot be read as one, such as a
directory. -/
inductive Entry where
  | file (content : String)
  | unreadable
  deriving DecidableEq, Repr

/-- The content of a file. -/
def Entry.content? : Entry → Option String
  | .file content => some content
  | .unreadable => none

/-- The entry at each path, where there is one. -/
abbrev Files := String → Option Entry

namespace Files

/-- Where a path has led so far: to the given components below the working directory, or out of
it. -/
inductive Place where
  | inside (components : List String)
  | outside
  deriving DecidableEq, Repr

/-- The place of the next component of a path. -/
def Place.next (component : String) : Place → Option Place
  | .inside components =>
    if component = ".." then
      some (if components.isEmpty then .outside else .inside components.dropLast)
    else some (.inside (components ++ [component]))
  | .outside => if component = ".." then some .outside else none

/-- The longest name that can be looked up, in bytes. -/
def longestName : Nat := 255

/-- The longest path that can be looked up, in bytes. -/
def longestPath : Nat := 4095

/-- The device that holds nothing. -/
def emptyDevice : String := "/dev/null"

/-- The entry at a place, given the files by their components. -/
def entryAt (files : List (List String × String)) : Place → Option Entry
  | .outside => some .unreadable
  | .inside components =>
    match files.find? fun file => decide (file.1 = components) with
    | some file => some (.file file.2)
    | none =>
      if components.isEmpty || files.any (fun file => components.isPrefixOf file.1) then
        some .unreadable
      else none

/-- The entry that components lead to from a place. Only what cannot be read as a file has entries
below it. -/
def entryFrom (files : List (List String × String)) (place : Place) : List String → Option Entry
  | [] => entryAt files place
  | component :: rest =>
    match entryAt files place with
    | some .unreadable =>
      if longestName < component.utf8ByteSize then some .unreadable
      else (place.next component).bind fun next => entryFrom files next rest
    | _ => none

/-- Whether a path can be looked up at all. -/
def isLookable (path : String) : Bool := path.utf8ByteSize ≤ longestPath

/-- The files of a working directory, given by their paths. -/
def ofList (files : List (String × String)) : Files := fun path =>
  if !isLookable path then some .unreadable
  else if path = emptyDevice then some (.file "")
  else
    entryFrom (files.map fun (name, content) => (pathComponents name, content))
      (if Text.hasHead "/" path then .outside else .inside []) (pathComponents path)

end Files

end ScopeAlgebra.Cli
