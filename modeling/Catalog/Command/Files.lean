import Catalog.Text.Cut

/-!
# Files

What a command sees of the files around it.

## Main definitions

* `FileState` — what stands at a path.
* `Files` — what stands at every path.
* `fileName` — the last part of a path.
-/

namespace Catalog

open Text

/-- What stands at a path. -/
inductive FileState where
  | missing
  /-- Nothing, because a part of the path is a file. -/
  | beyondFile
  | directory
  /-- A file that may not be read. -/
  | locked
  /-- A file that holds no text. -/
  | binary
  | file (text : String)
deriving DecidableEq, Repr, Inhabited

namespace FileState

/-- Whether there is anything. -/
def isPresent : FileState → Bool
  | missing | beyondFile => false
  | directory | locked | binary | file _ => true

/-- Whether there is a file. -/
def isFile : FileState → Bool
  | locked | binary | file _ => true
  | missing | beyondFile | directory => false

/-- The text of a file, or why there is none. -/
def read : FileState → Except String String
  | missing => .error "No such file or directory (os error 2)"
  | beyondFile => .error "Not a directory (os error 20)"
  | directory => .error "Is a directory (os error 21)"
  | locked => .error "Permission denied (os error 13)"
  | binary => .error "stream did not contain valid UTF-8"
  | file text => .ok text

end FileState

/-- What stands at every path. -/
abbrev Files := String → FileState

/-- The last part of a path. A path that does not end in a name is taken as a whole. -/
def fileName (path : String) : String :=
  let parts := (fields '/' path.toList).filter fun p => !p.isEmpty && p != ['.']
  match parts.getLast? with
  | none => path
  | some part => if part = ['.', '.'] then path else String.ofList part

end Catalog
