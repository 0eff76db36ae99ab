import ReviewDesk.Text.Split

/-!
A disk as far as a desk can tell: directories, and the texts of the files that were written. Paths
start at the directory that the desk works in.
-/

namespace ReviewDesk

/-- Why a file cannot be written. -/
inductive DiskFault where
  | notFound
  | isDirectory
  | notDirectory
  | nameTooLong
  | zeroInName
deriving DecidableEq

def DiskFault.message : DiskFault → String
  | .notFound => "No such file or directory (os error 2)"
  | .isDirectory => "Is a directory (os error 21)"
  | .notDirectory => "Not a directory (os error 20)"
  | .nameTooLong => "File name too long (os error 36)"
  | .zeroInName => "file name contained an unexpected NUL byte"

structure Disk where
  directories : List (List String) := []
  files : List (List String × String) := []
deriving DecidableEq

namespace Disk

def isDirectory (d : Disk) (place : List String) : Bool :=
  place.isEmpty || d.directories.contains place

def isFile (d : Disk) (place : List String) : Bool :=
  (d.files.lookup place).isSome

/-- Goes through the directories of a path. -/
def enter (d : Disk) : List String → List String → Except DiskFault (List String)
  | place, [] => .ok place
  | place, part :: parts =>
    if part = "" ∨ part = "." then d.enter place parts
    else if part = ".." then d.enter place.dropLast parts
    else if 255 < part.utf8ByteSize then .error .nameTooLong
    else if d.isDirectory (place ++ [part]) then d.enter (place ++ [part]) parts
    else if d.isFile (place ++ [part]) then .error .notDirectory
    else .error .notFound

/-- The place of the file that a path names. -/
def locate (d : Disk) (path : String) : Except DiskFault (List String) := do
  if path.toList.contains '\x00' then .error .zeroInName
  else if path.isEmpty then .error .notFound
  else if 4095 < path.utf8ByteSize then .error .nameTooLong
  else
    let parts := Text.split '/' path
    let trailing := parts.getLast? = some ""
    let named := parts.filter (· ≠ "")
    let place ← d.enter [] named.dropLast
    match named.getLast? with
    | none => .error .isDirectory
    | some name =>
      if name = "." ∨ name = ".." then .error .isDirectory
      else if 255 < name.utf8ByteSize then .error .nameTooLong
      else if trailing ∨ d.isDirectory (place ++ [name]) then .error .isDirectory
      else .ok (place ++ [name])

/-- Writes a file, replacing one that is there. -/
def write (d : Disk) (path text : String) : Except DiskFault Disk :=
  (d.locate path).map fun place =>
    { d with files := (place, text) :: d.files.filter (·.1 ≠ place) }

/-- The text of the file that a path names. -/
def read? (d : Disk) (path : String) : Option String :=
  (d.locate path).toOption.bind fun place => d.files.lookup place

end Disk
end ReviewDesk
