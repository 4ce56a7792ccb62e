import Sluice.Directory.Naming

/-! # Working directories

The files that a program can read are those of its working directory, which has no directories
inside. A path is followed name by name; a dot stays where it is, two dots lead up to directories
about which nothing but their existence is known.
-/

namespace Sluice

/-- A working directory: the contents of its files by name. -/
abbrev Folder := Keyed Bytes

namespace Folder

/-- The greatest length of a name in a path, in bytes. -/
def maxNameLength : Nat := 255

def maxPathLength : Nat := 4095

/-- The names of a path, in order; an empty one where two slashes meet or a slash stands last. -/
def pathNames (path : List Char) : List (List Char) := Text.pieces (· = '/') path

/-- Follow names from the working directory, or from some directory outside of it. -/
def follow (folder : Folder) (inside : Bool) : List (List Char) → Except FileFault Bytes
  | [] => .error .directory
  | name :: rest =>
      if name = [] ∨ name = ['.'] then follow folder inside rest
      else if name = ['.', '.'] then follow folder false rest
      else if (String.ofList name).utf8ByteSize > maxNameLength then .error .nameTooLong
      else
        match if inside then folder.get? (String.ofList name) else none with
        | none => .error .missing
        | some data => if rest = [] then .ok data else .error .notDirectory

def read (folder : Folder) (path : String) : Except FileFault Bytes :=
  let chars := path.toList
  if '\x00' ∈ chars then .error .nulInName
  else if path.utf8ByteSize > maxPathLength then .error .nameTooLong
  else
    match chars with
    | [] => .error .missing
    | '/' :: rest => follow folder false (pathNames rest)
    | _ => follow folder true (pathNames chars)

end Folder

end Sluice
