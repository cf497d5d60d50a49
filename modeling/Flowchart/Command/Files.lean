/-
# Files

Commands read from files and write to files.  Where no real files are at hand, a
directory is a list of names with texts.
-/
import Flowchart.Text.Basic

namespace Flowchart

/-- Why a file cannot be read or written. -/
inductive FileError
  | notFound
  | notDirectory
  | isDirectory
  | nameTooLong
  | other (reason : Text)
deriving DecidableEq, Repr

namespace FileError

/-- The reason with this number among the errors of the system. -/
def ofCode? : Nat → Option FileError
  | 2 => some notFound
  | 20 => some notDirectory
  | 21 => some isDirectory
  | 36 => some nameTooLong
  | _ => none

/-- The reason in words. -/
def message : FileError → Text
  | notFound => "No such file or directory (os error 2)".toList
  | notDirectory => "Not a directory (os error 20)".toList
  | isDirectory => "Is a directory (os error 21)".toList
  | nameTooLong => "File name too long (os error 36)".toList
  | other reason => reason

end FileError

/-- The files of a directory by name. -/
abbrev Directory := List (Text × Text)

/-- Where a path leads: to the directory, to one around it, to a file of the directory,
or to a name that nothing has. -/
inductive Place
  | here
  | outside
  | file (name t : Text)
  | free (inside : Bool) (name : Text)
deriving DecidableEq, Repr

namespace Directory

/-! ## Paths -/

/-- The parts of a path that lead anywhere; the path ends with a slash if there is one
behind the last part. -/
def parts (path : Text) : List Text :=
  (path.splitBy (· = '/')).filter (· ≠ [])

/-- The part that stays where it is. -/
def stay : Text := ['.']

/-- The part that leads to the directory around. -/
def up : Text := ['.', '.']

/-- The greatest number of bytes in a part of a path. -/
def maxPart : Nat := 255

/-- The greatest number of bytes in a path. -/
def maxPath : Nat := 4095

/-- The place to which a part leads.  Nothing is known of what is outside. -/
def step (d : Directory) : Place → Text → Except FileError Place
  | .file _ _, _ => .error .notDirectory
  | .free _ _, _ => .error .notFound
  | place, part =>
    if part = stay then .ok place
    else if part = up then .ok .outside
    else if maxPart < part.byteLength then .error .nameTooLong
    else if place = .here then
      .ok (match d.lookup part with
        | some t => .file part t
        | none => .free true part)
    else .ok (.free false part)

/-- The place to which the parts of a path lead. -/
def walk (d : Directory) (path : Text) (parts : List Text) : Except FileError Place :=
  if path = [] then .error .notFound
  else if maxPath < path.byteLength then .error .nameTooLong
  else parts.foldlM d.step (if ['/'].isPrefixOf path then .outside else .here)

/-! ## Reading and writing -/

/-- The text of a file.  A slash behind a name makes it the name of a directory. -/
def read (d : Directory) (path : Text) : Except FileError Text := do
  match ← d.walk path (parts path ++ if ['/'].isSuffixOf path then [stay] else []) with
  | .file _ t => return t
  | .free _ _ => throw .notFound
  | _ => throw .isDirectory

/-- Writes a file, in the place of one of the same name.  What is behind a name with a
slash is not looked at, since no file can be written there. -/
def write (d : Directory) (path t : Text) : Except FileError Directory := do
  let parts := parts path
  let isName := parts.getLast?.any fun part => part ≠ stay && part ≠ up
  match ← d.walk path (if ['/'].isSuffixOf path && isName then parts.dropLast ++ [stay]
    else parts) with
  | .file name _ | .free true name => return (name, t) :: d.filter fun f => f.1 ≠ name
  | .free false _ => return d
  | _ => throw .isDirectory

end Directory

end Flowchart
