import WorkflowWalk.CommandLine.Location
import WorkflowWalk.Text.Utf8

/-!
# Files

Why a file cannot be read, what text its bytes are, and a tree of files in memory. In the tree names
are followed from the working directory; what is above the working directory is not known, except
that it consists of directories.
-/

namespace WorkflowWalk
namespace CommandLine

/-! ## Faults -/

inductive OpenFault
  | missing
  | directory
  | notDirectory
  | nameTooLong
  | zeroCharacter
  | other (reason : String)
deriving DecidableEq, Repr

def OpenFault.message : OpenFault → String
  | .missing => "No such file or directory"
  | .directory => "Is a directory"
  | .notDirectory => "Not a directory"
  | .nameTooLong => "File name too long"
  | .zeroCharacter => "embedded null byte"
  | .other reason => reason

/-- The files that there are: the bytes at a location, or why there are none. -/
abbrev Files := Location → Except OpenFault (List UInt8)

/-! ## Text files -/

/-- Line ends as line feeds: a carriage return is one too, also with a line feed after it. -/
def unifyLineEnds : List Char → List Char
  | [] => []
  | '\r' :: '\n' :: rest => '\n' :: unifyLineEnds rest
  | '\r' :: rest => '\n' :: unifyLineEnds rest
  | c :: rest => c :: unifyLineEnds rest

def decodeText (bytes : List UInt8) : Except Text.Utf8.Fault String :=
  (fun text => String.ofList (unifyLineEnds text.toList)) <$> Text.Utf8.decode bytes

/-! ## Trees -/

inductive Entry
  | file (bytes : List UInt8)
  | directory

/-- A tree of files: entries by their names, from the working directory on. Directories that are not
empty need no entry. -/
abbrev FileTree := List (List String × Entry)

namespace FileTree

def nameLimit : Nat := 255

def textLimit : Nat := 4095

/-- Where one has come to: to a place below the working directory, its last name first, or to some
directory outside. -/
inductive Position
  | inside (names : List String)
  | outside
deriving DecidableEq, Repr

def entry (tree : FileTree) (names : List String) : Option Entry :=
  match tree.lookup names with
  | some found => some found
  | none => if tree.any fun (other, _) => names.isPrefixOf other then some .directory else none

def enter (tree : FileTree) (position : Position) (name : String) : Except OpenFault Position :=
  match position, name with
  | .outside, ".." => .ok .outside
  | .inside [], ".." => .ok .outside
  | .inside (_ :: above), ".." => .ok (.inside above)
  | _, name =>
      if nameLimit < (Text.characters name).utf8ByteSize then
        .error .nameTooLong
      else
        match position with
        | .outside => .error .missing
        | .inside names =>
            match entry tree (name :: names).reverse with
            | some _ => .ok (.inside (name :: names))
            | none => .error .missing

/-- What is at a position; the working directory is there even if the tree is empty. -/
def at? (tree : FileTree) : Position → Option Entry
  | .outside => some .directory
  | .inside [] => some .directory
  | .inside names => entry tree names.reverse

def follow (tree : FileTree) (position : Position) : List String → Except OpenFault Position
  | [] => .ok position
  | name :: rest =>
      match at? tree position with
      | some (.file _) => .error .notDirectory
      | _ => do follow tree (← enter tree position name) rest

def read (tree : FileTree) : Files := fun location => do
  if location.text.toList.contains '\x00' then
    throw .zeroCharacter
  if textLimit < (Text.characters location.text).utf8ByteSize then
    throw .nameTooLong
  let start := if location.root = "" then Position.inside [] else .outside
  match at? tree (← follow tree start location.names) with
  | some (.file bytes) => return bytes
  | some .directory => throw .directory
  | none => throw .missing

end FileTree
end CommandLine
end WorkflowWalk
