import WorkflowWalk.Settings

/-!
# Locations of files

A location is a list of names, from the root or from the working directory. Names that say nothing
are left out when it is read. A location that begins with a tilde is taken from a home directory.
-/

namespace WorkflowWalk
namespace CommandLine

/-- Where a file is: names from the root, if the location has one, else from the working
directory. -/
structure Location where
  root : String
  names : List String
deriving DecidableEq, Repr

namespace Location

/-! ## Text -/

/-- The root that a text begins with. Exactly two slashes are a root of their own. -/
def rootOf : List Char → String
  | '/' :: '/' :: '/' :: _ => "/"
  | '/' :: '/' :: _ => "//"
  | '/' :: _ => "/"
  | _ => ""

def isProper (name : String) : Bool :=
  name != "" && name != "."

def ofText (text : String) : Location :=
  { root := rootOf text.toList
    names := ((text.toList.splitOn '/').map String.ofList).filter isProper }

def text (location : Location) : String :=
  if location.root = "" && location.names.isEmpty then "."
  else location.root ++ String.intercalate "/" location.names

/-! ## Home directories -/

def superuserHome : String := "/root"

/-- The home directory of a user, or of the one who is at work if no name is given. -/
def home? (environment : Environment) (user : String) : Option String :=
  if user = "" then some ((environment.lookup "HOME").getD superuserHome)
  else if user = "root" then some superuserHome
  else none

def withoutEndSlashes (directory : String) : String :=
  match Text.dropEndWhile (· == '/') directory.toList with
  | [] => "/"
  | cs => String.ofList cs

def expandHome? (environment : Environment) (location : Location) : Option Location :=
  match location.root, location.names with
  | "", name :: rest =>
      match name.toList with
      | '~' :: user => do
          let home ← home? environment (String.ofList user)
          let directory := withoutEndSlashes home
          if directory.toList.head? = some '~' then
            none
          else
            let start := ofText directory
            some { start with names := start.names ++ rest }
      | _ => some location
  | _, _ => some location

end Location
end CommandLine
end WorkflowWalk
