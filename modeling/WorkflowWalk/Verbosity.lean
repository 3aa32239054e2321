import WorkflowWalk.Settings

/-!
# Verbosity

From which level on notices are shown. The level is given by its name, else it is read from the
environment, else it is that of warnings. The name of a text layout is no level, although it is a
name of its own.
-/

namespace WorkflowWalk

open Text

namespace Verbosity

/-! ## Levels -/

def warning : Nat := 30

def levels : List (String × Nat) :=
  [("CRITICAL", 50), ("FATAL", 50), ("ERROR", 40), ("WARNING", warning), ("WARN", warning),
    ("INFO", 20), ("DEBUG", 10), ("NOTSET", 0)]

/-! ## Layouts -/

def layout (opening closing : String) : String :=
  String.intercalate ":" (["levelname", "name", "message"].map (opening ++ · ++ closing))

def basicLayout : String :=
  layout "%(" ")s"

def styles : List (String × String × String) :=
  [("%", "Percent", basicLayout), ("\x7b", "StrFormat", layout "\x7b" "\x7d"),
    ("$", "StringTemplate", layout "$\x7b" "\x7d")]

def stylesText : String :=
  "\x7b" ++ String.intercalate ", " (styles.map fun (sign, name, layout) =>
    "'" ++ sign ++ "': (<class 'logging." ++ name ++ "Style'>, '" ++ layout ++ "')") ++ "\x7d"

/-! ## Choice of a level -/

inductive Fault
  | layout
  | styles
deriving DecidableEq, Repr

def Fault.message : Fault → String
  | .layout => "Unknown level: '" ++ basicLayout ++ "'"
  | .styles => "Level not an integer or a valid string: " ++ stylesText

/-- The level that a name stands for; names that stand for nothing count as warnings. -/
def ofName (name : String) : Except Fault Nat :=
  match upper (strip name) with
  | "BASIC_FORMAT" => .error .layout
  | "_STYLES" => .error .styles
  | word => .ok ((levels.lookup word).getD warning)

/-- The variables of the environment that name a level, the one that counts most first. -/
def levelVariables : List String :=
  ["FLOWREPLAY_LOG_LEVEL", "LOG_LEVEL"]

def choose (environment : Environment) (name : Option String) : Except Fault Nat :=
  ofName ((name.or (levelVariables.findSome? environment.value?)).getD "WARNING")

end Verbosity
end WorkflowWalk
