import WorkflowWalk.Text.Blank
import WorkflowWalk.Text.Width

/-!
# Tables

A table is drawn with a heavy frame around its header and a light one around its rows. A column is as
wide as the widest line in it, with a blank on either side, and a cell with several lines makes its
row as high. The title stands centred above the frame.

A line of a cell can still be wider than its column, as tabs take no width but are drawn. It is
then broken between words, and a word that is too wide is cut.
-/

namespace WorkflowWalk
namespace Text

structure Column where
  header : String
  toRight : Bool
deriving DecidableEq, Repr

structure Table where
  title : String
  columns : List Column
  rows : List (List String)
deriving DecidableEq, Repr

namespace Table

/-! ## Widths -/

/-- Whether a character ends the part of a cell that is measured at once. -/
def endsPart (c : Char) : Bool :=
  [0x0A, 0x1C, 0x1D, 0x1E, 0x85, 0x2028, 0x2029].contains c.toNat

/-- The width of a cell. Tabs count nothing in it. -/
def cellWidth (cell : String) : Nat :=
  (((sent cell).splitOnP endsPart).map Text.columns).foldl max 0

def cellsAt (table : Table) (index : Nat) (column : Column) : List String :=
  column.header :: table.rows.map fun row => row.getD index ""

def widthAt (table : Table) (index : Nat) (column : Column) : Nat :=
  ((table.cellsAt index column).map cellWidth).foldl max 0

def layout (table : Table) : List (Column × Nat) :=
  table.columns.mapIdx fun index column => (column, table.widthAt index column)

/-! ## Cells -/

/-- The words of a line, each with the blanks behind it, and the first with those before it. A
blank line has none. -/
def words (line : List Char) : List (List Char) :=
  match line.splitBy fun c next => !isBlank c || isBlank next with
  | [] => []
  | first :: rest =>
      match first.all isBlank, rest with
      | false, _ => first :: rest
      | true, [] => []
      | true, second :: rest => (first ++ second) :: rest

/-- Puts words on lines, the first of which is begun. A word begins a new line if it does not fit,
the blanks behind it aside. -/
def wrapWords (width : Nat) (line : List Char) (used : Nat) :
    List (List Char) → List (List Char)
  | [] => [line]
  | word :: rest =>
      if used + Text.columns (dropEndWhile isBlank word) ≤ width then
        wrapWords width (line ++ word) (used + Text.columns word) rest
      else
        line :: wrapWords width word (Text.columns word) rest

def wrap (width : Nat) (line : List Char) : List (List Char) :=
  match words line with
  | [] => [line]
  | word :: rest => wrapWords width word (Text.columns word) rest

/-- Cuts blanks off the end of a line while it has more code points than the width. -/
def cropBlanks (width : Nat) (line : List Char) : List Char :=
  let blanks := line.length - (dropEndWhile isBlank line).length
  line.take (line.length - min blanks ((points line).length - width))

def shorten (width : Nat) (line : List Char) : List Char :=
  if Text.columns line ≤ width then line else takeColumns (width - 1) (clusters line) ++ ['…']

def cellLines (width : Nat) (cell : String) : List (List Char) :=
  (splitLines (sent cell)).flatMap fun line =>
    (wrap width (expandTabs line)).map fun part => shorten width (cropBlanks width part)

def gap (width : Nat) (line : List Char) : List Char :=
  List.replicate (width - Text.columns line) ' '

/-- A line of a cell, filled up to a width, with a blank on either side. Where a joiner at the end of
the line takes up a blank, another one is put behind. -/
def fill (column : Column) (width : Nat) (line : List Char) : List Char :=
  let filled := if column.toRight then gap width line ++ line else line ++ gap width line
  ' ' :: filled ++ gap width filled ++ [' ']

/-! ## Lines -/

/-- The characters of a line of a frame: at its left, along it, between columns, at its right. -/
structure Rule where
  left : Char
  along : Char
  between : Char
  right : Char
deriving DecidableEq, Repr

def topRule : Rule := ⟨'┏', '━', '┳', '┓'⟩

def headerRule : Rule := ⟨'┡', '━', '╇', '┩'⟩

def bottomRule : Rule := ⟨'└', '─', '┴', '┘'⟩

def ruleLine (layout : List (Column × Nat)) (rule : Rule) : List Char :=
  rule.left ::
    [rule.between].intercalate (layout.map fun (_, width) =>
      List.replicate (width + 2) rule.along) ++
    [rule.right]

def cellsLine (layout : List (Column × Nat)) (side : Char) (cells : List (List (List Char)))
    (index : Nat) : List Char :=
  side ::
    [side].intercalate (List.zipWith (fun (column, width) lines =>
      fill column width (lines.getD index [])) layout cells) ++
    [side]

def rowLines (layout : List (Column × Nat)) (side : Char) (row : List String) :
    List (List Char) :=
  let cells := List.zipWith (fun (_, width) cell => cellLines width cell) layout row
  let height := (cells.map List.length).foldl max 1
  (List.range height).map (cellsLine layout side cells)

def centre (width : Nat) (cs : List Char) : List Char :=
  let blanks := gap width cs
  blanks.take (blanks.length / 2) ++ cs ++ blanks.drop (blanks.length / 2)

def lines (table : Table) : List (List Char) :=
  let layout := table.layout
  centre (ruleLine layout topRule).length table.title.toList ::
    ruleLine layout topRule ::
    rowLines layout '┃' (table.columns.map (·.header)) ++
    ruleLine layout headerRule ::
    table.rows.flatMap (rowLines layout '│') ++
    [ruleLine layout bottomRule]

def text (table : Table) : String :=
  String.ofList (['\n'].intercalate table.lines)

end Table
end Text
end WorkflowWalk
