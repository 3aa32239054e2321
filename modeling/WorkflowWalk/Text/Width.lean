import WorkflowWalk.Text.LetterCase
import WorkflowWalk.Text.Point
import WorkflowWalk.Text.WidthTable

/-!
# Terminal text

What a terminal is sent: how many columns a text takes, and how tabs and control characters are
taken out of it first.

Characters are drawn in clusters. A mark without a column of its own is drawn with the character
before it, a joiner draws the next character into the same place, and a selector asks for the
pictograph of the character before it, which may be wider.
-/

namespace WorkflowWalk
namespace Text

/-! ## Characters -/

def charColumns (c : Char) : Nat :=
  let n := c.toNat
  if 0x20 ≤ n ∧ n < 0x7F then 1
  else if inRanges WidthTable.zero n then 0
  else if inRanges WidthTable.double n then 2
  else 1

def pointColumns : Point → Nat
  | .char c => charColumns c
  | .half _ => 1

def joiner : Char := '\u200D'

def selector : Char := '\uFE0F'

def hasPicture : Point → Bool
  | .char c => inRanges WidthTable.pictured c.toNat
  | .half _ => false

/-! ## Clusters -/

/-- Code points that are drawn at one place, and the columns that they take. -/
structure Cluster where
  points : List Point
  columns : Nat
deriving DecidableEq, Repr

def Cluster.push (cluster : Cluster) (point : Point) (more : Nat) : Cluster :=
  ⟨cluster.points ++ [point], cluster.columns + more⟩

def Cluster.chars (cluster : Cluster) : List Char :=
  cluster.points.flatMap Point.kept

/-- The clusters of a text, the first of which is begun. `pictured` says whether a selector makes
it wider, and `joined` whether the next code point belongs to it whatever it is. -/
def clustersFrom (cluster : Cluster) (pictured joined : Bool) : List Point → List Cluster
  | [] => [cluster]
  | point :: rest =>
      if joined then
        clustersFrom (cluster.push point 0) pictured false rest
      else if point = .char joiner then
        clustersFrom (cluster.push point 0) pictured true rest
      else if point = .char selector then
        clustersFrom (cluster.push point (if pictured then 1 else 0)) false false rest
      else if pointColumns point = 0 then
        clustersFrom (cluster.push point 0) pictured false rest
      else
        cluster :: clustersFrom ⟨[point], pointColumns point⟩ (hasPicture point) false rest

/-- The clusters of a text. The first one holds what stands before the first character that takes
columns. -/
def clusters (cs : List Char) : List Cluster :=
  clustersFrom ⟨[], 0⟩ false false (points cs)

theorem clustersFrom_points
    (cluster : Cluster) (pictured joined : Bool) (ps : List Point) :
    (clustersFrom cluster pictured joined ps).flatMap Cluster.points = cluster.points ++ ps := by
  induction ps generalizing cluster pictured joined with
  | nil =>
      simp [clustersFrom]
  | cons point rest ih =>
      unfold clustersFrom
      split
      · simp [ih, Cluster.push]
      split
      · simp [ih, Cluster.push]
      split
      · simp [ih, Cluster.push]
      split
      · simp [ih, Cluster.push]
      · simp [ih]

theorem clusters_points (cs : List Char) :
    (clusters cs).flatMap Cluster.points = points cs :=
  clustersFrom_points ⟨[], 0⟩ false false (points cs)

/-! ## Columns -/

def columns (cs : List Char) : Nat :=
  (clusters cs).foldl (fun total cluster => total + cluster.columns) 0

@[simp] theorem columns_nil : columns [] = 0 := rfl

/-- The beginning of a text that takes `n` columns. A blank stands for a cluster that is cut in
two. -/
def takeColumns (n : Nat) : List Cluster → List Char
  | [] => []
  | cluster :: rest =>
      if n = 0 then []
      else if cluster.columns ≤ n then cluster.chars ++ takeColumns (n - cluster.columns) rest
      else [' ']

/-! ## Lines -/

/-- The bell, the backspace, vertical tabs, form feeds and carriage returns would move the cursor
and are not sent. -/
def movesCursor (c : Char) : Bool :=
  [0x07, 0x08, 0x0B, 0x0C, 0x0D].contains c.toNat

def sent (text : String) : List Char :=
  text.toList.filter (!movesCursor ·)

def splitLines (cs : List Char) : List (List Char) :=
  cs.splitOn '\n'

def tabStop : Nat := 8

/-- Puts the parts of a line between its tabs together: behind each part stands one blank, and then
blanks up to the next tab stop. `column` is where the first part starts. -/
def alignParts (column : Nat) : List (List Char) → List Char
  | [] => []
  | [part] => part
  | part :: rest =>
      let past := column + columns (part ++ [' '])
      let gap := (tabStop - past % tabStop) % tabStop
      part ++ List.replicate (gap + 1) ' ' ++ alignParts (past + gap) rest

def expandTabs (line : List Char) : List Char :=
  alignParts 0 (line.splitOn '\t')

def display (text : String) : List Char :=
  ['\n'].intercalate ((splitLines (sent text)).map expandTabs)

end Text
end WorkflowWalk
