import DecisionFlow.Text.Markup
import DecisionFlow.Text.Segment
import DecisionFlow.Text.Wrapping

set_option autoImplicit false

/-! # Grids

What a terminal shows of marked up texts: a block of lines, a title on one line, or a grid of cells
in rows and columns. A column of a grid is as wide as its widest cell. A cell of several lines makes
its row as high as it has lines. -/

namespace DecisionFlow.Text.Grid

/-! ## Texts -/

/-- Controls that a terminal is not given: bell, backspace, vertical tab, form feed and return. -/
def isDropped (c : Char) : Bool :=
  [7, 8, 11, 12, 13].contains c.toNat

/-- A marked up text as a terminal is given it. -/
def plainText (s : String) : Except Markup.MarkupFault (List Char) :=
  (Markup.render s).map fun cs => cs.filter fun c => !isDropped c

/-- A line as it is shown, without the blanks around it. -/
def shownLine (cs : List Char) : String :=
  String.ofList (trim (expandTabs 0 cs))

/-- The lines of a marked up text. -/
def blockLines (s : String) : Except Markup.MarkupFault (List String) :=
  (plainText s).map fun cs => (segments '\n' cs).map shownLine

/-- A marked up text on one line. -/
def titleLine (s : String) : Except Markup.MarkupFault String :=
  (plainText s).map fun cs => shownLine (cs.map fun c => if c = '\n' then ' ' else c)

/-! ## Columns -/

/-- Whether a character ends a line when the width of a cell is measured. -/
def endsLine (c : Char) : Bool :=
  let n := c.toNat
  n == 0x0A || (0x1C ≤ n && n ≤ 0x1E) || n == 0x85 || n == 0x2028 || n == 0x2029

/-- How many cells the widest line of a text takes. Tabs take none. -/
def widestLine (cs : List Char) : Nat :=
  ((words endsLine cs).map cellCount).foldl max 0

/-- The cells of a grid, one column after the other. -/
def columns {α : Type} (rows : List (List α)) : List (List α) :=
  let count := (rows.map List.length).foldl max 0
  (List.range count).map fun i => rows.filterMap fun row => row[i]?

/-- The fault of the first cell that has one, column by column. -/
def firstFault? (rows : List (List String)) : Option Markup.MarkupFault :=
  (columns rows).flatten.findSome? fun cell =>
    match plainText cell with
    | .ok _ => none
    | .error f => some f

/-- The widths of the columns of a grid. -/
def columnWidths (rows : List (List (List Char))) : List Nat :=
  (columns rows).map fun cells => (cells.map widestLine).foldl max 0

/-! ## Rows -/

/-- The lines of a cell in a column of a width, without the blanks around each. Tabs are expanded
    only now, so that a cell with tabs may have to be broken or cut. -/
def cellLines (width : Nat) (cs : List Char) : List String :=
  (segments '\n' cs).flatMap fun line =>
    (breakLine width (expandTabs 0 line)).map fun part =>
      String.ofList (trim (fitLine width (dropExcess width part)))

/-- The lines of a row. -/
def rowLines (widths : List Nat) (row : List (List Char)) : List (List String) :=
  let cells := (widths.zip row).map fun (width, cs) => cellLines width cs
  let height := (cells.map List.length).foldl max 0
  (List.range height).map fun i => cells.map fun lines => lines[i]?.getD ""

/-- The lines of all rows. -/
def render (rows : List (List String)) : Except Markup.MarkupFault (List (List String)) :=
  match firstFault? rows with
  | some f => .error f
  | none =>
    (rows.mapM fun (row : List String) => row.mapM plainText).map fun plain =>
      plain.flatMap (rowLines (columnWidths plain))

end DecisionFlow.Text.Grid
