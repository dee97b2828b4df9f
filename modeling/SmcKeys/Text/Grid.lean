namespace SmcKeys.Text.Grid

/-- The columns that a line takes: none for a soft hyphen, one for any other character. -/
def lineWidth (line : List Char) : Nat :=
  line.countP (· ≠ '\xad')

def splitLines : List Char → List (List Char)
  | [] => [[]]
  | c :: rest =>
      if c = '\n' then [] :: splitLines rest
      else
        match splitLines rest with
        | [] => [[c]]
        | line :: lines => (c :: line) :: lines

structure Column where
  heading : String
  cell : String

namespace Column

def lines (column : Column) : List (List Char) :=
  splitLines column.cell.toList

def width (column : Column) : Nat :=
  (column.lines.map lineWidth).foldl max (lineWidth column.heading.toList)

end Column

def padLine (width : Nat) (line : List Char) : String :=
  " " ++ String.ofList line ++ String.ofList (List.replicate (width - lineWidth line) ' ') ++ " "

def rule (left fill cross right : String) (columns : List Column) : String :=
  left ++
    String.intercalate cross
      (columns.map fun c => String.join (List.replicate (c.width + 2) fill)) ++
    right

def textLine (columns : List Column) (line : Column → List Char) : String :=
  "│" ++ String.intercalate "┆" (columns.map fun c => padLine c.width (line c)) ++ "│"

def height (columns : List Column) : Nat :=
  (columns.map fun c => c.lines.length).foldl max 0

def render (columns : List Column) : String :=
  String.intercalate "\n" <|
    [rule "┌" "─" "┬" "┐" columns,
      textLine columns (fun c => c.heading.toList),
      rule "╞" "═" "╪" "╡" columns] ++
    (List.range (height columns)).map
      (fun i => textLine columns fun c => c.lines.getD i []) ++
    [rule "└" "─" "┴" "┘" columns]

end SmcKeys.Text.Grid
