import ContractAudit.Text.Columns

/-!
# Tables and panels

Text layout for a terminal. A column is as wide as its widest cell; a panel is as wide as the
terminal.
-/
namespace ContractAudit.Console

def width (s : String) : Nat :=
  Text.columns s.toList

def rule (c : Char) (n : Nat) : String :=
  String.ofList (List.replicate n c)

def spaces (n : Nat) : String :=
  rule ' ' n

inductive Alignment where
  | left
  | center
  | right
deriving DecidableEq, Repr

/-- The text in a field of `n` columns; of the blanks around a centred text the smaller half is on
the left. -/
def pad (alignment : Alignment) (n : Nat) (s : String) : String :=
  let blanks := n - width s
  match alignment with
  | .left => s ++ spaces blanks
  | .right => spaces blanks ++ s
  | .center => spaces (blanks / 2) ++ s ++ spaces (blanks - blanks / 2)

structure Column where
  header : String
  alignment : Alignment := .left
deriving DecidableEq, Repr

structure Table where
  title : String
  columns : List Column
  rows : List (List String)
deriving DecidableEq, Repr

namespace Table

def cells (t : Table) (i : Nat) : List String :=
  t.rows.map fun row => row.getD i ""

def measured (t : Table) : List (Column × Nat) :=
  t.columns.zipIdx.map fun (column, i) =>
    (column, (t.cells i).foldl (fun n cell => max n (width cell)) (width column.header))

def border (left rule' join right : Char) (widths : List Nat) : String :=
  String.singleton left ++
    (String.singleton join).intercalate (widths.map fun n => rule rule' (n + 2)) ++
    String.singleton right

def row (bar : Char) (columns : List (Column × Nat)) (cells : List String) : String :=
  let fields := (columns.zip cells).map fun ((column, n), cell) =>
    " " ++ pad column.alignment n cell ++ " "
  String.singleton bar ++ (String.singleton bar).intercalate fields ++ String.singleton bar

def lines (t : Table) : List String :=
  let columns := t.measured
  let widths := columns.map (·.2)
  let total := (widths.map (· + 3)).foldr (· + ·) 0 + 1
  [pad .center total t.title, border '┏' '━' '┳' '┓' widths,
    row '┃' columns (t.columns.map (·.header)), border '┡' '━' '╇' '┩' widths] ++
  t.rows.map (row '│' columns) ++ [border '└' '─' '┴' '┘' widths]

end Table

def terminalWidth : Nat := 200

def isHiddenControl (c : Char) : Bool :=
  [7, 8, 11, 12, 13].contains c.toNat

def tabStop : Nat := 8

/-- Fills a text up to the next tabulator stop behind it. -/
def toTabStop (t : Text) : Text :=
  let t := t ++ [' ']
  t ++ List.replicate ((tabStop - Text.columns t % tabStop) % tabStop) ' '

def expandTabs (t : Text) : Text :=
  t.foldl (fun sofar c => if c = '\t' then toTabStop sofar else sofar ++ [c]) []

def shownLines (text : String) : List String :=
  (Text.lines (text.toList.filter fun c => !isHiddenControl c)).map fun line =>
    String.ofList (expandTabs line)

def panel (title text : String) : List String :=
  let inner := terminalWidth - 2
  let titled := " " ++ title ++ " "
  let dashes := inner - width titled
  ["╭" ++ rule '─' (dashes / 2) ++ titled ++ rule '─' (dashes - dashes / 2) ++ "╮"] ++
  (shownLines text).map (fun line => "│ " ++ pad .left (inner - 2) line ++ " │") ++
  ["╰" ++ rule '─' inner ++ "╯"]

end ContractAudit.Console
