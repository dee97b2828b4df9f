import SmcKeys.Pattern.Brackets
import SmcKeys.Text.Alphanumeric

/-!
Regular expressions with groups, sets, flags and repetitions, but without a repetition by a count.
-/

namespace SmcKeys.Pattern

/-- What stands in a row: something with a height, or a change of flags, which has none and
cannot be repeated. -/
inductive Piece where
  | part (height : Nat)
  | change
  deriving DecidableEq

def Piece.height : Piece → Nat
  | .part height => height
  | .change => 0

structure Level where
  flags : Flags
  row : List Piece := []
  rows : List Nat := []

namespace Level

def add (piece : Piece) (l : Level) : Level :=
  { l with row := piece :: l.row }

def bar (l : Level) : Level :=
  { l with row := [], rows := heightOfList (l.row.map Piece.height) :: l.rows }

def height (l : Level) : Nat :=
  heightOfList l.bar.rows

def repeated (l : Level) : Option Level :=
  match l.row with
  | .part height :: row => some { l with row := .part (height + 1) :: row }
  | _ => none

end Level

/-- How far a pattern has been read: the levels around the current one, and the names given. -/
structure Reader where
  level : Level
  outer : List Level := []
  names : List String := []

namespace Reader

def mayBeginName (c : Char) : Bool := c == '_' || Text.isAlphabetic c

def mayContinueName (c : Char) : Bool :=
  ['_', '.', '[', ']'].contains c || Text.isAlphanumeric c

def isName : List Char → Bool
  | [] => false
  | c :: rest => mayBeginName c && rest.all mayContinueName

def enter (flags : Flags) (r : Reader) : Reader :=
  { r with level := { flags }, outer := r.level :: r.outer }

def enterNamed (cs : List Char) (r : Reader) : Option (Reader × List Char) :=
  let name := cs.takeWhile (· != '>')
  match cs.dropWhile (· != '>') with
  | _ :: rest =>
      if isName name ∧ ¬r.names.contains (String.ofList name) then
        some ({ r.enter r.level.flags with names := String.ofList name :: r.names }, rest)
      else none
  | [] => none

def change (cs : List Char) (r : Reader) : Option (Reader × List Char) := do
  let (letters, last, rest) ← Flags.letters cs
  if Flags.areLetters letters then
    let flags := r.level.flags.set letters
    if last = ':' then some (r.enter flags, rest)
    else if letters.isEmpty then none
    else some ({ r with level := { r.level.add .change with flags } }, rest)
  else none

/-- What follows an opening parenthesis. There is no looking around. -/
def opening (cs : List Char) (r : Reader) : Option (Reader × List Char) :=
  match r.level.flags.skip cs with
  | '?' :: '=' :: _ => none
  | '?' :: '!' :: _ => none
  | '?' :: '<' :: '=' :: _ => none
  | '?' :: '<' :: '!' :: _ => none
  | '?' :: 'P' :: '<' :: rest => r.enterNamed rest
  | '?' :: '<' :: rest => r.enterNamed rest
  | '?' :: rest => r.change rest
  | rest => some (r.enter r.level.flags, rest)

def leave (r : Reader) : Option Reader :=
  match r.outer with
  | [] => none
  | next :: outer =>
      some { r with level := next.add (.part (r.level.height + 1)), outer }

def atom (a : Atom) (rest : List Char) (r : Reader) : Option (Reader × List Char) :=
  if r.level.flags.admits a then some ({ r with level := r.level.add (.part 0) }, rest) else none

/-- A repetition, with a question mark behind it if it is to be as short as can be. -/
def repetition (rest : List Char) (r : Reader) : Option (Reader × List Char) :=
  r.level.repeated.map fun level =>
    ({ r with level }, match rest with
      | '?' :: rest => rest
      | rest => rest)

def step (c : Char) (rest : List Char) (r : Reader) : Option (Reader × List Char) :=
  if c = '(' then r.opening rest
  else if c = ')' then r.leave.map (·, rest)
  else if c = '|' then some ({ r with level := r.level.bar }, rest)
  else if c = '[' then do
    let (height, rest) ← brackets r.level.flags rest
    some ({ r with level := r.level.add (.part height) }, rest)
  else if c = '?' ∨ c = '*' ∨ c = '+' then r.repetition rest
  else if c = '\x7b' then none
  else if c = '.' then r.atom .any rest
  else if c = '^' ∨ c = '$' then r.atom .edge rest
  else if c = '\\' then do
    let (a, rest) ← escape r.level.flags rest
    r.atom a rest
  else r.atom (.literal ⟨c, false⟩) rest

/-- Each step takes a character, so as many steps as there are characters are enough. -/
def run : Nat → Reader → List Char → Option Reader
  | 0, _, _ => none
  | steps + 1, r, cs =>
      match r.level.flags.skip cs with
      | [] => some r
      | c :: rest => do
          let (r, rest) ← r.step c rest
          run steps r rest

end Reader

def greatestHeight : Nat := 250

def isPattern (cs : List Char) : Bool :=
  match Reader.run (cs.length + 1) { level := { flags := {} } } cs with
  | some r => r.outer.isEmpty && decide (r.level.height ≤ greatestHeight)
  | none => false

end SmcKeys.Pattern
