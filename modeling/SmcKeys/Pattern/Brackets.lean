import SmcKeys.Pattern.Escape

namespace SmcKeys.Pattern

def heightOfList : List Nat → Nat
  | [] => 0
  | [height] => height
  | heights => 1 + heights.foldl max 0

structure Bracket where
  negated : Bool
  /-- The heights of the members since the last operator. -/
  members : List Nat := []
  /-- The height of all that stands before the last operator. -/
  before : Option Nat := none

namespace Bracket

def add (height : Nat) (b : Bracket) : Bracket :=
  { b with members := height :: b.members }

def height (b : Bracket) : Nat :=
  match b.before with
  | none => heightOfList b.members
  | some before => 1 + max before (heightOfList b.members)

def operate (b : Bracket) : Bracket :=
  { b with members := [], before := some b.height }

/-- Dashes at the beginning, each a member, and the rest. -/
def dashes (flags : Flags) (comment : Bool) : List Char → Nat × List Char
  | [] => (0, [])
  | c :: rest =>
      if comment then dashes flags (c != '\n') rest
      else if c = '-' then
        let (count, rest) := dashes flags false rest
        (count + 1, rest)
      else if flags.loose ∧ Text.isBlank c then dashes flags false rest
      else if flags.loose ∧ c = '#' then dashes flags true rest
      else (0, c :: rest)

/-- Begins a bracket. What would close or split it is a member if it stands first. -/
def start (flags : Flags) (cs : List Char) : Option (Bracket × List Char) :=
  let (negated, cs) := match flags.skip cs with
    | '^' :: rest => (true, rest)
    | rest => (false, rest)
  let (members, rest) := match dashes flags false cs with
    | (0, ']' :: rest) => (1, rest)
    | first => first
  if members = 0 ∨ flags.admitsMember (.literal ⟨'-', false⟩) then
    some (⟨negated, List.replicate members 0, none⟩, rest)
  else none

def admits (flags : Flags) (b : Bracket) : Bool :=
  flags.unicode || !b.negated

def named? (cs : List Char) : Option (Bool × List Char) :=
  match cs with
  | ':' :: rest =>
      let (negated, rest) := match rest with
        | '^' :: rest => (true, rest)
        | rest => (false, rest)
      let name := String.ofList (rest.takeWhile (· != ':'))
      match rest.dropWhile (· != ':') with
      | ':' :: ']' :: rest =>
          if ["alnum", "alpha", "ascii", "blank", "cntrl", "digit", "graph", "lower", "print",
            "punct", "space", "upper", "word", "xdigit"].contains name then some (negated, rest)
          else none
      | _ => none
  | _ => none

/-- Families by name are sets like any other, with letters in them. -/
def admitsNamed (flags : Flags) (negated : Bool) : Bool :=
  if flags.unicode then !flags.caseless else !negated

def item (flags : Flags) : List Char → Option (Atom × List Char)
  | [] => none
  | '\\' :: rest => escape flags rest
  | c :: rest => some (.literal ⟨c, false⟩, rest)

def isRange (flags : Flags) : Atom → Atom → Bool
  | .literal first, .literal last =>
      decide (first.char ≤ last.char) && flags.admitsMember (.literal first) &&
        flags.admitsMember (.literal last)
  | _, _ => false

/-- A single member, or a range. A dash before another one or before the end makes no range. -/
def member (flags : Flags) (cs : List Char) : Option (List Char) := do
  let (first, rest) ← item flags cs
  match flags.skip rest with
  | '-' :: behind =>
      if flags.peek? behind = some ']' ∨ flags.peek? behind = some '-' then
        if flags.admitsMember first then some ('-' :: behind) else none
      else do
        let (last, rest) ← item flags (flags.skip behind)
        if isRange flags first last then some rest else none
  | rest => if flags.admitsMember first then some rest else none

/-- Reads to the end of the outermost bracket. Each step takes a character, so as many steps as
there are characters are enough. -/
def read (flags : Flags) : Nat → List Bracket → Bracket → List Char → Option (Nat × List Char)
  | 0, _, _, _ => none
  | steps + 1, outer, b, cs =>
      match flags.skip cs with
      | [] => none
      | '[' :: rest =>
          match named? rest with
          | some (negated, rest) =>
              if admitsNamed flags negated then read flags steps outer (b.add 0) rest else none
          | none => do
              let (inner, rest) ← start flags rest
              read flags steps (b :: outer) inner rest
      | ']' :: rest =>
          if b.admits flags then
            match outer with
            | [] => some (1 + b.height, rest)
            | next :: outer => read flags steps outer (next.add (1 + b.height)) rest
          else none
      | '&' :: '&' :: rest => read flags steps outer b.operate rest
      | '-' :: '-' :: rest => read flags steps outer b.operate rest
      | '~' :: '~' :: rest => read flags steps outer b.operate rest
      | cs => do
          let rest ← member flags cs
          read flags steps outer (b.add 0) rest

end Bracket

def brackets (flags : Flags) (cs : List Char) : Option (Nat × List Char) := do
  let (b, rest) ← Bracket.start flags cs
  Bracket.read flags (cs.length + 1) [] b rest

end SmcKeys.Pattern
