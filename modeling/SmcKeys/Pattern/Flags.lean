import SmcKeys.Text.Blank

namespace SmcKeys.Pattern

structure Flags where
  /-- Blanks and comments between the parts mean nothing. -/
  loose : Bool := false
  /-- The pattern is over characters, and not over bytes. -/
  unicode : Bool := true
  caseless : Bool := false
  deriving DecidableEq

namespace Flags

def skipFrom (comment : Bool) : List Char → List Char
  | [] => []
  | c :: rest =>
      if comment then skipFrom (c != '\n') rest
      else if Text.isBlank c then skipFrom false rest
      else if c = '#' then skipFrom true rest
      else c :: rest

def skip (flags : Flags) (cs : List Char) : List Char :=
  if flags.loose then skipFrom false cs else cs

/-- The next character that counts. Of a comment, only the sign that begins it is skipped. -/
def peek? (flags : Flags) (cs : List Char) : Option Char :=
  if flags.loose then
    let ahead := match cs.dropWhile Text.isBlank with
      | '#' :: rest => rest.dropWhile Text.isBlank
      | rest => rest
    ahead.head? <|> cs.head?
  else cs.head?

def letters : List Char → Option (List Char × Char × List Char)
  | [] => none
  | c :: rest =>
      if c = ':' ∨ c = ')' then some ([], c, rest)
      else (letters rest).map fun (first, last, rest) => (c :: first, last, rest)

/-- Each letter may be there once, and so may the dash, with a letter behind it. -/
def areLetters (ls : List Char) : Bool :=
  ls.all (['i', 'm', 's', 'U', 'u', 'R', 'x', '-'].contains ·) && decide ls.Nodup &&
    ls.getLast? != some '-'

def switch (letter : Char) (ls : List Char) (before : Bool) : Bool :=
  if ls.takeWhile (· != '-') |>.contains letter then true
  else if ls.contains letter then false
  else before

def set (ls : List Char) (flags : Flags) : Flags where
  loose := switch 'x' ls flags.loose
  unicode := switch 'u' ls flags.unicode
  caseless := switch 'i' ls flags.caseless

end Flags

end SmcKeys.Pattern
