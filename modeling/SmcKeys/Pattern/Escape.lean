import SmcKeys.Pattern.Flags
import SmcKeys.Text.Hex

namespace SmcKeys.Pattern

structure Literal where
  char : Char
  /-- Written with two hexadecimal digits, which over bytes stand for a byte. -/
  isByte : Bool := false
  deriving DecidableEq

inductive Atom where
  | literal (literal : Literal)
  | any
  | edge
  | wordEdge
  | family (negated : Bool)
  deriving DecidableEq

def isAscii (c : Char) : Bool := decide (c.toNat < 0x80)

namespace Flags

/-- Alike letters are not known over characters. -/
def admitsLiteral (flags : Flags) (l : Literal) : Bool :=
  if flags.unicode then !flags.caseless else !l.isByte || isAscii l.char

/-- Outside of brackets. Neither the edges of words nor families are known over characters, and
over bytes there is no sign for any character. -/
def admits (flags : Flags) : Atom → Bool
  | .literal l => flags.admitsLiteral l
  | .any => flags.unicode
  | .edge => true
  | .wordEdge => !flags.unicode
  | .family negated => !flags.unicode && !negated

/-- Within brackets, where over bytes there is no room for other characters. -/
def admitsMember (flags : Flags) : Atom → Bool
  | .literal l => if flags.unicode then !flags.caseless else isAscii l.char
  | .any => false
  | .edge => false
  | .wordEdge => false
  | .family negated => !flags.unicode && !negated

end Flags

def hexValue? (c : Char) : Option Nat :=
  if isAscii c then Text.Hex.digitValue? c.toUInt8 else none

def hexDigits (flags : Flags) : Nat → Nat → List Char → Option (Nat × List Char)
  | 0, value, cs => some (value, cs)
  | _ + 1, _, [] => none
  | count + 1, value, c :: rest =>
      (hexValue? c).bind fun digit =>
        hexDigits flags count (16 * value + digit) (flags.skip rest)

def hexLiteral (flags : Flags) (count : Nat) (isByte : Bool) (cs : List Char) :
    Option (Atom × List Char) := do
  let (value, rest) ← hexDigits flags count 0 (flags.skip cs)
  if value.isValidChar then some (.literal ⟨Char.ofNat value, isByte⟩, rest) else none

def control? (c : Char) : Option Char :=
  if c = 'a' then some '\x07'
  else if c = 'f' then some '\x0c'
  else if c = 'n' then some '\n'
  else if c = 'r' then some '\r'
  else if c = 't' then some '\t'
  else if c = 'v' then some '\x0b'
  else none

/-- What follows a backslash. Signs of ASCII stand for themselves; there are no references back,
and no families by name. -/
def escape (flags : Flags) : List Char → Option (Atom × List Char)
  | [] => none
  | c :: rest =>
      if c = 'x' then hexLiteral flags 2 true rest
      else if c = 'u' then hexLiteral flags 4 false rest
      else if c = 'U' then hexLiteral flags 8 false rest
      else if c = 'A' ∨ c = 'z' then some (.edge, rest)
      else if ['b', 'B', '<', '>'].contains c then some (.wordEdge, rest)
      else if ['d', 's', 'w'].contains c then some (.family false, rest)
      else if ['D', 'S', 'W'].contains c then some (.family true, rest)
      else if isAscii c ∧ ¬c.isAlphanum then some (.literal ⟨c, false⟩, rest)
      else (control? c).map fun c => (.literal ⟨c, false⟩, rest)

end SmcKeys.Pattern
