import SmcKeys.Text.Combining
import SmcKeys.Text.Ranges
import SmcKeys.Text.Unprintable

namespace SmcKeys.Text.Quoted

/-- Whether a character stands for itself: it is visible, fills no empty place, and attaches to
no other. -/
def isPlain (c : Char) : Bool :=
  if c.toNat < 0x80 then decide (0x20 ≤ c.toNat) && decide (c.toNat ≤ 0x7e)
  else !within unprintable c && !within combining c && !within fillers c

def codePoint (c : Char) : List Char :=
  "\\u\x7b".toList ++ Nat.toDigits 16 c.toNat ++ "\x7d".toList

def escape (mark c : Char) : List Char :=
  if c = '\x00' then "\\0".toList
  else if c = '\t' then "\\t".toList
  else if c = '\r' then "\\r".toList
  else if c = '\n' then "\\n".toList
  else if c = '\\' ∨ c = mark then ['\\', c]
  else if isPlain c then [c]
  else codePoint c

def between (mark : Char) (cs : List Char) : String :=
  String.ofList (mark :: (cs.flatMap (escape mark) ++ [mark]))

def string (text : String) : String :=
  between '\x22' text.toList

def char (c : Char) : String :=
  between '\x27' [c]

end SmcKeys.Text.Quoted
