import SmcKeys.Code.Basic
import SmcKeys.Text.Utf8

namespace SmcKeys.Code

def ofText (text : String) : Code :=
  ofBytes (Text.utf8 text)

def significant (c : Code) : List UInt8 :=
  ((Bytes.digits 4 c.number.toNat).dropWhile (· == 0)).reverse

def text (c : Code) : String :=
  Text.latin1 c.significant

inductive Flaw where
  | empty
  | notAscii
  | tooLong
  deriving DecidableEq

def Flaw.message : Flaw → String
  | .empty => "key must not be empty"
  | .notAscii => "key must be ASCII"
  | .tooLong => "key must be at most 4 characters"

/-- Accepts one to four ASCII characters. -/
def parse (text : String) : Except Flaw Code :=
  if text.toList.isEmpty then .error .empty
  else if text.toList.any fun c => decide (0x80 ≤ c.toNat) then .error .notAscii
  else if 4 < text.toList.length then .error .tooLong
  else .ok (ofText text)

end SmcKeys.Code
