import SmcKeys.Text.Hex

namespace SmcKeys.Text.Json

inductive Scalar where
  | number (n : Nat)
  | string (text : String)
  deriving DecidableEq

/-- Quotes, backslashes and controls are escaped; all else stands for itself. -/
def escape (c : Char) : List Char :=
  if c = '\x22' then "\\\x22".toList
  else if c = '\\' then "\\\\".toList
  else if c = '\x08' then "\\b".toList
  else if c = '\t' then "\\t".toList
  else if c = '\n' then "\\n".toList
  else if c = '\x0c' then "\\f".toList
  else if c = '\r' then "\\r".toList
  else if c.toNat < 0x20 then "\\u00".toList ++ Hex.letters [UInt8.ofNat c.toNat]
  else [c]

def quote (text : String) : String :=
  String.ofList ('\x22' :: (text.toList.flatMap escape ++ ['\x22']))

section

variable (quote : String → String)

def Scalar.render : Scalar → String
  | .number n => toString n
  | .string text => quote text

def members (ms : List (String × String)) : String :=
  "\x7b" ++ String.intercalate "," (ms.map fun m => quote m.1 ++ ":" ++ m.2) ++ "\x7d"

def object (ms : List (String × Scalar)) : String :=
  members quote (ms.map fun m => (m.1, m.2.render quote))

end

end SmcKeys.Text.Json
