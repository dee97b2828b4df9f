import SmcKeys.Code.Text
import SmcKeys.Text.Quoted

namespace SmcKeys

inductive Malformed where
  | key (text : String) (flaw : Code.Flaw)
  | oversized (size limit : Nat)
  deriving DecidableEq

def Malformed.message : Malformed → String
  | .key text flaw => "invalid key " ++ Text.Quoted.string text ++ ": " ++ flaw.message
  | .oversized size limit =>
      "value too large (" ++ toString size ++ " bytes, max " ++ toString limit ++ ")"

def Code.named (text : String) : Except Malformed Code :=
  (Code.parse text).mapError (.key text)

end SmcKeys
