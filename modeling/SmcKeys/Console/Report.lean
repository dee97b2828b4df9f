import SmcKeys.Text.Utf8
import SmcKeys.Value

namespace SmcKeys.Console

inductive Format where
  | json
  | table
  | pretty
  | raw
  deriving DecidableEq

/-- A terminal gets tables, a file or a pipe gets JSON. -/
def Format.default (terminal : Bool) : Format :=
  if terminal then .table else .json

inductive Printed where
  | text (content : String)
  | bytes (content : List UInt8)
  deriving DecidableEq

namespace Printed

def nothing : Printed := .bytes []

def line (content : String) : Printed :=
  .text (content ++ "\n")

def toBytes : Printed → List UInt8
  | .text content => Text.utf8 content
  | .bytes content => content

end Printed

inductive Report where
  | value (v : Value)
  | info (key : Code) (declared : KeyInfo)
  | index (place : UInt32) (key : Code)
  | version (extended : Bool)

end SmcKeys.Console
