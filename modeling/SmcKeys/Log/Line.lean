import SmcKeys.Log.Event
import SmcKeys.Text.Json
import SmcKeys.Text.Quoted

namespace SmcKeys.Log

def Datum.inLine : Datum → String
  | .number n => toString n
  | .quoted text => Text.Quoted.string text
  | .bare text => text

def Datum.inJson : Datum → Text.Json.Scalar
  | .number n => .number n
  | .quoted text => .string text
  | .bare text => .string text

namespace Event

def textLine (e : Event) : String :=
  e.level.name ++ " " ++ e.target ++ ": " ++ e.message ++
    String.join (e.fields.map fun f => " " ++ f.1 ++ "=" ++ f.2.inLine)

def jsonLine (e : Event) : String :=
  Text.Json.members Text.Json.quote
    [("level", Text.Json.quote e.level.name),
      ("fields",
        Text.Json.object Text.Json.quote
          (("message", .string e.message) :: e.fields.map fun f => (f.1, f.2.inJson))),
      ("target", Text.Json.quote e.target)]

def line (style : Style) (e : Event) : String :=
  match style with
  | .text => e.textLine
  | .json => e.jsonLine

end Event

end SmcKeys.Log
