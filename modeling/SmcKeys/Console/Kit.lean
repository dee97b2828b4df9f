import SmcKeys.Console.Report
import SmcKeys.Log.Event
import SmcKeys.Operation
import SmcKeys.Text.Grid

namespace SmcKeys.Console

inductive Command where
  | read (key : String)
  | write (key data : String)
  | info (key : String)
  | keyAt (index : UInt32)
  | version (extended : Bool)
  deriving DecidableEq

structure CommandLine where
  format : Option Format
  logStyle : Log.Style
  logLevel : Log.Level
  command : Command
  deriving DecidableEq

inductive Refusal where
  | help
  | version
  | helpForNothing
  | missingCommand
  | missingArgument
  | unknownCommand
  | unknownArgument
  | badChoice
  | badNumber
  | repeated
  | unwantedValue
  deriving DecidableEq

def Refusal.exitCode : Refusal → Nat
  | .help => 0
  | .version => 0
  | _ => 2

structure Build where
  target : Option String
  system : String
  architecture : String
  compiler : Option String
  commit : Option String

/-- What the program is given by its libraries, by its build and by the place that its output
goes to. -/
structure Kit where
  parse : List String → Except Refusal CommandLine
  explained : Refusal → String
  /-- A filter of the environment, unless it is malformed. -/
  givenFilter : String → Outcome (Option (Log.Event → Bool))
  /-- The filter of those directives in a text that are not malformed. -/
  levelFilter : String → Log.Event → Bool
  logLine : Log.Style → Log.Event → String
  readHex : String → Except String (List UInt8)
  writeHex : List UInt8 → String
  quote : String → String
  grid : List Text.Grid.Column → String
  terminal : Bool
  build : Build

end SmcKeys.Console
