import SmcKeys.Console.Arguments
import SmcKeys.Console.Program
import SmcKeys.Log.Filter
import SmcKeys.Log.Line

/-! The program as it is built, with the parts that it has from elsewhere. -/

namespace SmcKeys.Console

def hexFlawText : Text.Hex.Flaw → String
  | .oddLength => "Odd number of digits"
  | .badDigit byte index =>
      "Invalid character " ++ Text.Quoted.char (Char.ofUInt8 byte) ++ " at position " ++
        toString index

/-- Of the texts that a command line is answered with, the version alone is here. -/
def Refusal.text : Refusal → String
  | .version => programName ++ " " ++ programVersion ++ "\n"
  | _ => ""

/-- A filter that is malformed is none. One that cannot be cut makes its reader panic. -/
def readFilter (text : String) : Outcome (Option (Log.Event → Bool)) :=
  match Log.Filter.read text with
  | .ok filter => .returned (some filter.admits)
  | .error .malformed => .returned none
  | .error .splitCharacter => .panicked

/-- The tables are those of a file or a pipe: on a terminal, they are not wrapped to its width. -/
def Kit.standard (terminal : Bool) : Kit where
  parse := CommandLine.parse
  explained := Refusal.text
  givenFilter := readFilter
  levelFilter text := (Log.Filter.readSound text).admits
  logLine := Log.Event.line
  readHex text := (Text.Hex.decode (Text.utf8 text)).mapError hexFlawText
  writeHex := Text.Hex.encode
  quote := Text.Json.quote
  grid := Text.Grid.render
  terminal
  build :=
    { target := some "x86_64-unknown-linux-gnu"
      system := "linux"
      architecture := "x86_64"
      compiler := none
      commit := none }

def Report.print (format : Format) (report : Report) : Printed :=
  (Kit.standard false).print format report

def CommandLine.run (service : Service (World τ)) (terminal : Bool) (line : CommandLine)
    (w : World τ) : Ending × World τ :=
  (Kit.standard terminal).run service line w

def session (service : Service (World τ)) (terminal : Bool) (environment : Option String)
    (arguments : List String) (w : World τ) : Transcript × World τ :=
  (Kit.standard terminal).session service environment arguments w

end SmcKeys.Console
