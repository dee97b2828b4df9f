import SmcKeys.Console.Command

namespace SmcKeys.Console

structure Transcript where
  exitCode : Nat
  printed : Printed
  /-- One entry for each message, log lines first. -/
  messages : List String
  /-- How often the panic handler has reported a panic besides. -/
  panics : Nat
  deriving DecidableEq

def levelWord : Log.Level → String
  | .error => "error"
  | .warn => "warn"
  | .info => "info"
  | .debug => "debug"
  | .trace => "trace"

/-- The program's own events down to a level, and warnings of everything else. -/
def directives (level : Log.Level) : String :=
  String.join <| "warn" ::
    ["smcprims", "smcprims_client", "smcprims_frame", "smcprims_transport"].map fun target =>
      "," ++ target ++ "=" ++ levelWord level

/-- The reading of a filter has panicked, and nothing was done. -/
def Transcript.aborted : Transcript where
  exitCode := 101
  printed := .nothing
  messages := []
  panics := 1

namespace Kit

variable (kit : Kit)

def filterFor (environment : Option String) (level : Log.Level) :
    Outcome (Log.Event → Bool) :=
  match environment.map kit.givenFilter with
  | none => .returned (kit.levelFilter (directives level))
  | some (.returned none) => .returned (kit.levelFilter (directives level))
  | some (.returned (some admits)) => .returned admits
  | some .panicked => .panicked

def refused (refusal : Refusal) : Transcript :=
  if refusal.exitCode = 0 then ⟨0, .text (kit.explained refusal), [], 0⟩
  else ⟨refusal.exitCode, .nothing, [kit.explained refusal], 0⟩

def session (service : Service (World τ)) (environment : Option String)
    (arguments : List String) (w : World τ) : Transcript × World τ :=
  match kit.parse arguments with
  | .error refusal => (kit.refused refusal, w)
  | .ok line =>
      match kit.filterFor environment line.logLevel with
      | .panicked => (.aborted, w)
      | .returned admits =>
          let (ending, w) := kit.run service line { w with log := [] }
          let lines := (w.log.filter admits).map (kit.logLine line.logStyle)
          ({ exitCode := ending.exit.code
             printed := ending.printed
             messages := lines ++ ending.complaint.toList
             panics := ending.panics }, w)

end Kit

end SmcKeys.Console
