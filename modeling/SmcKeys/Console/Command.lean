import SmcKeys.Client
import SmcKeys.Console.Exit
import SmcKeys.Console.Output

namespace SmcKeys.Console

inductive Trouble where
  | badKey (text : String) (cause : Malformed)
  | emptyHex
  | badHex (text flaw : String)
  | badValue (key : Code) (cause : Malformed)
  | notOpened (fault : Fault)
  | infoFailed (key : Code) (failure : Failure)
  | readFailed (key : Code) (failure : Failure)
  | writeFailed (key : Code) (failure : Failure)
  | indexFailed (index : UInt32) (failure : Failure)
  | panicked
  deriving DecidableEq

def Trouble.complaint : Trouble → Complaint
  | .badKey text cause =>
      ⟨.usage, "invalid key " ++ Text.Quoted.string text ++ ": " ++ cause.message⟩
  | .emptyHex => ⟨.usage, "hex value must not be empty"⟩
  | .badHex text flaw =>
      ⟨.usage, "invalid hex value " ++ Text.Quoted.string text ++ ": " ++ flaw⟩
  | .badValue key cause => ⟨.usage, "invalid value for " ++ key.text ++ ": " ++ cause.message⟩
  | .notOpened fault => .ofFault "failed to open AppleSMC" fault
  | .infoFailed key failure => .ofFailure ("key info for " ++ key.text ++ " failed") failure
  | .readFailed key failure => .ofFailure ("read " ++ key.text ++ " failed") failure
  | .writeFailed key failure => .ofFailure ("write " ++ key.text ++ " failed") failure
  | .indexFailed index failure =>
      .ofFailure ("key at index " ++ toString index.toNat ++ " failed") failure
  | .panicked => ⟨.internal, "internal error: command panicked"⟩

def keyArgument (text : String) : Except Trouble Code :=
  (Code.named text).mapError (.badKey text)

def stripMark : List Char → List Char
  | '0' :: 'x' :: rest => rest
  | '0' :: 'X' :: rest => rest
  | all => all

def Kit.bytesArgument (kit : Kit) (text : String) : Except Trouble (List UInt8) :=
  let digits := stripMark text.toList
  if digits.isEmpty then .error .emptyHex
  else (kit.readHex (String.ofList digits)).mapError (.badHex text)

namespace Command

def readSteps (key : Code) : Operation (Except Trouble Report) := do
  match ← Client.read {} key with
  | .ok value => return .ok (.value value)
  | .error failure => return .error (.readFailed key failure)

def infoSteps (key : Code) : Operation (Except Trouble Report) := do
  match ← Client.keyInfo {} key with
  | .ok declared => return .ok (.info key declared)
  | .error failure => return .error (.infoFailed key failure)

def indexSteps (index : UInt32) : Operation (Except Trouble Report) := do
  match ← Client.keyAt {} index with
  | .ok key => return .ok (.index index key)
  | .error failure => return .error (.indexFailed index failure)

/-- Gives the bytes the type that the controller declares for the key, and writes them. -/
def writeSteps (key : Code) (bytes : List UInt8) : Operation (Except Trouble Report) := do
  match ← Client.keyInfo {} key with
  | .error failure => return .error (.infoFailed key failure)
  | .ok declared =>
      match Value.ofBytes key declared.type bytes with
      | .error cause => return .error (.badValue key cause)
      | .ok value =>
          match ← Client.write {} value with
          | .error failure => return .error (.writeFailed key failure)
          | .ok () => .note (.keyWritten key value.size) (.done (.ok (.value value)))

/-- What is left of a command once its arguments are checked. -/
inductive Task where
  | immediate (report : Report)
  | remote (steps : Operation (Except Trouble Report))

def site (service : Service (World τ)) (connection : Connection) : Site (World τ) :=
  .shared (service.call connection.number)

/-- Runs steps on a connection of their own, which is closed however they end. -/
def onConnection (service : Service (World τ)) (steps : Operation (Except Trouble Report))
    (w : World τ) : Except Trouble Report × World τ :=
  match Connection.acquire service w with
  | (.error fault, w) => (.error (.notOpened fault), w)
  | (.ok connection, w) =>
      let (outcome, w) := steps.run (site service connection) (w.withCache {})
      let w := connection.drop service w
      match outcome with
      | .returned result => (result, w)
      | .panicked => (.error .panicked, w)

end Command

/-- How a command ended: its exit, what it printed, its complaint if it failed, and how often the
panic handler had to say something. -/
structure Ending where
  exit : Exit
  printed : Printed
  complaint : Option String
  panics : Nat
  deriving DecidableEq

def Trouble.panics : Trouble → Nat
  | .panicked => 1
  | _ => 0

namespace Kit

variable (kit : Kit)

def task : Command → Except Trouble Command.Task
  | .read key => do
      let key ← keyArgument key
      return .remote (Command.readSteps key)
  | .write key data => do
      let key ← keyArgument key
      let bytes ← kit.bytesArgument data
      return .remote (Command.writeSteps key bytes)
  | .info key => do
      let key ← keyArgument key
      return .remote (Command.infoSteps key)
  | .keyAt index => return .remote (Command.indexSteps index)
  | .version extended => return .immediate (.version extended)

def perform (service : Service (World τ)) (command : Command) (w : World τ) :
    Except Trouble Report × World τ :=
  match kit.task command with
  | .error trouble => (.error trouble, w)
  | .ok (.immediate report) => (.ok report, w)
  | .ok (.remote steps) => Command.onConnection service steps w

def ending (format : Format) : Except Trouble Report → Ending
  | .ok report =>
      { exit := .success, printed := kit.print format report, complaint := none, panics := 0 }
  | .error trouble =>
      { exit := trouble.complaint.exit
        printed := .nothing
        complaint := some ("error: " ++ trouble.complaint.message)
        panics := trouble.panics }

def run (service : Service (World τ)) (line : CommandLine) (w : World τ) : Ending × World τ :=
  let (result, w) := kit.perform service line.command w
  (kit.ending (line.format.getD (.default kit.terminal)) result, w)

end Kit

end SmcKeys.Console
