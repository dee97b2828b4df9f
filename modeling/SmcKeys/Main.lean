import SmcKeys.Console.Session

namespace SmcKeys

def deliver (transcript : Console.Transcript) : IO UInt32 := do
  let out ← IO.getStdout
  out.write (ByteArray.mk transcript.printed.toBytes.toArray)
  out.flush
  for message in transcript.messages do
    IO.eprintln message
  return UInt32.ofNat transcript.exitCode

end SmcKeys

def main (arguments : List String) : IO UInt32 := do
  let terminal ← (← IO.getStdout).isTty
  let environment ← IO.getEnv "RUST_LOG"
  let start : SmcKeys.World Unit := { controller := () }
  let (transcript, _) :=
    SmcKeys.Console.session (.absent SmcKeys.World.note) terminal environment arguments start
  SmcKeys.deliver transcript
