import SmcKeys.Failure
import SmcKeys.Operation

namespace SmcKeys

open Log (Event)

/-- How the service is reached: opening, closing and calling by connection number, and where
the connections report what they do. -/
structure Service (σ : Type) where
  openNumber : σ → Except Fault UInt32 × σ
  closeNumber : UInt32 → σ → Except Fault Unit × σ
  call : UInt32 → UInt32 → Frame → σ → Outcome Answer × σ
  note : Event → σ → σ

/-- The service on a platform that has none: every attempt is refused. -/
def Service.absent (note : Event → σ → σ) : Service σ where
  openNumber s := (.error .unsupported, s)
  closeNumber _ s := (.error .unsupported, s)
  call _ _ _ s := (.returned (.error .unsupported), s)
  note := note

structure Connection where
  number : UInt32
  owned : Bool
  deriving DecidableEq

namespace Connection

def serviceName : String := "AppleSMC"

def acquire (service : Service σ) (s : σ) : Except Fault Connection × σ :=
  match service.openNumber s with
  | (.ok number, s) => (.ok ⟨number, true⟩, service.note (.connectionOpened number) s)
  | (.error fault, s) => (.error fault, s)

def forClient (service : Service σ) (s : σ) : Except Failure Connection × σ :=
  match acquire service s with
  | (result, s) => (result.mapError .transport, s)

/-- A connection of somebody else. -/
def borrowed (number : UInt32) : Connection := ⟨number, false⟩

def adopted (number : UInt32) : Connection := ⟨number, true⟩

def released (c : Connection) : Connection := { c with owned := false }

def closingEvent (c : Connection) : Except Fault Unit → Event
  | .ok () => .connectionClosed c.number
  | .error (.closeFailed code) => .closeFailed c.number code
  | .error fault => .nothingToClose c.number fault

def drop (service : Service σ) (c : Connection) (s : σ) : σ :=
  if c.owned then
    let (result, s) := service.closeNumber c.number s
    service.note (c.closingEvent result) s
  else s

/-- Closes the connection and reports what came of it. The ownership is given up before the attempt,
so that letting go of the connection afterwards makes no second one. -/
def close (service : Service σ) (c : Connection) (s : σ) : Except Fault Unit × σ :=
  let c := c.released
  match service.closeNumber c.number s with
  | (.ok (), s) => (.ok (), c.drop service (service.note (.connectionClosed c.number) s))
  | (.error fault, s) => (.error fault, c.drop service s)

@[simp] theorem drop_released (service : Service σ) (c : Connection) (s : σ) :
    c.released.drop service s = s := rfl

theorem close_eq (service : Service σ) (c : Connection) (s : σ) :
    c.close service s =
      match service.closeNumber c.number s with
      | (.ok (), s) => (.ok (), service.note (.connectionClosed c.number) s)
      | (.error fault, s) => (.error fault, s) := by
  simp only [close, drop_released]
  rfl

def text (c : Connection) : String :=
  "SmcConnection \x7b conn: " ++ toString c.number.toNat ++ ", owned: " ++ toString c.owned ++
    " \x7d"

end Connection

end SmcKeys
