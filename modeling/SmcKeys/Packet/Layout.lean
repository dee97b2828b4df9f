import SmcKeys.Packet.Basic

namespace SmcKeys

def frameSize : Nat := 80

abbrev Frame := Vector UInt8 frameSize

/-! Places of the C structure from which the gaps between its parts are computed. -/

namespace Layout

def firmware : Nat := 4
def limits : Nat := 12
def info : Nat := 28
def result : Nat := 40
def command : Nat := 42
def index : Nat := 44

end Layout

end SmcKeys
