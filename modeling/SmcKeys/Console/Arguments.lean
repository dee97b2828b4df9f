import SmcKeys.Console.Kit

/-!
Options may stand before or behind the name of the command, the latter ones winning. A value that
follows its option is looked at only when the next argument is accepted.
-/

namespace SmcKeys.Console

inductive Verb where
  | read
  | write
  | info
  | keyAt
  | version
  deriving DecidableEq

def Verb.named? (text : String) : Option Verb :=
  if text = "read" then some .read
  else if text = "write" then some .write
  else if text = "info" then some .info
  else if text = "key-at" then some .keyAt
  else if text = "version" then some .version
  else none

/-- The level of the command line that is being read: before the command's name, or behind. -/
abbrev Scope := Option Verb

inductive Slot where
  | format
  | logStyle
  | logLevel
  | key
  | data
  | index
  deriving DecidableEq

inductive Mark where
  | valued (slot : Slot)
  | extended
  | help
  | version
  deriving DecidableEq

def Scope.operands : Scope → List Slot
  | some .read => [.key]
  | some .write => [.key, .data]
  | some .info => [.key]
  | some .keyAt => [.index]
  | some .version => []
  | none => []

def Scope.longMark? (scope : Scope) (name : String) : Option Mark :=
  if name = "format" then some (.valued .format)
  else if name = "log-format" then some (.valued .logStyle)
  else if name = "log-level" then some (.valued .logLevel)
  else if name = "help" then some .help
  else if name = "version" ∧ scope = none then some .version
  else if name = "extended" ∧ scope = some .version then some .extended
  else none

def Scope.shortMark? (scope : Scope) (c : Char) : Option Mark :=
  if c = 'h' then some .help
  else if c = 'V' ∧ scope = none then some .version
  else none

structure Given where
  format : Option Format := none
  logStyle : Option Log.Style := none
  logLevel : Option Log.Level := none
  key : Option String := none
  data : Option String := none
  index : Option UInt32 := none
  extended : Bool := false
  deriving DecidableEq

def formatNamed? (text : String) : Option Format :=
  if text = "json" then some .json
  else if text = "table" then some .table
  else if text = "pretty" then some .pretty
  else if text = "raw" then some .raw
  else none

def styleNamed? (text : String) : Option Log.Style :=
  if text = "text" then some .text
  else if text = "json" then some .json
  else none

def levelNamed? (text : String) : Option Log.Level :=
  if text = "error" then some .error
  else if text = "warn" then some .warn
  else if text = "info" then some .info
  else if text = "debug" then some .debug
  else if text = "trace" then some .trace
  else none

def digitsValue? (digits : List Char) : Option Nat :=
  if digits.isEmpty ∨ digits.any (fun c => !c.isDigit) then none
  else some (digits.foldl (fun n c => 10 * n + (c.toNat - 0x30)) 0)

/-- A decimal number with an optional sign that fits 32 bits; a minus sign fits zero alone. -/
def parseIndex? (text : String) : Option UInt32 :=
  match text.toList with
  | '+' :: digits => (digitsValue? digits).bind ofNat?
  | '-' :: digits => (digitsValue? digits).bind fun n => if n = 0 then some 0 else none
  | digits => (digitsValue? digits).bind ofNat?
where
  ofNat? (n : Nat) : Option UInt32 :=
    if n < UInt32.size then some (UInt32.ofNat n) else none

namespace Given

def fill (place : Option α) (value : Option α) (refusal : Refusal) : Except Refusal (Option α) :=
  if place.isSome then .error .repeated
  else
    match value with
    | some value => .ok (some value)
    | none => .error refusal

def store (slot : Slot) (text : String) (g : Given) : Except Refusal Given :=
  match slot with
  | .format => do return { g with format := ← fill g.format (formatNamed? text) .badChoice }
  | .logStyle => do
      return { g with logStyle := ← fill g.logStyle (styleNamed? text) .badChoice }
  | .logLevel => do
      return { g with logLevel := ← fill g.logLevel (levelNamed? text) .badChoice }
  | .key => do return { g with key := ← fill g.key (some text) .badChoice }
  | .data => do return { g with data := ← fill g.data (some text) .badChoice }
  | .index => do return { g with index := ← fill g.index (parseIndex? text) .badNumber }

def isBare (g : Given) : Bool :=
  g.format.isNone && g.logStyle.isNone && g.logLevel.isNone

/-- The values given behind the command's name, or else before it. -/
def orElse (inner outer : Given) : Given :=
  { inner with
    format := inner.format <|> outer.format
    logStyle := inner.logStyle <|> outer.logStyle
    logLevel := inner.logLevel <|> outer.logLevel }

end Given

/-- A place that has been named, and its value once that has been read. -/
structure Pending where
  slot : Slot
  text : Option String

structure Scan where
  given : Given := {}
  pending : Option Pending := none
  operands : List Slot
  /-- Set by `--`: from here on there are operands only. -/
  plain : Bool := false

namespace Scan

def waits (s : Scan) : Bool :=
  match s.pending with
  | some pending => pending.text.isNone
  | none => false

def settle (s : Scan) : Except Refusal Scan :=
  match s.pending with
  | none => .ok s
  | some ⟨_, none⟩ => .error .badChoice
  | some ⟨slot, some text⟩ => do
      return { s with given := ← s.given.store slot text, pending := none }

def setExtended (s : Scan) : Except Refusal Scan :=
  if s.given.extended then .error .repeated
  else .ok { s with given := { s.given with extended := true } }

def mark (m : Mark) (s : Scan) : Except Refusal Scan := do
  let s ← s.settle
  match m with
  | .valued slot => return { s with pending := some ⟨slot, none⟩ }
  | .extended => s.setExtended
  | .help => .error .help
  | .version => .error .version

def markWith (m : Mark) (text : String) (s : Scan) : Except Refusal Scan :=
  match m with
  | .valued slot => do
      let s ← s.settle
      return { s with given := ← s.given.store slot text }
  | _ => .error .unwantedValue

def long (scope : Scope) (body : List Char) (s : Scan) : Except Refusal Scan :=
  let name := String.ofList (body.takeWhile (· != '='))
  match scope.longMark? name with
  | none => .error .unknownArgument
  | some m =>
      match body.dropWhile (· != '=') with
      | [] => s.mark m
      | _ :: text => s.markWith m (String.ofList text)

/-- Single letters; none of them takes a value, and each that is known ends the reading. -/
def short (scope : Scope) (c : Char) (s : Scan) : Except Refusal Scan :=
  match scope.shortMark? c with
  | none => .error .unknownArgument
  | some m => s.mark m

/-- Refuses an argument for which there is no place. -/
def noPlace (scope : Scope) (argument : String) (s : Scan) : Refusal :=
  if scope.isSome then .unknownArgument
  else if s.plain ∧ ((Verb.named? argument).isSome ∨ argument = "help") then .unknownArgument
  else .unknownCommand

def operand (scope : Scope) (argument : String) (s : Scan) : Except Refusal Scan :=
  match s.operands with
  | [] => .error (s.noPlace scope argument)
  | slot :: rest => do
      let s ← s.settle
      return { s with pending := some ⟨slot, some argument⟩, operands := rest }

def valueOrOperand (scope : Scope) (argument : String) (s : Scan) : Except Refusal Scan :=
  match s.pending with
  | some ⟨slot, none⟩ => .ok { s with pending := some ⟨slot, some argument⟩ }
  | _ => s.operand scope argument

def take (scope : Scope) (argument : String) (s : Scan) : Except Refusal Scan :=
  if s.plain then s.operand scope argument
  else
    match argument.toList with
    | ['-', '-'] => .ok { s with plain := true }
    | '-' :: '-' :: body => s.long scope body
    | '-' :: c :: _ => s.short scope c
    | _ => s.valueOrOperand scope argument

end Scan

def helpOn : List String → Refusal
  | [] => .help
  | [topic] =>
      if (Verb.named? topic).isSome ∨ topic = "help" then .help else .unknownCommand
  | _ => .unknownCommand

def scanOperands (verb : Verb) : List String → Scan → Except Refusal Scan
  | [], s => .ok s
  | argument :: rest, s => do
      let s ← s.take (some verb) argument
      scanOperands verb rest s

def scanOptions : List String → Scan → Except Refusal (Scan × Option (Verb × List String))
  | [], s => .ok (s, none)
  | argument :: rest, s =>
      let named := if s.plain ∨ s.waits then none else Verb.named? argument
      match named with
      | some verb => .ok (s, some (verb, rest))
      | none =>
          if ¬(s.plain ∨ s.waits) ∧ argument = "help" then .error (helpOn rest)
          else do
            let s ← s.take none argument
            scanOptions rest s

def required (place : Option α) : Except Refusal α :=
  match place with
  | some value => .ok value
  | none => .error .missingArgument

def Given.command (verb : Verb) (g : Given) : Except Refusal Command :=
  match verb with
  | .read => return .read (← required g.key)
  | .write => do
      let key ← required g.key
      return .write key (← required g.data)
  | .info => return .info (← required g.key)
  | .keyAt => return .keyAt (← required g.index)
  | .version => return .version g.extended

def parseOperands (verb : Verb) (arguments : List String) : Except Refusal (Given × Command) := do
  let s ← scanOperands verb arguments { operands := Scope.operands (some verb) }
  let s ← s.settle
  return (s.given, ← s.given.command verb)

def CommandLine.parse (arguments : List String) : Except Refusal CommandLine := do
  let (s, rest) ← scanOptions arguments { operands := [] }
  match rest with
  | none =>
      let s ← s.settle
      .error (if s.given.isBare then .helpForNothing else .missingCommand)
  | some (verb, rest) =>
      let (inner, command) ← parseOperands verb rest
      let s ← s.settle
      let given := inner.orElse s.given
      return {
        format := given.format
        logStyle := given.logStyle.getD .text
        logLevel := given.logLevel.getD .warn
        command }

end SmcKeys.Console
