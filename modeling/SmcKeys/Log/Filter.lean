import SmcKeys.Log.Event
import SmcKeys.Pattern.Reading
import SmcKeys.Text.Number
import SmcKeys.Text.Utf8

/-!
White space around a directive is skipped on the way in, but the places of its parts are counted in
bytes from where the reading began and then looked up in the text as it is.
-/

namespace SmcKeys.Log

/-- The most detail that is let through; nothing at all without a level. -/
abbrev Limit := Option Level

namespace Limit

def admits (limit : Limit) (level : Level) : Bool :=
  match limit with
  | some most => decide (level.rank ≤ most.rank)
  | none => false

def ofRank? : Nat → Option Limit
  | 0 => some none
  | 1 => some (some .error)
  | 2 => some (some .warn)
  | 3 => some (some .info)
  | 4 => some (some .debug)
  | 5 => some (some .trace)
  | _ => none

def ofName? (text : List Char) : Option Limit :=
  let name := String.ofList (text.map Char.toLower)
  if name = "off" then some none
  else if name = "error" then some (some .error)
  else if name = "warn" then some (some .warn)
  else if name = "info" then some (some .info)
  else if name = "debug" then some (some .debug)
  else if name = "trace" then some (some .trace)
  else none

def number? (text : List Char) : Option Nat :=
  let digits := match text with
    | '+' :: rest => rest
    | all => all
  if digits.isEmpty ∨ digits.any (fun c => !c.isDigit) then none
  else some (digits.foldl (fun n c => 10 * n + (c.toNat - 0x30)) 0)

def parse? (text : List Char) : Option Limit :=
  if text.isEmpty then some (some .error)
  else
    match number? text with
    | some n => ofRank? n
    | none => ofName? text

end Limit

inductive Flaw where
  | malformed
  /-- A part would begin or end within a character. -/
  | splitCharacter
  deriving DecidableEq

structure Directive where
  target : Option String := none
  span : Option String := none
  fields : List (String × Bool) := []
  limit : Limit := some .trace
  deriving DecidableEq

namespace Directive

/-- How far a directive has been read. A number is the place where the part began, in bytes. -/
inductive Stage where
  | start
  | levelOrTarget
  | span (first : Nat)
  | field (first : Nat)
  | fields
  | target
  | level (first : Nat)

/-- The characters from one place up to another. -/
def part (whole : List Char) (first last : Nat) : Except Flaw (List Char) :=
  match Text.slice? first last whole with
  | some text => .ok text
  | none => .error .splitCharacter

def partFrom (whole : List Char) (first : Nat) : Except Flaw (List Char) :=
  match Text.splitAt? first whole with
  | some (_, text) => .ok text
  | none => .error .splitCharacter

def mayStart (c : Char) : Bool :=
  c == '-' || c == ':' || c == '_' || Text.isAlphanumeric c

def nonEmpty? (text : List Char) : Option String :=
  if text.isEmpty then none else some (String.ofList text)

def isValue (text : List Char) : Bool :=
  Text.isNumber text || Pattern.isPattern text

/-- A field name, with a value after an equals sign if there is one. A second equals sign ends
the value. -/
def field (text : List Char) : Except Flaw (String × Bool) :=
  let name := String.ofList (text.takeWhile (· != '='))
  match text.dropWhile (· != '=') with
  | [] => if text.isEmpty then .error .malformed else .ok (name, false)
  | _ :: value =>
      if isValue (value.takeWhile (· != '=')) then .ok (name, true) else .error .malformed

def limitOf (text : List Char) : Except Flaw Limit :=
  match Limit.parse? text with
  | some limit => .ok limit
  | none => .error .malformed

def step (whole : List Char) (place : Nat) (c : Char) :
    Stage × Directive → Except Flaw (Stage × Directive)
  | (.start, d) =>
      if c = '[' then .ok (.span (place + 1), d)
      else if mayStart c then .ok (.levelOrTarget, d)
      else .error .malformed
  | (.levelOrTarget, d) =>
      if c = '=' then do
        let target ← part whole 0 place
        return (.level (place + 1), { d with target := some (String.ofList target) })
      else if c = '[' then do
        let target ← part whole 0 place
        return (.span (place + 1), { d with target := some (String.ofList target) })
      else .ok (.levelOrTarget, d)
  | (.span first, d) =>
      if c = ']' then do
        let span ← part whole first place
        return (.target, { d with span := some (String.ofList span) })
      else if c = '\x7b' then do
        let span ← part whole first place
        return (.field (place + 1), { d with span := nonEmpty? span })
      else .ok (.span first, d)
  | (.field first, d) =>
      if c = '\x7d' then do
        let text ← part whole first place
        let f ← field text
        return (.fields, { d with fields := d.fields ++ [f] })
      else .ok (.field first, d)
  | (.fields, d) => if c = ']' then .ok (.target, d) else .error .malformed
  | (.target, d) => if c = '=' then .ok (.level (place + 1), d) else .error .malformed
  | (.level first, d) => .ok (.level first, d)

def steps (whole : List Char) (place : Nat) :
    List Char → Stage × Directive → Except Flaw (Stage × Directive)
  | [], s => .ok s
  | c :: rest, s => (step whole place c s).bind (steps whole (place + c.utf8Size) rest)

/-- A text that is no limit is a target, with all of its detail. -/
def finish (whole : List Char) : Stage × Directive → Except Flaw Directive
  | (.levelOrTarget, d) =>
      match Limit.parse? whole with
      | some limit => .ok { d with limit }
      | none => .ok { d with target := some (String.ofList whole) }
  | (.level first, d) => do
      let text ← partFrom whole first
      if text.isEmpty then return d
      else return { d with limit := ← limitOf text }
  | (.target, d) => .ok d
  | _ => .error .malformed

def read (text : List Char) : Except Flaw Directive :=
  (steps text 0 (Text.trim text) (.start, {})).bind (finish text)

/-- Whether the directive speaks of all events alike, and not of those within spans. -/
def isStatic (d : Directive) : Bool :=
  d.span.isNone && !d.fields.any (·.2)

def fieldNames (d : Directive) : List String :=
  d.fields.map (·.1)

def matchesEvent (e : Event) (d : Directive) : Bool :=
  (match d.target with
    | some target => target.toList.isPrefixOf e.target.toList
    | none => true) &&
  d.fieldNames.all fun name => name == "message" || e.fields.any fun f => f.1 == name

/-- Length of the target in bytes, one more than that, so that a missing one comes last. -/
def targetRank (d : Directive) : Nat :=
  match d.target with
  | some target => target.utf8ByteSize + 1
  | none => 0

def compareNames : List String → List String → Ordering
  | [], [] => .eq
  | [], _ :: _ => .lt
  | _ :: _, [] => .gt
  | a :: as, b :: bs => (compare a b).then (compareNames as bs)

def compareSpecificity (a b : Directive) : Ordering :=
  (compare a.targetRank b.targetRank)
    |>.then (compare a.fields.length b.fields.length)
    |>.then (compare (a.target.getD "") (b.target.getD ""))
    |>.then (compareNames a.fieldNames b.fieldNames)

def place (d : Directive) : List Directive → List Directive
  | [] => [d]
  | other :: rest =>
      match compareSpecificity d other with
      | .gt => d :: other :: rest
      | .eq => d :: rest
      | .lt => other :: place d rest

end Directive

structure Filter where
  directives : List Directive

namespace Filter

def splitCommas : List Char → List (List Char)
  | [] => [[]]
  | c :: rest =>
      if c = ',' then [] :: splitCommas rest
      else
        match splitCommas rest with
        | [] => [[c]]
        | text :: texts => (c :: text) :: texts

/-- Without any directive, errors are written. -/
def ofDirectives (ds : List Directive) : Filter :=
  if ds.isEmpty then ⟨[{ limit := some .error }]⟩
  else ⟨(ds.filter (·.isStatic)).foldl (fun placed d => d.place placed) []⟩

/-- Reads a filter; the first of its directives that is flawed decides. -/
def read (text : String) : Except Flaw Filter :=
  let texts := (splitCommas text.toList).filter (!·.isEmpty)
  (texts.mapM Directive.read).map ofDirectives

def readSound (text : String) : Filter :=
  ofDirectives <| (splitCommas text.toList).filterMap fun text =>
    if text.isEmpty then none else (Directive.read text).toOption

def admits (f : Filter) (e : Event) : Bool :=
  match f.directives.find? (·.matchesEvent e) with
  | some d => d.limit.admits e.level
  | none => false

end Filter

end SmcKeys.Log
