import SmcKeys.Bench.Rig
import SmcKeys.Client

namespace SmcKeys.Bench

open Log (Event)

inductive ClientWork where
  | keyInfo (key : Code)
  | read (key : Code)
  | readText (text : String)
  | readInto (key : Code) (buffer : Value)
  | write (value : Value)
  | writeNew (key type : Code) (data : List UInt8)
  | keyAt (index : UInt32)
  | describe
  | config
  | rawCall (selector : UInt32) (request : Frame)
  | putEntry (entry : Entry)
  | removeKey (key : Code)
  | cacheGet (key : Code)
  | cacheInsert (key : Code) (info : KeyInfo)
  | cacheReset
  | look

inductive ClientStep where
  | work (client : Nat) (work : ClientWork)
  | push (client : Nat) (replies : List (Reply ClientStep))

inductive ClientResult where
  | info (result : Except Failure KeyInfo)
  | value (result : Except Failure Value)
  | reading (reading : Reading)
  | done (result : Except Failure Unit)
  | code (result : Except Failure Code)
  | text (text : String)
  | config (config : Config)
  | answer (answer : Answer)
  | found (info : Option KeyInfo)
  | retained (info : KeyInfo)
  | nothing
  | panicked

instance : Inhabited ClientStep := ⟨.work 0 .look⟩

namespace ClientStep

def client : ClientStep → Nat
  | .work client _ => client
  | .push client _ => client

mutual

def replies : ClientStep → Nat
  | .work _ _ => 0
  | .push _ rs => repliesOfList rs

def repliesOfList : List (Reply ClientStep) → Nat
  | [] => 0
  | r :: rest => repliesOfReply r + repliesOfList rest

def repliesOfReply : Reply ClientStep → Nat
  | ⟨before, _⟩ => 1 + repliesOfSteps before

def repliesOfSteps : List ClientStep → Nat
  | [] => 0
  | step :: rest => replies step + repliesOfSteps rest

end

end ClientStep

/-- A client: which cache it uses, and how it is set up. -/
structure ClientSetup where
  cache : Nat
  config : Config

structure Clients where
  caches : List Cache
  clients : List ClientSetup
  rig : Rig ClientStep
  log : List Event := []

namespace Clients

def setup (i : Nat) (b : Clients) : ClientSetup :=
  b.clients.getD i ⟨0, {}⟩

def cacheOf (i : Nat) (b : Clients) : Cache :=
  b.caches.getD (b.setup i).cache {}

def setCacheOf (i : Nat) (cache : Cache) (b : Clients) : Clients :=
  { b with caches := b.caches.set (b.setup i).cache cache }

def mount : Mount ClientStep Clients where
  rig b := b.rig
  setRig rig b := { b with rig }

def logAll (events : List Event) (b : Clients) : Clients :=
  { b with log := b.log ++ events }

def site (act : ClientStep → Clients → Outcome Unit × Clients) (i : Nat) : Site Clients where
  cache := cacheOf i
  setCache := setCacheOf i
  note event := logAll [event]
  call := Rig.call mount act 0

def operate (act : ClientStep → Clients → Outcome Unit × Clients) (i : Nat)
    (operation : Operation α) (wrap : α → ClientResult) (b : Clients) : ClientResult × Clients :=
  match operation.run (site act i) b with
  | (.returned a, b) => (wrap a, b)
  | (.panicked, b) => (.panicked, b)

def useCache (i : Nat) (use : Cache → Cache.Use α) (wrap : α → ClientResult) (b : Clients) :
    ClientResult × Clients :=
  let u := use (b.cacheOf i)
  (wrap u.result, (b.setCacheOf i u.cache).logAll u.events)

def work (act : ClientStep → Clients → Outcome Unit × Clients) (i : Nat) (w : ClientWork)
    (b : Clients) : ClientResult × Clients :=
  let config := (b.setup i).config
  match w with
  | .keyInfo key => b.operate act i (Client.keyInfo config key) .info
  | .read key => b.operate act i (Client.read config key) .value
  | .readText text => b.operate act i (Client.readText config text) .value
  | .readInto key buffer => b.operate act i (Client.readInto config key buffer) .reading
  | .write value => b.operate act i (Client.write config value) .done
  | .writeNew key type data =>
      match Value.ofBytes key type data with
      | .ok value => b.operate act i (Client.write config value) .done
      | .error cause => (.done (.error (.malformed cause)), b)
  | .keyAt index => b.operate act i (Client.keyAt config index) .code
  | .describe => (.text (Client.text config (b.cacheOf i)), b)
  | .config => (.config config, b)
  | .rawCall selector request => b.operate act i (.call selector request .done) .answer
  | .putEntry entry => (.nothing, { b with rig := { b.rig with bank := b.rig.bank.put entry } })
  | .removeKey key => (.nothing, { b with rig := { b.rig with bank := b.rig.bank.remove key } })
  | .cacheGet key => b.useCache i (Cache.get key) .found
  | .cacheInsert key info => b.useCache i (Cache.insert key info) .retained
  | .cacheReset => b.useCache i Cache.reset fun _ => .nothing
  | .look => (.nothing, b)

def stepWith (act : ClientStep → Clients → Outcome Unit × Clients) (step : ClientStep)
    (b : Clients) : ClientResult × Clients :=
  match step with
  | .work i w => b.work act i w
  | .push _ replies => (.nothing, { b with rig := b.rig.push replies })

/-- Each level of nesting uses up a reply of the queue, so their number is a depth that is never
reached. -/
def step : Nat → ClientStep → Clients → ClientResult × Clients
  | 0 => stepWith fun _ b => (.returned (), b)
  | depth + 1 => stepWith fun inner b =>
      match step depth inner b with
      | (.panicked, b) => (.panicked, b)
      | (_, b) => (.returned (), b)

structure Observation where
  result : ClientResult
  calls : List CallRecord
  cache : Cache
  events : List Event

def observe (depth : Nat) (s : ClientStep) (b : Clients) : Observation × Clients :=
  let (result, b) := step depth s { b with rig := { b.rig with calls := [] }, log := [] }
  (⟨result, b.rig.calls, b.cacheOf s.client, b.log⟩, b)

def observeAll (depth : Nat) : List ClientStep → Clients → List Observation
  | [], _ => []
  | s :: rest, b =>
      let (o, b) := b.observe depth s
      o :: observeAll depth rest b

def run (steps : List ClientStep) (b : Clients) : List Observation :=
  observeAll (ClientStep.repliesOfList b.rig.queue + ClientStep.repliesOfSteps steps) steps b

end Clients

end SmcKeys.Bench
