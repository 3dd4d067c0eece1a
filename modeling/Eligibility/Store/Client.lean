/-
# Clients

A client keeps values under keys and sets of members under keys, and obeys commands one at a
time.  It remembers the commands it was given, also those that it failed to obey.  When and how
it fails is given beforehand: for each word, what is to happen at the next commands of that word.

Keys are scanned in pages through a snapshot that is taken when the scan begins.
-/

import Eligibility.Keyed
import Eligibility.Step

namespace Eligibility

/-- A command for a client. -/
inductive Command where
  | ping
  | close
  | value (key : String)
  /-- Keep a value for a number of seconds. -/
  | keep (key : String) (lifetime : Int) (value : String)
  | addMember (key member : String)
  | expire (key : String) (lifetime : Int)
  | members (key : String)
  | remove (keys : List String)
  | holds (key : String)
  /-- The next page of the keys that start so. -/
  | scan (cursor : Nat) (start : String) (count : Nat)
  | usage

namespace Command

/-- The word of a command. -/
def word : Command → String
  | ping => "ping"
  | close => "close"
  | value _ => "get"
  | keep .. => "setex"
  | addMember .. => "sadd"
  | expire .. => "expire"
  | members _ => "smembers"
  | remove _ => "delete"
  | holds _ => "exists"
  | scan .. => "scan"
  | usage => "info"

/-- What follows the word. -/
def arguments : Command → List Value
  | ping => []
  | close => []
  | value key => [.text key]
  | keep key lifetime v => [.text key, .int lifetime, .text v]
  | addMember key member => [.text key, .text member]
  | expire key lifetime => [.text key, .int lifetime]
  | members key => [.text key]
  | remove keys => keys.map .text
  | holds key => [.text key]
  | scan cursor start count => [.int cursor, .text (start ++ "*"), .int count]
  | usage => [.text "memory"]

end Command

/-- How a client fails. Faults that are not its own come from elsewhere, and a store does not
answer for them. -/
structure ClientFault where
  kind : String
  message : String
  own : Bool

/-- A client. -/
structure Client where
  values : Keyed String String := .empty
  sets : Keyed String (List String) := .empty
  /-- The keys of the scan that is going on. -/
  snapshot : List String := []
  page : Nat := 2
  page_pos : 0 < page := by decide
  /-- What is to happen at the next commands of a word; none is no fault. -/
  faults : Keyed String (List (Option ClientFault)) := .empty
  commands : List Command := []

/-- An exchange with a client. -/
abbrev Exchange : Type → Type := Action ClientFault Client

namespace Client

/-- What is to happen at the next command of a word. -/
def pending (c : Client) (word : String) : List (Option ClientFault) :=
  (c.faults.get? word).getD []

/-- Give a command, which the client remembers and may fail to obey. -/
def give (command : Command) : Exchange Unit := fun c =>
  let c := { c with commands := c.commands ++ [command] }
  match c.pending command.word with
  | [] => ⟨.ok (), c, []⟩
  | next :: later =>
    let c := { c with faults := c.faults.insert command.word later }
    match next with
    | none => ⟨.ok (), c, []⟩
    | some fault => ⟨.error fault, c, []⟩

/-- The next command of a word fails so, whatever was to happen before. -/
def failNext (c : Client) (word : String) (fault : ClientFault) : Client :=
  { c with faults := c.faults.insert word [some fault] }

/-- Whether there is something under a key. -/
def has (c : Client) (key : String) : Bool := c.values.contains key || c.sets.contains key

/-- The client without what is under a key. -/
def drop (c : Client) (key : String) : Client :=
  { c with values := c.values.erase key, sets := c.sets.erase key }

/-- Remove keys, and tell how many there were. -/
def dropAll (c : Client) : List String → Nat × Client
  | [] => (0, c)
  | key :: rest =>
    let (count, last) := (c.drop key).dropAll rest
    (if c.has key then count + 1 else count, last)

/-- The keys of values and sets, each once. -/
def keys (c : Client) : List String :=
  c.values.keys ++ c.sets.keys.filter fun key => !c.values.contains key

/-- Texts in order. -/
def sorted (texts : List String) : List String := texts.mergeSort fun a b => decide (a ≤ b)

/-- The keys that start with a text, in order. -/
def keysFrom (c : Client) (start : String) : List String :=
  sorted (c.keys.filter fun key => start.toList.isPrefixOf key.toList)

/-- The members of a set. -/
def membersOf (c : Client) (key : String) : List String := sorted ((c.sets.get? key).getD [])

/-- Put a member into a set. -/
def addTo (c : Client) (key member : String) : Client :=
  let old := (c.sets.get? key).getD []
  let new := if old.contains member then old else old ++ [member]
  { c with sets := c.sets.insert key new }

/-- Take the snapshot for a scan that begins. -/
def beginScan (c : Client) (cursor : Nat) (start : String) : Client :=
  if cursor = 0 then { c with snapshot := c.keysFrom start } else c

/-- The cursor behind the page at a cursor; zero at the end. -/
def nextCursor (c : Client) (cursor : Nat) : Nat :=
  if cursor + c.page < c.snapshot.length then cursor + c.page else 0

/-- The page at a cursor. -/
def pageAt (c : Client) (cursor : Nat) : List String := (c.snapshot.drop cursor).take c.page

/-- See whether the client answers. -/
def ping : Exchange Unit := give .ping

/-- End the connection. -/
def close : Exchange Unit := give .close

/-- The value under a key. -/
def value (key : String) : Exchange (Option String) := do
  give (.value key)
  Action.ofPair fun c => (c.values.get? key, c)

/-- Keep a value under a key. -/
def keep (key : String) (lifetime : Int) (value : String) : Exchange Unit := do
  give (.keep key lifetime value)
  Action.modify fun c => { c with values := c.values.insert key value }

/-- Put a member into the set under a key. -/
def addMember (key member : String) : Exchange Unit := do
  give (.addMember key member)
  Action.modify (·.addTo key member)

/-- Let a key end after a number of seconds. -/
def expire (key : String) (lifetime : Int) : Exchange Unit := give (.expire key lifetime)

/-- The members of the set under a key, in order. -/
def members (key : String) : Exchange (List String) := do
  give (.members key)
  Action.ofPair fun c => (c.membersOf key, c)

/-- Remove keys, and tell how many there were. -/
def remove (keys : List String) : Exchange Nat := do
  give (.remove keys)
  Action.ofPair (·.dropAll keys)

/-- Whether there is something under a key. -/
def holds (key : String) : Exchange Bool := do
  give (.holds key)
  Action.ofPair fun c => (c.has key, c)

/-- The page at a cursor of the keys that start with a text, and the cursor behind it. -/
def scan (cursor : Nat) (start : String) (count : Nat) : Exchange (Nat × List String) := do
  give (.scan cursor start count)
  Action.ofPair fun c =>
    let c := c.beginScan cursor start
    ((c.nextCursor cursor, c.pageAt cursor), c)

/-- How much memory is in use, for people to read. -/
def usage : Exchange String := do
  give .usage
  return "1.00M"

end Client
end Eligibility
