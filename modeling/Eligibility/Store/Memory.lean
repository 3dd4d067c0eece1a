/-
# A store in memory

Entries carry the time at which they end and the tags of their last put.  The index leads from
a tag to the keys that carry it; a tag that no key carries is not in the index.  An entry whose
time is over is removed when it is next looked up.
-/

import Eligibility.Keyed
import Eligibility.Store.Basic

namespace Eligibility

/-- An entry of a store. -/
structure Entry where
  value : String
  /-- The time from which on the entry is over. -/
  expires : Double
  tags : List String

namespace Entry

/-- Whether the entry is over at a time. -/
def isOver (entry : Entry) (now : Double) : Bool := entry.expires.le now

end Entry

/-- The keys that carry each tag. -/
abbrev TagIndex := Keyed String (List String)

namespace TagIndex

/-- The keys that carry a tag. -/
def keysOf (index : TagIndex) (tag : String) : List String := (index.get? tag).getD []

/-- Put a key under a tag. -/
def add (index : TagIndex) (key tag : String) : TagIndex :=
  let keys := keysOf index tag
  index.insert tag (if keys.contains key then keys else keys ++ [key])

/-- Take a key from a tag, and the tag from the index when that was its last key. -/
def remove (index : TagIndex) (key tag : String) : TagIndex :=
  match index.get? tag with
  | none => index
  | some keys =>
    let rest := keys.filter (· != key)
    if rest.isEmpty then index.erase tag else index.insert tag rest

/-- Put a key under tags. -/
def addAll (index : TagIndex) (key : String) (tags : List String) : TagIndex :=
  tags.foldl (fun index tag => add index key tag) index

/-- Take a key from tags. -/
def removeAll (index : TagIndex) (key : String) (tags : List String) : TagIndex :=
  tags.foldl (fun index tag => remove index key tag) index

end TagIndex

/-- A store in memory. -/
structure Memory where
  now : Double := .ofNat 1000
  entries : Keyed String Entry := .empty
  index : TagIndex := .empty
  supportsTags : Bool := true
  yields : Bool := false

namespace Memory

/-- The store without an entry. -/
def remove (m : Memory) (key : String) : Memory :=
  match m.entries.get? key with
  | none => m
  | some entry =>
    { m with entries := m.entries.erase key, index := TagIndex.removeAll m.index key entry.tags }

/-- The text under a key whose time is not over. -/
def live? (m : Memory) (key : String) : Option String :=
  match m.entries.get? key with
  | none => none
  | some entry => if entry.isOver m.now then none else some entry.value

/-- Look a key up; an entry that is over is removed. -/
def get (m : Memory) (key : String) : Option String × Memory :=
  match m.live? key with
  | some value => (some value, m)
  | none => (none, m.remove key)

/-- The time at which an entry that is put now ends. A number of seconds without a double has
none. -/
def expiry (m : Memory) (lifetime : Int) : Except Failure Double :=
  match Double.ofInt? lifetime with
  | .ok seconds => .ok (m.now + seconds)
  | .error fault => .error (.number fault)

/-- Put an entry in place of the one that was there. -/
def put (m : Memory) (key : String) (entry : Entry) : Memory :=
  let m := m.remove key
  { m with entries := m.entries.insert key entry, index := TagIndex.addAll m.index key entry.tags }

/-- Remove a key, and tell whether there was one. -/
def delete (m : Memory) (key : String) : Bool × Memory := (m.entries.contains key, m.remove key)

/-- Remove keys, and tell how many there were. -/
def deleteAll (m : Memory) : List String → Nat × Memory
  | [] => (0, m)
  | key :: rest =>
    let (count, last) := (m.remove key).deleteAll rest
    (if m.entries.contains key then count + 1 else count, last)

/-- Remove the keys of a tag, and tell how many there were. -/
def dropTag (m : Memory) (tag : String) : Nat × Memory :=
  { m with index := m.index.erase tag }.deleteAll (TagIndex.keysOf m.index tag)

/-- Remove everything, and tell how many entries there were. -/
def flush (m : Memory) : Nat × Memory := (m.entries.size, { m with entries := .empty, index := .empty })

/-- The number of entries that end later than now. -/
def liveCount (m : Memory) : Nat := m.entries.toList.countP fun p => m.now.lt p.2.expires

/-- A description of the store. -/
def stats (m : Memory) : List (String × Value) :=
  [("backend", .text "memory"), ("entries", .int m.liveCount), ("tags", .int m.index.size),
    ("supports_tags", .bool m.supportsTags)]

/-- Let time pass. -/
def advance (m : Memory) (seconds : Double) : Memory := { m with now := m.now + seconds }

/-- Put a text for a number of seconds. What was under the key is gone even when the new entry
would have no end. -/
def putFor (key value : String) (lifetime : Int) (tags : List String) : Step Memory Unit := fun m =>
  match m.expiry lifetime with
  | .ok expires => ⟨.ok (), m.put key { value, expires, tags }, []⟩
  | .error failure => ⟨.error failure, m.remove key, []⟩

instance : Store Memory where
  supportsTags m := m.supportsTags
  yields m := m.yields
  start := pure ()
  stop := pure ()
  get key := Action.ofPair (·.get key)
  put := putFor
  delete key := Action.ofPair (·.delete key)
  holds key := Action.ofPair fun m => ((m.get key).1.isSome, (m.get key).2)
  dropTag tag := do
    let count ← Action.ofPair (·.dropTag tag)
    Action.note (.tagDropped count)
    return count
  flush := Action.ofPair (·.flush)
  stats := Action.ofPair fun m => (m.stats, m)

end Memory
end Eligibility
