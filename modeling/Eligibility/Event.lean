/-
# Events

What the engine, the stores and the service note while they work.  An event has a level, a text
and, for some, fields that count or classify what happened.
-/

import Eligibility.Value.Basic

namespace Eligibility

/-- How much an event matters. -/
inductive Level where
  | debug
  | info
  | warning
  | error
  | critical
  deriving DecidableEq

namespace Level

/-- The name of a level. -/
def text : Level → String
  | debug => "debug"
  | info => "info"
  | warning => "warning"
  | error => "error"
  | critical => "critical"

/-- The level that a word names. -/
def ofText? (s : String) : Option Level :=
  [debug, info, warning, error, critical].find? (·.text == s)

/-- The number that levels are compared by. -/
def number : Level → Nat
  | debug => 10
  | info => 20
  | warning => 30
  | error => 40
  | critical => 50

end Level

/-- Something that was noted. -/
inductive Event where
  /-- A comparison could not be carried out and counts as failed. -/
  | comparisonFailed
  /-- An operand of an ordering is no number. -/
  | notNumeric
  /-- What an actual value should be among is no list, or an empty one. -/
  | noMembers
  /-- A range is not a pair of numbers in order. -/
  | badRange
  | badPattern
  /-- An operand of a date comparison is no date. -/
  | notADate
  /-- A date range is not a pair. -/
  | badDateRange
  | ruleMisconfigured
  | ruleSkipped
  /-- A rule could not be evaluated at all. -/
  | ruleFailed
  | groupCombinationFailed
  | unknownTag
  /-- Rules outside groups do not count when there are groups. -/
  | rulesIgnored (count : Nat)
  | unknownMethod
  | badThreshold
  | noRules
  | combinationFailed
  | evaluated
  /-- The entries of a tag were dropped from a store in memory. -/
  | tagDropped (count : Nat)
  | clientStarted
  | clientStopped
  | clientStartFailed
  | clientFailed
  | clientHit
  | clientStored
  | clientTagDropped (count : Nat)
  | clientFlushed (count : Nat)
  | serviceStarted
  | serviceStopped
  | completed (fromStore : Bool)
  | storeFailed
  | batchCompleted
  | itemFailed
  | unhashableSubject
  | warmUpFailed
  | warmed
  | invalidated (byTag : Bool) (count : Nat)
  | flushed (count : Nat)
  | suspiciousValue
  | unreadableEntry
  deriving DecidableEq

namespace Event

/-- The level that an event is noted at. -/
def level : Event → Level
  | comparisonFailed => .debug
  | notNumeric => .debug
  | noMembers => .warning
  | badRange => .warning
  | badPattern => .warning
  | notADate => .debug
  | badDateRange => .warning
  | ruleMisconfigured => .warning
  | ruleSkipped => .debug
  | ruleFailed => .warning
  | groupCombinationFailed => .warning
  | unknownTag => .warning
  | rulesIgnored _ => .warning
  | unknownMethod => .warning
  | badThreshold => .warning
  | noRules => .debug
  | combinationFailed => .warning
  | evaluated => .debug
  | tagDropped _ => .debug
  | clientStarted => .info
  | clientStopped => .info
  | clientStartFailed => .error
  | clientFailed => .error
  | clientHit => .debug
  | clientStored => .debug
  | clientTagDropped _ => .info
  | clientFlushed _ => .info
  | serviceStarted => .info
  | serviceStopped => .info
  | completed _ => .info
  | storeFailed => .error
  | batchCompleted => .info
  | itemFailed => .warning
  | unhashableSubject => .warning
  | warmUpFailed => .warning
  | warmed => .info
  | invalidated .. => .info
  | flushed _ => .info
  | suspiciousValue => .warning
  | unreadableEntry => .warning

/-- The text of an event. -/
def text : Event → String
  | comparisonFailed => "Comparison failed closed"
  | notNumeric => "Non-numeric operand for ordering"
  | noMembers => "Membership operator requires a non-empty list"
  | badRange => "Range operator requires an ordered [low, high] pair"
  | badPattern => "Invalid regex pattern"
  | notADate => "Unparsable date operand"
  | badDateRange => "Date range requires a [start, end] pair"
  | ruleMisconfigured => "Rule configuration error"
  | ruleSkipped => "Rule skipped"
  | ruleFailed => "Rule evaluation error"
  | groupCombinationFailed => "Group combination error"
  | unknownTag => "Unsupported legacy group logic"
  | rulesIgnored _ => "Ungrouped rules ignored for criteria with explicit groups"
  | unknownMethod => "Unknown scoring method, using weighted"
  | badThreshold => "Invalid pass threshold, using configured default"
  | noRules => "Criteria has no rules"
  | combinationFailed => "Criteria combination error"
  | evaluated => "Criteria evaluated"
  | tagDropped _ => "Invalidated tag"
  | clientStarted => "Redis cache started"
  | clientStopped => "Redis cache stopped"
  | clientStartFailed => "Failed to start Redis cache"
  | clientFailed => "Redis cache operation failed"
  | clientHit => "Cache hit"
  | clientStored => "Cached evaluation"
  | clientTagDropped _ => "Invalidated cached evaluations"
  | clientFlushed _ => "Flushed cache namespace"
  | serviceStarted => "Eligibility service started"
  | serviceStopped => "Eligibility service stopped"
  | completed _ => "Evaluation completed"
  | storeFailed => "Cache backend failure"
  | batchCompleted => "Batch evaluation completed"
  | itemFailed => "Batch item evaluation failed"
  | unhashableSubject => "Unhashable batch subject"
  | warmUpFailed => "Cache warm-up failed"
  | warmed => "Cache warmed"
  | invalidated .. => "Criteria cache invalidated"
  | flushed _ => "Evaluation cache flushed"
  | suspiciousValue => "Suspicious subject value"
  | unreadableEntry => "Discarding unreadable cached evaluation"

/-- The way in which a store dropped the entries of a criteria. -/
def modeText (byTag : Bool) : String := if byTag then "tag" else "flush"

/-- The fields of an event that tell how many or which. -/
def fields : Event → List (String × Value)
  | rulesIgnored count => [("ignored", .int count)]
  | tagDropped count => [("count", .int count)]
  | clientTagDropped count => [("count", .int count)]
  | clientFlushed count => [("count", .int count)]
  | completed fromStore => [("cache_hit", .bool fromStore)]
  | invalidated byTag count => [("mode", .text (modeText byTag)), ("count", .int count)]
  | flushed count => [("count", .int count)]
  | _ => []

end Event
end Eligibility
