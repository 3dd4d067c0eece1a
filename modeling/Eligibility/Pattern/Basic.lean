/-
# Search patterns

A pattern is a sequence of nodes: characters, sets of characters, anchors, groups, repetitions,
alternatives, looks ahead and behind, references to groups and choices by a group.  Switches
change how characters are compared; a group may turn some on or off for its body.

The width of a sequence, the least and the most characters that it can match, decides which
sequences may be looked for behind a place: only those with one width.
-/

namespace Eligibility
namespace Pattern

/-- Why a text is no pattern. -/
inductive Fault where
  /-- The text breaks the grammar of patterns. -/
  | malformed
  /-- A repetition asks for more rounds than can be counted. -/
  | repetitionTooLarge
  /-- The switches ask for ASCII and for Unicode at once. -/
  | incompatibleSwitches
  deriving DecidableEq

/-- The switches of a pattern. -/
structure Switches where
  ignoreCase : Bool := false
  multiline : Bool := false
  dotAll : Bool := false
  verbose : Bool := false
  ascii : Bool := false
  unicode : Bool := false
  plainTemplate : Bool := false
  deriving DecidableEq

namespace Switches

/-- The switch of a letter. -/
def ofLetter? : Char → Option Switches
  | 'i' => some { ignoreCase := true }
  | 'm' => some { multiline := true }
  | 's' => some { dotAll := true }
  | 'x' => some { verbose := true }
  | 'a' => some { ascii := true }
  | 'u' => some { unicode := true }
  | 't' => some { plainTemplate := true }
  | _ => none

/-- The switches that are on in either. -/
def union (a b : Switches) : Switches where
  ignoreCase := a.ignoreCase || b.ignoreCase
  multiline := a.multiline || b.multiline
  dotAll := a.dotAll || b.dotAll
  verbose := a.verbose || b.verbose
  ascii := a.ascii || b.ascii
  unicode := a.unicode || b.unicode
  plainTemplate := a.plainTemplate || b.plainTemplate

/-- The switches that are on in the first and off in the second. -/
def without (a b : Switches) : Switches where
  ignoreCase := a.ignoreCase && !b.ignoreCase
  multiline := a.multiline && !b.multiline
  dotAll := a.dotAll && !b.dotAll
  verbose := a.verbose && !b.verbose
  ascii := a.ascii && !b.ascii
  unicode := a.unicode && !b.unicode
  plainTemplate := a.plainTemplate && !b.plainTemplate

/-- Whether some switch is on in both. -/
def overlaps (a b : Switches) : Bool := decide (a.without b ≠ a)

/-- Whether the switch chooses the characters that count as letters and digits. -/
def choosesAlphabet (a : Switches) : Bool := a.ascii || a.unicode

/-- The switches inside a group that turns some on and some off. A choice of alphabet replaces
the one in force. -/
def within (a on off : Switches) : Switches :=
  let base := if on.choosesAlphabet then { a with ascii := false, unicode := false } else a
  (base.union on).without off

/-- The letters of the switches that a delimited pattern can carry, in a fixed order. -/
def letters (a : Switches) : List Char :=
  (if a.ignoreCase then ['i'] else []) ++ (if a.multiline then ['m'] else []) ++
    (if a.dotAll then ['s'] else []) ++ (if a.verbose then ['x'] else [])

end Switches

/-- A class of characters named by a letter. -/
inductive Category where
  | digit
  | space
  | word
  deriving DecidableEq

/-- A member of a set of characters. Characters are given by their code points. -/
inductive SetItem where
  | literal (code : Nat)
  | range (low high : Nat)
  | category (category : Category) (complement : Bool)
  deriving DecidableEq

/-- A condition on a place between two characters. -/
inductive Anchor where
  | lineStart
  | lineEnd
  | textStart
  | textEnd
  | wordEdge
  | noWordEdge
  deriving DecidableEq

/-- How a repetition tries its numbers of rounds: most first, fewest first, or most without
giving any back. -/
inductive Greed where
  | greedy
  | lazy
  | possessive
  deriving DecidableEq

/-- A part of a pattern. -/
inductive Node where
  /-- One character, or with the mark any character but that one. -/
  | literal (negated : Bool) (code : Nat)
  /-- One character of a set, or with the mark one outside it. -/
  | set (negated : Bool) (items : List SetItem)
  /-- Any character, but a line feed only under the switch for it. -/
  | any
  | anchor (anchor : Anchor)
  /-- A group that may be captured under a number and may change switches. -/
  | group (number : Option Nat) (on off : Switches) (body : List Node)
  /-- A group that gives nothing back once it has matched. -/
  | atomic (body : List Node)
  /-- A look at what follows, or at the given number of characters before. -/
  | look (behind : Option Nat) (negated : Bool) (body : List Node)
  | alternatives (branches : List (List Node))
  | repeated (greed : Greed) (least : Nat) (most : Option Nat) (body : List Node)
  /-- The text that a group has captured. -/
  | reference (group : Nat)
  /-- A choice by whether a group has captured. -/
  | choice (group : Nat) (yes : List Node) (no : Option (List Node))

namespace Node

/-- Whether two nodes are the same single character, set, anchor or reference. Nodes with a
body are never taken for the same. -/
def sameAtom : Node → Node → Bool
  | literal b c, literal d e => b == d && c == e
  | set b xs, set c ys => b == c && decide (xs = ys)
  | any, any => true
  | anchor a, anchor b => decide (a = b)
  | reference m, reference n => m == n
  | _, _ => false

/-- The body of a group that captures nothing and changes no switch. -/
def plainBody? : Node → Option (List Node)
  | group none on off body => if on = {} && off = {} then some body else none
  | _ => none

/-- The set items that a node of one character stands for. -/
def setItems? : Node → Option (List SetItem)
  | literal false code => some [.literal code]
  | set false items => some items
  | _ => none

end Node

/-- The least and the most characters that a part can match. -/
structure Width where
  least : Nat
  most : Nat

namespace Width

/-- A width past which nothing is counted. -/
def ceiling : Nat := UInt64.size

/-- The width of the empty text. -/
def zero : Width := ⟨0, 0⟩

/-- The width of one character. -/
def one : Width := ⟨1, 1⟩

/-- One part after another. -/
def plus (a b : Width) : Width := ⟨a.least + b.least, a.most + b.most⟩

/-- One part or the other. -/
def either (a b : Width) : Width := ⟨min a.least b.least, max a.most b.most⟩

/-- The width cut at the ceiling. -/
def capped (a : Width) : Width := ⟨min a.least ceiling, min a.most ceiling⟩

/-- Rounds of a part. -/
def times (a : Width) (least : Nat) (most : Option Nat) : Width :=
  ⟨a.least * least,
    match most with
    | some rounds => a.most * rounds
    | none => if a.most = 0 then 0 else ceiling⟩

end Width

mutual

/-- The width of a node, given those of the groups. -/
def Node.width (groups : Nat → Width) : Node → Width
  | .literal .. => .one
  | .set .. => .one
  | .any => .one
  | .anchor _ => .zero
  | .group _ _ _ body => sequenceWidth groups body
  | .atomic body => sequenceWidth groups body
  | .look .. => .zero
  | .alternatives branches =>
    match branchWidth? groups branches with
    | some width => width
    | none => .zero
  | .repeated _ least most body => (sequenceWidth groups body).times least most
  | .reference group => groups group
  | .choice _ yes no => choiceWidth groups (sequenceWidth groups yes) no

/-- The width of a sequence. -/
def sequenceWidth (groups : Nat → Width) : List Node → Width
  | [] => .zero
  | node :: rest => ((node.width groups).plus (sequenceWidth groups rest)).capped

/-- The width of alternatives, when there are any. -/
def branchWidth? (groups : Nat → Width) : List (List Node) → Option Width
  | [] => none
  | branch :: rest =>
    match branchWidth? groups rest with
    | some width => some ((sequenceWidth groups branch).either width)
    | none => some (sequenceWidth groups branch)

/-- The width of a choice, given that of its first branch; without a second it may be empty. -/
def choiceWidth (groups : Nat → Width) (yes : Width) : Option (List Node) → Width
  | some no => yes.either (sequenceWidth groups no)
  | none => ⟨0, yes.most⟩

end

end Pattern

/-- A pattern: its text without delimiters, the switches in force for the whole of it, how many
groups it has, and its nodes. -/
structure Pattern where
  source : String
  switches : Pattern.Switches
  groups : Nat
  body : List Pattern.Node

end Eligibility
