/-
# Searching for a pattern

A pattern is looked for at every place of a text, from the left, by trying the ways to match in
order and going back where one fails.  What still has to match is passed along as a function,
so every node is a map from continuations to continuations and the search is a recursion on the
pattern.  A round of a repetition that is not required has to start at another place than the
one before it, which bounds the number of rounds by the length of the text.

When case is ignored, a character is put in lower case and compared with the small letters of
what the pattern has, and with the other small letters that share a capital with them.
-/

import Eligibility.Pattern.Basic
import Eligibility.Text.Blank
import Eligibility.Text.Case
import Eligibility.Text.Digit
import Eligibility.Text.Word

namespace Eligibility
namespace Pattern

/-- How far a match has come: the place in the text, and the places where groups were entered
and left. -/
structure Progress where
  pos : Nat
  marks : Array (Option Nat)

namespace Progress

/-- The start and end of what a group has captured. -/
def captured? (p : Progress) (group : Nat) : Option (Nat × Nat) :=
  match (p.marks[2 * (group - 1)]?).join, (p.marks[2 * (group - 1) + 1]?).join with
  | some start, some stop => if stop < start then none else some (start, stop)
  | _, _ => none

/-- Note the place as a group's start, or as its end. -/
def mark (group : Nat) (ending : Bool) (p : Progress) : Progress :=
  { p with
    marks := p.marks.setIfInBounds (2 * (group - 1) + if ending then 1 else 0) (some p.pos) }

end Progress

/-- What is left to match. -/
abbrev Continuation := Progress → Option Progress

/-- Whether a character is in a category, under the switches. -/
def Category.has (category : Category) (switches : Switches) (c : Char) : Bool :=
  match category with
  | .digit => if switches.unicode then Text.isDigit c else c.isDigit
  | .space => if switches.unicode then Text.isBlank c else c = ' ' || (9 ≤ c.toNat && c.toNat ≤ 13)
  | .word => if switches.unicode then Text.isWord c else c.isAlphanum || c = '_'

/-- The small letter of a code point, under the switches. -/
def lowered (switches : Switches) (code : Nat) : Nat :=
  if switches.unicode || code < 128 then Text.lowerCode code else code

/-- The first character of a code point's upper case. -/
def capital (code : Nat) : Nat :=
  match Text.upperExpansions.find? (·.1 == code) with
  | some (_, first :: _) => first
  | _ => Text.upperCode code

/-- Whether a code point has another case, under the switches. -/
def hasCase (switches : Switches) (code : Nat) : Bool :=
  if switches.unicode || code < 128 then Text.isCased code else false

/-- The other small letters that share a small letter's capital, under the switches. -/
def twinsOf (switches : Switches) (code : Nat) : List Nat :=
  if switches.unicode then Text.twins code else []

/-- Whether a character is the one that a literal stands for. -/
def matchesCode (switches : Switches) (code : Nat) (c : Char) : Bool :=
  if switches.ignoreCase && hasCase switches code then
    let small := lowered switches code
    let letter := lowered switches c.toNat
    letter == small || (twinsOf switches small).contains letter
  else c.toNat == code

/-- The end of the basic plane of code points. -/
def basicPlane : Nat := 0x10000

/-- Whether some character from `low` to `high` has the small letter, or one that shares its
capital. Past the basic plane the bounds are compared with the letter and its capital. -/
def rangeHas (switches : Switches) (low high letter : Nat) : Bool :=
  let top := min high (basicPlane - 1)
  let sources :=
    if switches.unicode then
      (letter :: Text.twins letter).flatMap Text.lowerSources
    else if letter < 128 then letter :: (if Text.upperCode letter = letter then [] else
      [Text.upperCode letter])
    else [letter]
  sources.any (fun code => low ≤ code && code ≤ top) ||
    (high ≥ basicPlane &&
      ((low ≤ letter && letter ≤ high) || (low ≤ capital letter && capital letter ≤ high)))

/-- Whether a character, its case ignored, is one that a set item stands for. A literal past the
basic plane is compared as it stands with the small letter. -/
def SetItem.hasLetter (switches : Switches) (c : Char) : SetItem → Bool
  | .literal code =>
    let small := lowered switches code
    let letter := lowered switches c.toNat
    if small ≥ basicPlane then letter == code
    else letter == small || (twinsOf switches small).contains letter
  | .range low high => rangeHas switches low high (lowered switches c.toNat)
  | .category kind complement =>
    kind.has switches (Char.ofNat (lowered switches c.toNat)) != complement

/-- Whether a character is one that a set item stands for. -/
def SetItem.has (switches : Switches) (c : Char) (item : SetItem) : Bool :=
  if switches.ignoreCase then item.hasLetter switches c
  else
    match item with
    | .literal code => c.toNat == code
    | .range low high => low ≤ c.toNat && c.toNat ≤ high
    | .category kind complement => kind.has switches c != complement

/-- Whether a place has a word character on exactly one side. -/
def atWordEdge (text : Array Char) (switches : Switches) (pos : Nat) : Bool :=
  let isWord := fun (c : Option Char) => (c.map (Category.word.has switches)).getD false
  isWord (if pos = 0 then none else text[pos - 1]?) != isWord text[pos]?

/-- Whether an anchor holds at a place. In the empty text there is neither an edge of a word nor
a place without one. -/
def Anchor.holds (text : Array Char) (switches : Switches) (pos : Nat) : Anchor → Bool
  | .lineStart => pos = 0 || (switches.multiline && text[pos - 1]? = some '\n')
  | .lineEnd =>
    pos = text.size ||
      (text[pos]? = some '\n' && (switches.multiline || pos + 1 = text.size))
  | .textStart => pos = 0
  | .textEnd => pos = text.size
  | .wordEdge => text.size != 0 && atWordEdge text switches pos
  | .noWordEdge => text.size != 0 && !atWordEdge text switches pos

/-- Match one character of a class. -/
def step (text : Array Char) (p : Char → Bool) (k : Continuation) : Continuation := fun progress =>
  match text[progress.pos]? with
  | some c => if p c then k { progress with pos := progress.pos + 1 } else none
  | none => none

/-- Whether the text has the same characters at two places, under the switches. -/
def sameText (text : Array Char) (switches : Switches) : (length a b : Nat) → Bool
  | 0, _, _ => true
  | length + 1, a, b =>
    match text[a]?, text[b]? with
    | some c, some d =>
      (if switches.ignoreCase then lowered switches c.toNat == lowered switches d.toNat
        else c == d) && sameText text switches length (a + 1) (b + 1)
    | _, _ => false

/-- Whether another round that is not required may start. -/
def mayRepeat (most : Option Nat) (count : Nat) (last : Option Nat) (p : Progress) : Bool :=
  (match most with
    | some rounds => decide (count < rounds)
    | none => true) && last != some p.pos

/-- Rounds of a body, most first. `last` is where the last round that was not required
started. -/
def mostFirst (body : Continuation → Continuation) (least : Nat) (most : Option Nat)
    (k : Continuation) : (fuel count : Nat) → (last : Option Nat) → Continuation
  | 0, _, _, _ => none
  | fuel + 1, count, last, p =>
    if count < least then body (mostFirst body least most k fuel (count + 1) last) p
    else if mayRepeat most count last p then
      match body (mostFirst body least most k fuel (count + 1) (some p.pos)) p with
      | some found => some found
      | none => k p
    else k p

/-- Rounds of a body, fewest first. -/
def fewestFirst (body : Continuation → Continuation) (least : Nat) (most : Option Nat)
    (k : Continuation) : (fuel count : Nat) → (last : Option Nat) → Continuation
  | 0, _, _, _ => none
  | fuel + 1, count, last, p =>
    if count < least then body (fewestFirst body least most k fuel (count + 1) last) p
    else
      match k p with
      | some found => some found
      | none =>
        if mayRepeat most count last p then
          body (fewestFirst body least most k fuel (count + 1) (some p.pos)) p
        else none

/-- As many rounds of a body as there are, each settled for good; the answer is where they
end. -/
def settled (body : Continuation → Continuation) (least : Nat) (most : Option Nat) :
    (fuel count : Nat) → (last : Option Nat) → Continuation
  | 0, _, _, _ => none
  | fuel + 1, count, last, p =>
    if count < least then
      match body some p with
      | some next => settled body least most fuel (count + 1) last next
      | none => none
    else if mayRepeat most count last p then
      match body some p with
      | some next => settled body least most fuel (count + 1) (some p.pos) next
      | none => some p
    else some p

mutual

/-- Match a node, then what is left. -/
def matchNode (text : Array Char) : Switches → Node → Continuation → Continuation
  | switches, .literal negated code, k =>
    step text (fun c => matchesCode switches code c != negated) k
  | switches, .set negated items, k =>
    step text (fun c => items.any (·.has switches c) != negated) k
  | switches, .any, k => step text (fun c => switches.dotAll || c != '\n') k
  | switches, .anchor anchor, k => fun p => if anchor.holds text switches p.pos then k p else none
  | switches, .group number on off body, k =>
    match number with
    | some number => fun p =>
      matchSequence text (switches.within on off) body (fun q => k (q.mark number true))
        (p.mark number false)
    | none => matchSequence text (switches.within on off) body k
  | switches, .atomic body, k => fun p => (matchSequence text switches body some p).bind k
  | switches, .look behind negated body, k => fun p =>
    let width := behind.getD 0
    let found :=
      if p.pos < width then none
      else matchSequence text switches body some { p with pos := p.pos - width }
    match found, negated with
    | some q, false => k { p with marks := q.marks }
    | none, true => k p
    | _, _ => none
  | switches, .alternatives branches, k => matchBranches text switches branches k
  | switches, .repeated greed least most body, k => fun p =>
    let fuel := least + (text.size - p.pos) + 3
    match greed with
    | .greedy => mostFirst (matchSequence text switches body) least most k fuel 0 none p
    | .lazy => fewestFirst (matchSequence text switches body) least most k fuel 0 none p
    | .possessive =>
      (settled (matchSequence text switches body) least most fuel 0 none p).bind k
  | switches, .reference group, k => fun p =>
    match p.captured? group with
    | some (start, stop) =>
      if p.pos + (stop - start) ≤ text.size && sameText text switches (stop - start) start p.pos
      then k { p with pos := p.pos + (stop - start) }
      else none
    | none => none
  | switches, .choice group yes no, k => fun p =>
    match p.captured? group with
    | some _ => matchSequence text switches yes k p
    | none => matchOptional text switches no k p

/-- Match a sequence, then what is left. -/
def matchSequence (text : Array Char) : Switches → List Node → Continuation → Continuation
  | _, [], k => k
  | switches, node :: rest, k => matchNode text switches node (matchSequence text switches rest k)

/-- Match the first of the branches with which the rest matches too. -/
def matchBranches (text : Array Char) : Switches → List (List Node) → Continuation → Continuation
  | _, [], _ => fun _ => none
  | switches, branch :: rest, k => fun p =>
    match matchSequence text switches branch k p with
    | some found => some found
    | none => matchBranches text switches rest k p

/-- Match a sequence when there is one, then what is left. -/
def matchOptional (text : Array Char) : Switches → Option (List Node) → Continuation →
    Continuation
  | _, none, k => k
  | switches, some body, k => matchSequence text switches body k

end

end Pattern

/-- Whether the pattern matches at some place of a text. -/
def Pattern.occursIn (pattern : Pattern) (s : String) : Bool :=
  let text := s.toList.toArray
  let marks := Array.replicate (2 * pattern.groups) none
  (List.range (text.size + 1)).any fun pos =>
    (Pattern.matchSequence text pattern.switches pattern.body some ⟨pos, marks⟩).isSome

end Eligibility
