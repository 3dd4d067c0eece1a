/-
# Reading patterns

A pattern is read in one pass over its tokens, a token being a character or a backslash with
the character after it.  The reader keeps what later parts depend on: the groups so far with
their widths, their names, and the switches that the pattern has turned on for itself.

`Pattern.ofText` also reads the delimited form, a pattern between slashes with letters for
switches behind: when what follows the last slash is anything else, the slashes belong to the
pattern.
-/

import Eligibility.Pattern.Basic
import Eligibility.Text.Identifier
import Eligibility.Text.Numeral

namespace Eligibility
namespace Pattern

/-- A character of a pattern, a backslash and what it escapes, or a backslash that ends the
pattern and escapes nothing. -/
inductive Token where
  | plain (c : Char)
  | escape (c : Char)
  | dangling
  deriving DecidableEq

/-- The tokens of a pattern's text. -/
def tokens : List Char → List Token
  | [] => []
  | ['\\'] => [.dangling]
  | '\\' :: c :: rest => .escape c :: tokens rest
  | c :: rest => .plain c :: tokens rest

/-- What has been read so far. -/
structure Draft where
  rest : List Token
  switches : Switches
  /-- The width of every group in the order they open; none while a group is open. -/
  widths : List (Option Width) := []
  names : List (List Char × Nat) := []
  /-- Inside a look behind, the highest group number that it may refer to. -/
  visible : Option Nat := none
  /-- The groups that choices ask about. -/
  asked : List Nat := []
  /-- Whether some look behind has no single width. -/
  unsteady : Bool := false
  /-- Whether some part is repeated. -/
  repeats : Bool := false

/-- A step of reading. -/
abbrev Reading := StateT Draft (Except Fault)

/-- Reading stops: the text breaks the grammar. -/
def malformed {α : Type} : Reading α := throw .malformed

/-- Go on with these tokens; a dangling backslash is refused as soon as it comes up. -/
def goOn (rest : List Token) : Reading Unit := do
  if rest.head? = some .dangling then malformed
  modify fun draft => { draft with rest := rest }

/-- The next token, left in place. -/
def peek : Reading (Option Token) := return (← get).rest.head?

/-- The next token, taken. -/
def take : Reading (Option Token) := do
  match (← get).rest with
  | [] => return none
  | token :: rest =>
    goOn rest
    return some token

/-- Take the next token if it is the character. -/
def accept (c : Char) : Reading Bool := do
  if (← peek) = some (.plain c) then
    discard take
    return true
  return false

/-- The next token must be the character. -/
def expect (c : Char) : Reading Unit := do
  unless ← accept c do malformed

/-- The plain characters in front that a class has, at most so many, and what follows them. -/
def span (p : Char → Bool) : (most : Nat) → List Token → List Char × List Token
  | most + 1, .plain c :: rest =>
    if p c then
      let (run, after) := span p most rest
      (c :: run, after)
    else ([], .plain c :: rest)
  | _, rest => ([], rest)

/-- Take the plain characters in front that a class has, at most so many. -/
def takeSpan (p : Char → Bool) (most : Nat) : Reading (List Char) := do
  let (run, rest) := span p most (← get).rest
  goOn rest
  return run

/-- The characters up to the one that closes a name, and what follows it. -/
def splitName? (closing : Char) : List Token → Option (List Char × List Token)
  | [] => none
  | .plain c :: rest =>
    if c = closing then some ([], rest)
    else (splitName? closing rest).map fun (name, after) => (c :: name, after)
  | .escape c :: rest =>
    (splitName? closing rest).map fun (name, after) => ('\\' :: c :: name, after)
  | .dangling :: _ => none

/-- A name up to the character that closes it; it is not empty. -/
def readName (closing : Char) : Reading (List Char) := do
  match splitName? closing (← get).rest with
  | some (name, rest) =>
    if name.isEmpty then malformed
    goOn rest
    return name
  | none => malformed

/-- A group's name: an identifier. -/
def readGroupName (closing : Char) : Reading (List Char) := do
  let name ← readName closing
  unless Text.isIdentifier name do malformed
  return name

/-- The value of a digit in a base up to sixteen. -/
def digitIn? (base : Nat) (c : Char) : Option Nat :=
  let n := c.toNat
  let value :=
    if c.isDigit then n - 48
    else if 'a' ≤ c && c ≤ 'f' then n - 87
    else if 'A' ≤ c && c ≤ 'F' then n - 55
    else base
  if value < base then some value else none

/-- The number that digits write in a base. -/
def numberIn (base : Nat) (digits : List Char) : Nat :=
  digits.foldl (fun n c => n * base + (digitIn? base c).getD 0) 0

/-- Whether a character is an octal digit. -/
def isOctal (c : Char) : Bool := (digitIn? 8 c).isSome

/-- The code point that exactly so many hexadecimal digits write. -/
def readHex (count : Nat) : Reading Nat := do
  let digits ← takeSpan (fun c => (digitIn? 16 c).isSome) count
  if digits.length < count then malformed
  let code := numberIn 16 digits
  if code > 0x10ffff then malformed
  return code

/-- The control character that a letter stands for behind a backslash. -/
def control? : Char → Option Nat
  | 'a' => some 7
  | 'f' => some 12
  | 'n' => some 10
  | 'r' => some 13
  | 't' => some 9
  | 'v' => some 11
  | '\\' => some 92
  | _ => none

/-- The class of characters that a letter stands for behind a backslash. -/
def category? : Char → Option SetItem
  | 'd' => some (.category .digit false)
  | 'D' => some (.category .digit true)
  | 's' => some (.category .space false)
  | 'S' => some (.category .space true)
  | 'w' => some (.category .word false)
  | 'W' => some (.category .word true)
  | _ => none

/-- The anchor that a letter stands for behind a backslash. -/
def anchor? : Char → Option Anchor
  | 'A' => some .textStart
  | 'Z' => some .textEnd
  | 'b' => some .wordEdge
  | 'B' => some .noWordEdge
  | _ => none

/-- The code point behind a backslash that any place of a pattern understands: a control
character, a code in hexadecimal, or a sign that stands for itself. -/
def readCode (c : Char) : Reading Nat := do
  match control? c with
  | some code => return code
  | none =>
    if c = 'x' then readHex 2
    else if c = 'u' then readHex 4
    else if c = 'U' then readHex 8
    else if c.isAlphanum then malformed
    else return c.toNat

/-- An octal code, which has to fit in a byte. -/
def byteCode (digits : List Char) : Reading Nat := do
  let code := numberIn 8 digits
  if code > 0o377 then malformed
  return code

/-- What an escape stands for in a set. -/
def readSetEscape (c : Char) : Reading SetItem := do
  match category? c with
  | some item => return item
  | none =>
    if c = 'b' then return .literal 8
    if isOctal c then return .literal (← byteCode (c :: (← takeSpan isOctal 2)))
    return .literal (← readCode c)

/-- Whether a group is closed. -/
def isClosed (draft : Draft) (group : Nat) : Bool :=
  group != 0 && ((draft.widths[group - 1]?).map Option.isSome).getD false

/-- The widths of the closed groups. -/
def closedWidths (draft : Draft) (group : Nat) : Width :=
  ((draft.widths[group - 1]?).join).getD .zero

/-- Inside a look behind, only a group that was closed before it may be asked about. -/
def checkVisible (group : Nat) : Reading Unit := do
  let draft ← get
  match draft.visible with
  | some highest => if !isClosed draft group || group > highest then malformed
  | none => return

/-- A reference to a closed group. -/
def referTo (group : Nat) : Reading Node := do
  unless isClosed (← get) group do malformed
  checkVisible group
  return .reference group

/-- A number behind a backslash: three octal digits are a code, anything shorter is a group. -/
def readNumberEscape (c : Char) : Reading Node := do
  let second ← takeSpan Char.isDigit 1
  if isOctal c && second.all isOctal && !second.isEmpty then
    let third ← takeSpan isOctal 1
    unless third.isEmpty do
      return .literal false (← byteCode (c :: second ++ third))
  referTo (numberIn 10 (c :: second))

/-- What an escape stands for outside sets. -/
def readEscape (c : Char) : Reading Node := do
  match anchor? c, category? c with
  | some anchor, _ => return .anchor anchor
  | _, some item => return .set false [item]
  | none, none =>
    if c = '0' then return .literal false (numberIn 8 (← takeSpan isOctal 2))
    if c.isDigit then readNumberEscape c
    else return .literal false (← readCode c)

/-- A token as a member of a set. -/
def readMember : Token → Reading SetItem
  | .plain c => return .literal c.toNat
  | .escape c => readSetEscape c
  | .dangling => malformed

/-- The members of a set up to its closing bracket, which is a member when it comes first. -/
def readMembers : (fuel : Nat) → (done : List SetItem) → Reading (List SetItem)
  | 0, _ => malformed
  | fuel + 1, done => do
    let some token ← take | malformed
    if token = .plain ']' && !done.isEmpty then return done
    let first ← readMember token
    if ← accept '-' then
      let some upper ← take | malformed
      if upper = .plain ']' then return done ++ [first, .literal '-'.toNat]
      match first, ← readMember upper with
      | .literal low, .literal high =>
        if high < low then malformed
        readMembers fuel (done ++ [.range low high])
      | _, _ => malformed
    else readMembers fuel (done ++ [first])

/-- A set behind its opening bracket. A set of one character is that character. -/
def readSet : Reading Node := do
  let negated ← accept '^'
  let items ← readMembers ((← get).rest.length + 1) []
  match items.eraseDups with
  | [.literal code] => return .literal negated code
  | items => return .set negated items

/-- The number of rounds from which on a repetition is refused. -/
def roundLimit : Nat := 4294967295

/-- Digits as a number of rounds; no digits leave the default. -/
def rounds {α : Type} (digits : List Char) (default : α) (some : Nat → α) : Reading α := do
  if digits.isEmpty then return default
  let n := numberIn 10 digits
  if n ≥ roundLimit then throw .repetitionTooLarge
  return some n

/-- The bounds of a repetition in braces, behind the opening one; none when the braces are
plain characters. -/
def readBraces : Reading (Option (Nat × Option Nat)) := do
  let start := (← get).rest
  if start.head? = some (.plain '}') then return none
  let (low, afterLow) := span Char.isDigit start.length start
  let (high, afterHigh) :=
    match afterLow with
    | .plain ',' :: after => span Char.isDigit after.length after
    | after => (low, after)
  match afterHigh with
  | .plain '}' :: rest =>
    goOn rest
    let least ← rounds low 0 id
    let most ← rounds high none some
    if let some n := most then
      if n < least then malformed
    return some (least, most)
  | _ => return none

/-- The bounds of the repetition that a character starts; none when it stands for itself. -/
def readBounds (c : Char) : Reading (Option (Nat × Option Nat)) := do
  if c = '?' then return some (0, some 1)
  else if c = '*' then return some (0, none)
  else if c = '+' then return some (1, none)
  else readBraces

/-- The mark behind a repetition. -/
def readGreed : Reading Greed := do
  if ← accept '?' then return .lazy
  else if ← accept '+' then return .possessive
  else return .greedy

/-- Repeat the last of the parts, which are given last first. A place cannot be repeated, nor
can a repetition. -/
def repeatLast (least : Nat) (most : Option Nat) (done : List Node) : Reading (List Node) := do
  match done with
  | [] => malformed
  | .anchor _ :: _ => malformed
  | .repeated .. :: _ => malformed
  | node :: before =>
    let greed ← readGreed
    modify fun draft => { draft with repeats := true }
    return .repeated greed least most (node.plainBody?.getD [node]) :: before

/-- The switches to turn on, up to the sign that ends them. -/
def switchesOn? (on : Switches) : List Token → Option (Switches × Char × List Token)
  | .plain c :: rest =>
    if c = ')' || c = '-' || c = ':' then some (on, c, rest)
    else
      match Switches.ofLetter? c with
      | some switch =>
        let on := on.union switch
        if on.ascii && on.unicode then none else switchesOn? on rest
      | none => none
  | _ => none

/-- The switches to turn off, at least one, up to the colon. -/
def switchesOff? (off : Switches) : List Token → Option (Switches × List Token)
  | .plain c :: rest =>
    if c = ':' && decide (off ≠ {}) then some (off, rest)
    else
      match Switches.ofLetter? c with
      | some switch =>
        if switch.choosesAlphabet then none else switchesOff? (off.union switch) rest
      | none => none
  | _ => none

/-- Switches behind a question mark: for the whole pattern, which answers none, or the ones to
turn on and off in a group. -/
def readSwitches : Reading (Option (Switches × Switches)) := do
  let some (on, stop, rest) := switchesOn? {} (← get).rest | malformed
  if stop = ')' then
    goOn rest
    modify fun draft => { draft with switches := draft.switches.union on }
    return none
  let (off, rest) ←
    if stop = '-' then
      match switchesOff? {} rest with
      | some found => pure found
      | none => malformed
    else pure ({}, rest)
  if on.plainTemplate || off.plainTemplate || on.overlaps off then malformed
  goOn rest
  return some (on, off)

/-- The common first parts of all branches, and what is left of each. -/
def factor : (first : List Node) → (others : List (List Node)) → List Node × List (List Node)
  | [], others => ([], [] :: others)
  | node :: first, others =>
    if others.all fun branch => ((branch.head?).map (node.sameAtom ·)).getD false then
      let (shared, left) := factor first (others.map List.tail)
      (node :: shared, left)
    else ([], (node :: first) :: others)

/-- The set items that a branch of one character stands for. -/
def single? : List Node → Option (List SetItem)
  | [node] => node.setItems?
  | _ => none

/-- The set that branches of one character each amount to. -/
def joinedSet? (branches : List (List Node)) : Option (List SetItem) :=
  (branches.mapM (single? ·)).map fun sets => sets.flatten.eraseDups

/-- Branches as one sequence: what they share comes first, and branches of one character each
are one set. -/
def joined : List (List Node) → List Node
  | [] => []
  | [branch] => branch
  | first :: others =>
    let (shared, left) := factor first others
    match joinedSet? left with
    | some items => shared ++ [.set false items]
    | none => shared ++ [.alternatives left]

/-- A finished sequence: plain groups are opened up. The parts are given last first. -/
def finished (done : List Node) : List Node :=
  done.reverse.flatMap fun node => node.plainBody?.getD [node]

/-- Open a group: it takes the next number, and a new name. -/
def openGroup (name : Option (List Char)) : Reading Nat := do
  let draft ← get
  let number := draft.widths.length + 1
  let names ←
    match name with
    | some name =>
      if draft.names.any (·.1 = name) then malformed
      pure ((name, number) :: draft.names)
    | none => pure draft.names
  set { draft with widths := draft.widths ++ [none], names := names }
  return number

/-- Close a group: its width is known from now on. -/
def closeGroup (number : Nat) (body : List Node) : Reading Unit :=
  modify fun draft =>
    { draft with
      widths := draft.widths.set (number - 1) (some (sequenceWidth (closedWidths draft) body)) }

/-- The largest width that can be looked for behind a place. -/
def behindLimit : Nat := 4294967295

/-- A finished look. A look behind takes its width from its body. -/
def look (behind negated : Bool) (body : List Node) : Reading Node := do
  unless behind do return .look none negated body
  let width := sequenceWidth (closedWidths (← get)) body
  if width.least ≠ width.most || width.least > behindLimit then
    modify fun draft => { draft with unsteady := true }
  return .look (some width.least) negated body

/-- The largest number of groups that a pattern can have. -/
def groupLimit : Nat := 1073741823

/-- The group that a choice asks about: a name, or a number that is checked at the end. -/
def readAsked : Reading Nat := do
  let name ← readName ')'
  let number ←
    if Text.isIdentifier name then
      match (← get).names.find? (·.1 = name) with
      | some (_, number) => pure number
      | none => malformed
    else
      match Text.integer? (String.ofList name) with
      | some (.ofNat number) =>
        if number = 0 || number ≥ groupLimit then malformed
        modify fun draft => { draft with asked := number :: draft.asked }
        pure number
      | _ => malformed
  checkVisible number
  return number

/-- Skip a comment behind its number sign, up to and with its closing parenthesis. -/
def skipComment : List Token → Option (List Token)
  | [] => none
  | .plain ')' :: rest => some rest
  | _ :: rest => skipComment rest

/-- Skip a comment of the verbose form, up to and with the end of its line. -/
def skipLine : List Token → List Token
  | [] => []
  | .plain '\n' :: rest => rest
  | _ :: rest => skipLine rest

/-- Whether a character is skipped in the verbose form. -/
def isLayout (c : Char) : Bool :=
  c = ' ' || c = '\t' || c = '\n' || c = '\r' || c.toNat = 11 || c.toNat = 12

/-- What an opening parenthesis starts. -/
inductive Opening where
  /-- A group with a body to read. -/
  | group (named : Option (Option (List Char))) (isAtomic : Bool) (on off : Switches)
  | look (behind negated : Bool)
  | choice (group : Nat)
  /-- A part that is complete already. -/
  | done (node : Node)
  | comment
  /-- Switches for the whole pattern. -/
  | switches

/-- Read what stands behind an opening parenthesis, up to the body. -/
def readOpening : Reading Opening := do
  unless ← accept '?' do return .group (some none) false {} {}
  match ← peek with
  | some (.plain 'P') =>
    discard take
    if ← accept '<' then return .group (some (some (← readGroupName '>'))) false {} {}
    expect '='
    let name ← readGroupName ')'
    match (← get).names.find? (·.1 = name) with
    | some (_, number) => return .done (← referTo number)
    | none => malformed
  | some (.plain ':') =>
    discard take
    return .group none false {} {}
  | some (.plain '#') =>
    discard take
    let some rest := skipComment (← get).rest | malformed
    goOn rest
    return .comment
  | some (.plain '=') =>
    discard take
    return .look false false
  | some (.plain '!') =>
    discard take
    return .look false true
  | some (.plain '<') =>
    discard take
    if ← accept '=' then return .look true false
    expect '!'
    return .look true true
  | some (.plain '(') =>
    discard take
    return .choice (← readAsked)
  | some (.plain '>') =>
    discard take
    return .group none true {} {}
  | some (.plain c) =>
    if c = ')' then malformed
    match ← readSwitches with
    | some (on, off) => return .group none false on off
    | none => return .switches
  | _ => malformed

mutual

/-- Branches up to the end of the pattern or a closing parenthesis. -/
def readBranches : (fuel : Nat) → (verbose top : Bool) → (done : List (List Node)) →
    Reading (List (List Node))
  | 0, _, _, _ => malformed
  | fuel + 1, verbose, top, done => do
    let branch ← readSequence fuel verbose (top && done.isEmpty) []
    let done := done ++ [branch]
    if ← accept '|' then
      let draft ← get
      readBranches fuel (if top then draft.switches.verbose else verbose) top done
    else return done

/-- A sequence of parts, those read so far given last first, up to a bar, a closing parenthesis
or the end. `first` tells that the pattern itself starts here. -/
def readSequence : (fuel : Nat) → (verbose first : Bool) → (done : List Node) →
    Reading (List Node)
  | 0, _, _, _ => malformed
  | fuel + 1, verbose, first, done => do
    match ← peek with
    | none => return finished done
    | some .dangling => malformed
    | some (.escape c) =>
      discard take
      readSequence fuel verbose first ((← readEscape c) :: done)
    | some (.plain c) =>
      if c = '|' || c = ')' then return finished done
      discard take
      if verbose && isLayout c then readSequence fuel verbose first done
      else if verbose && c = '#' then
        goOn (skipLine (← get).rest)
        readSequence fuel verbose first done
      else if c = '[' then readSequence fuel verbose first ((← readSet) :: done)
      else if c = '.' then readSequence fuel verbose first (.any :: done)
      else if c = '^' then readSequence fuel verbose first (.anchor .lineStart :: done)
      else if c = '$' then readSequence fuel verbose first (.anchor .lineEnd :: done)
      else if c = '*' || c = '+' || c = '?' || c = '{' then
        match ← readBounds c with
        | some (least, most) =>
          readSequence fuel verbose first (← repeatLast least most done)
        | none => readSequence fuel verbose first (.literal false c.toNat :: done)
      else if c = '(' then
        match ← readOpening with
        | .comment => readSequence fuel verbose first done
        | .switches =>
          unless first && done.isEmpty do malformed
          let draft ← get
          readSequence fuel draft.switches.verbose first done
        | .done node => readSequence fuel verbose first (node :: done)
        | opening =>
          let node ← readBody fuel verbose opening
          readSequence fuel verbose first (node :: done)
      else readSequence fuel verbose first (.literal false c.toNat :: done)

/-- The body that an opening announces, with its closing parenthesis. -/
def readBody : (fuel : Nat) → (verbose : Bool) → Opening → Reading Node
  | fuel + 1, verbose, .group named isAtomic on off => do
    let number ←
      match named with
      | some name => some <$> openGroup name
      | none => pure none
    let verbose := (verbose || on.verbose) && !off.verbose
    let body := joined (← readBranches fuel verbose false [])
    expect ')'
    if let some number := number then closeGroup number body
    return if isAtomic then .atomic body else .group number on off body
  | fuel + 1, verbose, .look behind negated => do
    let outer := (← get).visible
    if behind && outer.isNone then
      modify fun draft => { draft with visible := some draft.widths.length }
    let body := joined (← readBranches fuel verbose false [])
    if behind then modify fun draft => { draft with visible := outer }
    expect ')'
    look behind negated body
  | fuel + 1, verbose, .choice group => do
    let yes ← readSequence fuel verbose false []
    let no ←
      if ← accept '|' then
        let no ← readSequence fuel verbose false []
        if (← peek) = some (.plain '|') then malformed
        pure (some no)
      else pure none
    expect ')'
    return .choice group yes no
  | _, _, _ => malformed

end

/-- Read a pattern's text under switches. -/
def read (source : String) (switches : Switches) : Except Fault Pattern := do
  let tokens := tokens source.toList
  if tokens.head? = some .dangling then throw .malformed
  let draft : Draft := { rest := tokens, switches := switches }
  let (branches, draft) ← (readBranches (4 * (tokens.length + 2)) switches.verbose true []).run draft
  if draft.switches.ascii && draft.switches.unicode then throw .incompatibleSwitches
  if !draft.rest.isEmpty then throw .malformed
  if draft.asked.any (· > draft.widths.length) then throw .malformed
  if draft.unsteady || (draft.switches.plainTemplate && draft.repeats) then throw .malformed
  return {
    source := source
    switches := { draft.switches with unicode := !draft.switches.ascii }
    groups := draft.widths.length
    body := joined branches }

/-- The inside of a delimited pattern and its switches. -/
def delimited? (cs : List Char) : Option (List Char × Switches) :=
  match cs with
  | '/' :: rest =>
    if rest.contains '/' then
      let letters := (rest.reverse.takeWhile (· != '/'))
      let inside := ((rest.reverse.dropWhile (· != '/')).drop 1).reverse
      if letters.all (fun c => ['i', 'm', 's', 'x'].contains c) then
        some (inside,
          letters.foldl (fun on c => on.union ((Switches.ofLetter? c).getD {})) {})
      else none
    else none
  | _ => none

/-- The pattern that a text writes, delimited or not. -/
def ofText (s : String) : Except Fault Pattern :=
  match delimited? s.toList with
  | some (inside, switches) => read (String.ofList inside) switches
  | none => read s {}

end Pattern
end Eligibility
