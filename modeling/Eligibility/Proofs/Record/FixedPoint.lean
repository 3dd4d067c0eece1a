/-
# Stored results stored again

What is read back from a stored text has that same text again, so a result may pass through a store
any number of times (`Criteria.stored_again`).  The values that were compared come back as JSON
knows them (`Value.Becomes`).  From then on they stay as they are: the tree that a value was written
as has finite numbers, and objects whose names are different (`Json.isSettled`), and such a tree is
that of the value that it stands for.

The names have to be different to begin with.  A map has its keys written as texts, and of two keys
with one text the last alone is read back (`Value.keysStayDistinct`).
-/

import Eligibility.Proofs.Record.Readable

namespace Eligibility

/-! ### Settled trees -/

namespace Json

mutual

/-- Whether the numbers in a tree are finite, and the names in each of its objects different. -/
def isSettled : Json → Bool
  | double x => x.isFinite
  | array items => areSettled items
  | object members => decide (members.map (·.1)).Nodup && membersAreSettled members
  | _ => true

/-- Whether all items are settled. -/
def areSettled : List Json → Bool
  | [] => true
  | item :: rest => item.isSettled && areSettled rest

/-- Whether what all members hold is settled. -/
def membersAreSettled : List (String × Json) → Bool
  | [] => true
  | (_, item) :: rest => item.isSettled && membersAreSettled rest

end

theorem toMembers_append (members more : List (String × Json)) :
    toMembers (members ++ more) = toMembers members ++ toMembers more := by
  induction members with
  | nil => rfl
  | cons member members ih => rw [List.cons_append, toMembers, ih, toMembers, List.cons_append]

/-- A member with a new name comes last. -/
theorem putMember_toMembers {members : List (String × Json)} {name : String}
    (fresh : name ∉ members.map (·.1)) (item : Json) :
    Value.putMember (toMembers members) (.text name) item.toValue =
      toMembers (members ++ [(name, item)]) := by
  have absent : (toMembers members).any (fun m => Value.same m.1 (.text name)) = false := by
    induction members with
    | nil => rfl
    | cons member members ih =>
      rw [List.map_cons, List.mem_cons, not_or] at fresh
      have other : Value.same (.text member.1) (.text name) = false := by
        simpa [Value.same, Value.sameAtom, Value.quantity?] using Ne.symm fresh.1
      rw [toMembers, List.any_cons, other, ih fresh.2]
      rfl
  rw [Value.putMember, absent, toMembers_append]
  rfl

/-- An object whose names are different stands for a map with all of its members. -/
theorem mapOf_toMembers {members : List (String × Json)} (distinct : (members.map (·.1)).Nodup) :
    Value.mapOf (toMembers members) = .map (toMembers members) := by
  have general (before after : List (String × Json))
      (distinct : ((before ++ after).map (·.1)).Nodup) :
      (toMembers after).foldl (fun members pair => Value.putMember members pair.1 pair.2)
        (toMembers before) = toMembers (before ++ after) := by
    induction after generalizing before with
    | nil => rw [List.append_nil]; rfl
    | cons member after ih =>
      obtain ⟨name, item⟩ := member
      have fresh : name ∉ before.map (·.1) := by
        rw [List.map_append, List.nodup_append] at distinct
        exact fun member => distinct.2.2 name member name (by simp) rfl
      rw [toMembers, List.foldl_cons, putMember_toMembers fresh, ih _ (by simpa using distinct),
        List.append_assoc]
      rfl
  rw [Value.mapOf]
  exact congrArg Value.map (general [] members distinct)

end Json

namespace Record

open Json

mutual

/-- **A settled tree is the tree of the value that it stands for.** -/
theorem tree?_toValue (t : Json) (settled : t.isSettled = true) : tree? t.toValue = some t := by
  match t with
  | .null | .bool _ | .int _ | .text _ => rfl
  | .double x => exact congrArg some (if_pos settled)
  | .array items =>
    rw [toValue, tree?, treeItems?_toValues items settled]
    rfl
  | .object members =>
    rw [isSettled, Bool.and_eq_true, decide_eq_true_eq] at settled
    rw [toValue, mapOf_toMembers settled.1, tree?, treeMembers?_toMembers members settled.2]
    rfl

theorem treeItems?_toValues (items : List Json) (settled : areSettled items = true) :
    treeItems? (toValues items) = some items := by
  match items with
  | [] => rfl
  | item :: rest =>
    rw [areSettled, Bool.and_eq_true] at settled
    rw [toValues, treeItems?, tree?_toValue item settled.1, treeItems?_toValues rest settled.2]
    rfl

theorem treeMembers?_toMembers (members : List (String × Json))
    (settled : membersAreSettled members = true) :
    treeMembers? (toMembers members) = some members := by
  match members with
  | [] => rfl
  | (name, item) :: rest =>
    rw [membersAreSettled, Bool.and_eq_true] at settled
    rw [toMembers, treeMembers?, tree?_toValue item settled.1,
      treeMembers?_toMembers rest settled.2]
    rfl

end

end Record

/-! ### Values -/

namespace Value

mutual

/-- Whether the keys of every map in a value stay distinct as texts. -/
def keysStayDistinct : Value → Bool
  | list items | tuple items | set items | frozenSet items => keysStayDistinctInItems items
  | map members =>
    decide (members.map fun m => Record.keyText? m.1).Nodup && keysStayDistinctInMembers members
  | _ => true

/-- Whether keys stay distinct in all items. -/
def keysStayDistinctInItems : List Value → Bool
  | [] => true
  | item :: rest => item.keysStayDistinct && keysStayDistinctInItems rest

/-- Whether keys stay distinct in what all members hold. -/
def keysStayDistinctInMembers : List (Value × Value) → Bool
  | [] => true
  | (_, value) :: rest => value.keysStayDistinct && keysStayDistinctInMembers rest

end

/-- What a value is read back as.  What JSON knows stays as it is; tuples and sets become lists,
decimals, bytes, dates and times texts, and a double that is no number `null`. -/
inductive Becomes : Value → Value → Prop where
  | null : Becomes .null .null
  | bool (b : Bool) : Becomes (.bool b) (.bool b)
  | int (n : Int) : Becomes (.int n) (.int n)
  | double {x : Double} (finite : x.isFinite = true) : Becomes (.double x) (.double x)
  | noNumber {x : Double} (unbounded : x.isFinite = false) : Becomes (.double x) .null
  | text (s : String) : Becomes (.text s) (.text s)
  | decimal (d : Decimal) : Becomes (.decimal d) (.text d.text)
  | bytes {data : List UInt8} {s : String} (utf8 : Lenient.utf8? data = some s) :
      Becomes (.bytes data) (.text s)
  | date (d : Date) : Becomes (.date d) (.text d.isoText)
  | moment (m : Moment) : Becomes (.moment m) (.text (Record.momentText m))
  | clock (c : Clock) (offset : Option Offset) :
      Becomes (.clock c offset) (.text (Record.clockText c offset))
  | collection {v : Value} {items others : List Value} (holds : v.collection? = some items)
      (each : List.Forall₂ Becomes items others) : Becomes v (.list others)
  | map {members others : List (Value × Value)}
      (keys : members.map (fun m => (Record.keyText? m.1).map .text) = others.map (some ·.1))
      (each : List.Forall₂ Becomes (members.map (·.2)) (others.map (·.2))) :
      Becomes (.map members) (.map others)

end Value

namespace Record

open Json

/-- The members of a map are written under the texts of their keys. -/
theorem names_of_treeMembers? {members : List (Value × Value)} {ts : List (String × Json)}
    (written : treeMembers? members = some ts) :
    members.map (fun m => keyText? m.1) = (ts.map (·.1)).map some := by
  induction members generalizing ts with
  | nil =>
    obtain rfl := Option.some.inj written
    rfl
  | cons member members ih =>
    obtain ⟨key, value⟩ := member
    simp only [treeMembers?, Option.bind_eq_bind, Option.pure_def, Option.bind_eq_some_iff,
      Option.some.injEq] at written
    obtain ⟨name, named, t, -, more, later, rfl⟩ := written
    rw [List.map_cons, ih later, named]
    rfl

theorem keys_toMembers (ts : List (String × Json)) :
    (toMembers ts).map (some ·.1) = ts.map fun m => some (Value.text m.1) := by
  induction ts with
  | nil => rfl
  | cons member ts ih => rw [toMembers, List.map_cons, ih, List.map_cons]

mutual

/-- **A value is written as a settled tree** when its keys stay distinct, and read back as what it
becomes. -/
theorem settled_of_tree? (v : Value) {t : Json} (written : tree? v = some t)
    (distinct : v.keysStayDistinct = true) : t.isSettled = true ∧ Value.Becomes v t.toValue := by
  match v with
  | .null =>
    obtain rfl := Option.some.inj written
    exact ⟨rfl, .null⟩
  | .missing => cases written
  | .bool b =>
    obtain rfl := Option.some.inj written
    exact ⟨rfl, .bool b⟩
  | .int n =>
    obtain rfl := Option.some.inj written
    exact ⟨rfl, .int n⟩
  | .double x =>
    obtain rfl := Option.some.inj written
    unfold number
    split
    case isTrue finite => exact ⟨finite, .double finite⟩
    case isFalse unbounded => exact ⟨rfl, .noNumber (Bool.eq_false_iff.2 unbounded)⟩
  | .decimal d =>
    obtain rfl := Option.some.inj written
    exact ⟨rfl, .decimal d⟩
  | .text s =>
    obtain rfl := Option.some.inj written
    exact ⟨rfl, .text s⟩
  | .bytes data =>
    obtain ⟨s, utf8, rfl⟩ := Option.map_eq_some_iff.1 written
    exact ⟨rfl, .bytes utf8⟩
  | .date d =>
    obtain rfl := Option.some.inj written
    exact ⟨rfl, .date d⟩
  | .moment m =>
    obtain rfl := Option.some.inj written
    exact ⟨rfl, .moment m⟩
  | .clock c offset =>
    obtain rfl := Option.some.inj written
    exact ⟨rfl, .clock c offset⟩
  | .list items | .tuple items | .set items | .frozenSet items =>
    obtain ⟨ts, each, rfl⟩ := Option.map_eq_some_iff.1 written
    obtain ⟨settled, become⟩ := settled_of_treeItems? items each distinct
    exact ⟨settled, .collection rfl become⟩
  | .map members =>
    obtain ⟨ts, each, rfl⟩ := Option.map_eq_some_iff.1 written
    rw [Value.keysStayDistinct, Bool.and_eq_true, decide_eq_true_eq] at distinct
    obtain ⟨settled, become⟩ := settled_of_treeMembers? members each distinct.2
    -- The texts of the keys are different, so no member replaces another when they are read back.
    have names := names_of_treeMembers? each
    have different : (ts.map (·.1)).Nodup := List.Nodup.of_map some (names ▸ distinct.1)
    rw [isSettled, toValue, mapOf_toMembers different]
    refine ⟨by simp [different, settled], .map ?_ become⟩
    have keys := congrArg (List.map (Option.map Value.text)) names
    rw [List.map_map, List.map_map, List.map_map] at keys
    rw [keys_toMembers]
    exact keys

theorem settled_of_treeItems? (items : List Value) {ts : List Json}
    (written : treeItems? items = some ts)
    (distinct : Value.keysStayDistinctInItems items = true) :
    areSettled ts = true ∧ List.Forall₂ Value.Becomes items (toValues ts) := by
  match items with
  | [] =>
    obtain rfl := Option.some.inj written
    exact ⟨rfl, .nil⟩
  | item :: rest =>
    simp only [treeItems?, Option.bind_eq_bind, Option.pure_def, Option.bind_eq_some_iff,
      Option.some.injEq] at written
    obtain ⟨t, first, more, later, rfl⟩ := written
    rw [Value.keysStayDistinctInItems, Bool.and_eq_true] at distinct
    obtain ⟨settled, becomes⟩ := settled_of_tree? item first distinct.1
    obtain ⟨others, each⟩ := settled_of_treeItems? rest later distinct.2
    exact ⟨by rw [areSettled, settled, others]; rfl, .cons becomes each⟩

theorem settled_of_treeMembers? (members : List (Value × Value)) {ts : List (String × Json)}
    (written : treeMembers? members = some ts)
    (distinct : Value.keysStayDistinctInMembers members = true) :
    membersAreSettled ts = true ∧
      List.Forall₂ Value.Becomes (members.map (·.2)) ((toMembers ts).map (·.2)) := by
  match members with
  | [] =>
    obtain rfl := Option.some.inj written
    exact ⟨rfl, .nil⟩
  | (key, value) :: rest =>
    simp only [treeMembers?, Option.bind_eq_bind, Option.pure_def, Option.bind_eq_some_iff,
      Option.some.injEq] at written
    obtain ⟨_, -, t, first, more, later, rfl⟩ := written
    rw [Value.keysStayDistinctInMembers, Bool.and_eq_true] at distinct
    obtain ⟨settled, becomes⟩ := settled_of_tree? value first distinct.1
    obtain ⟨others, each⟩ := settled_of_treeMembers? rest later distinct.2
    exact ⟨by rw [membersAreSettled, settled, others]; rfl, .cons becomes each⟩

end

/-- **A value read back is written as it was**, and is what the value becomes. -/
theorem tree?_reread {v : Value} {t : Json} (written : tree? v = some t)
    (distinct : v.keysStayDistinct = true) :
    tree? v.reread = some t ∧ Value.Becomes v v.reread := by
  obtain ⟨settled, becomes⟩ := settled_of_tree? v written distinct
  have back : v.reread = t.toValue := by rw [Value.reread, written]; rfl
  rw [back]
  exact ⟨tree?_toValue t settled, becomes⟩

/-- Items that are each written as they were are written so together. -/
theorem mapM_reread {α : Type} {write : α → Option Json} {reread : α → α} {R : α → α → Prop}
    {xs : List α} {ts : List Json}
    (each : ∀ x ∈ xs, ∀ t, write x = some t → write (reread x) = some t ∧ R x (reread x))
    (written : xs.mapM write = some ts) :
    (xs.map reread).mapM write = some ts ∧ List.Forall₂ R xs (xs.map reread) := by
  induction xs generalizing ts with
  | nil => exact ⟨written, .nil⟩
  | cons x xs ih =>
    simp only [List.mapM_cons, Option.bind_eq_bind, Option.pure_def, Option.bind_eq_some_iff,
      Option.some.injEq] at written
    obtain ⟨t, first, more, later, rfl⟩ := written
    obtain ⟨same, related⟩ := each x List.mem_cons_self t first
    obtain ⟨others, all⟩ := ih (fun y member => each y (List.mem_cons_of_mem x member)) later
    refine ⟨?_, .cons related all⟩
    rw [List.map_cons, List.mapM_cons, same, others]
    rfl

end Record

/-! ### Results -/

namespace RuleResult

/-- Whether keys stay distinct in the values that were compared. -/
def keysStayDistinct (r : RuleResult) : Bool :=
  r.expected.keysStayDistinct && r.actual.keysStayDistinct

/-- A result and what it is read back as: at most the values that were compared differ. -/
structure Restored (r found : RuleResult) : Prop where
  others : found = { r with expected := found.expected, actual := found.actual }
  expected : Value.Becomes r.expected found.expected
  actual : Value.Becomes r.actual found.actual

theorem tree?_reread {r : RuleResult} {t : Json} (written : r.tree? = some t)
    (distinct : r.keysStayDistinct = true) : r.reread.tree? = some t ∧ r.Restored r.reread := by
  rw [keysStayDistinct, Bool.and_eq_true] at distinct
  simp only [tree?, Option.bind_eq_bind, Option.pure_def, Option.bind_eq_some_iff,
    Option.some.injEq] at written
  obtain ⟨expected, fst, actual, snd, rfl⟩ := written
  obtain ⟨expectedAgain, expectedBecomes⟩ := Record.tree?_reread fst distinct.1
  obtain ⟨actualAgain, actualBecomes⟩ := Record.tree?_reread snd distinct.2
  refine ⟨?_, rfl, expectedBecomes, actualBecomes⟩
  rw [tree?, reread, expectedAgain, actualAgain]
  rfl

end RuleResult

namespace GroupResult

/-- A result and what it is read back as: at most the results of its rules differ. -/
structure Restored (g found : GroupResult) : Prop where
  others : found = { g with results := found.results }
  results : List.Forall₂ RuleResult.Restored g.results found.results

theorem tree?_reread {g : GroupResult} {t : Json} (written : g.tree? = some t)
    (distinct : ∀ r ∈ g.results, r.keysStayDistinct = true) :
    g.reread.tree? = some t ∧ g.Restored g.reread := by
  simp only [tree?, Option.bind_eq_bind, Option.pure_def, Option.bind_eq_some_iff,
    Option.some.injEq] at written
  obtain ⟨results, each, rfl⟩ := written
  obtain ⟨again, restored⟩ := Record.mapM_reread
    (fun r member t written => RuleResult.tree?_reread written (distinct r member)) each
  refine ⟨?_, rfl, restored⟩
  rw [tree?, reread, again]
  rfl

end GroupResult

namespace Evaluation

/-- A result and what it is read back as: at most the values that rules compared differ, and a
threshold that is no finite number is absent. -/
structure Restored (e found : Evaluation) : Prop where
  others : found = { e with
    threshold := e.threshold.filter (·.isFinite), failures := found.failures,
    groups := found.groups }
  failures : List.Forall₂ RuleResult.Restored e.failures found.failures
  groups : List.Forall₂ GroupResult.Restored e.groups found.groups

theorem tree?_reread {e : Evaluation} {t : Json} (written : e.tree? = some t)
    (failuresDistinct : ∀ r ∈ e.failures, r.keysStayDistinct = true)
    (distinct : ∀ g ∈ e.groups, ∀ r ∈ g.results, r.keysStayDistinct = true) :
    e.reread.tree? = some t ∧ e.Restored e.reread := by
  simp only [tree?, Option.bind_eq_bind, Option.pure_def, Option.bind_eq_some_iff,
    Option.some.injEq] at written
  obtain ⟨failures, eachFailure, groups, eachGroup, rfl⟩ := written
  obtain ⟨failuresAgain, failuresRestored⟩ := Record.mapM_reread
    (fun r member t written => RuleResult.tree?_reread written (failuresDistinct r member))
    eachFailure
  obtain ⟨groupsAgain, groupsRestored⟩ := Record.mapM_reread
    (fun g member t written => GroupResult.tree?_reread written (distinct g member)) eachGroup
  have threshold : ((e.threshold.filter (·.isFinite)).map Record.number).getD .null =
      (e.threshold.map Record.number).getD .null := by
    cases e.threshold with
    | none => rfl
    | some x => cases x <;> rfl
  refine ⟨?_, rfl, failuresRestored, groupsRestored⟩
  rw [tree?, reread, failuresAgain, groupsAgain]
  simp only [threshold]
  rfl

end Evaluation

namespace Criteria

variable {criteria : Criteria} {settings : Settings} {subject : Value} {e found : Evaluation}
  {t : String}

/-- **A result read back is stored as it was.**  What the engine makes of a subject, when its stored
text is accepted again, comes back with that same text; and it differs at most in the values that
rules compared and in a threshold that is no finite number. -/
theorem stored_again (came : (criteria.evaluate settings subject).result = .ok e)
    (stored : e.stored = .ok t) (accepted : Evaluation.ofStored? t = some found)
    (distinct : ∀ r ∈ e.results, r.expected.keysStayDistinct = true ∧
      r.actual.keysStayDistinct = true) :
    found.stored = .ok t ∧ e.Restored found := by
  have each : ∀ r ∈ e.results, r.keysStayDistinct = true := fun r member =>
    Bool.and_eq_true_iff.2 (distinct r member)
  have back : found = e.reread := by
    rw [Evaluation.ofStored?_stored e stored] at accepted
    split at accepted
    · exact (Option.some.inj accepted).symm
    · cases accepted
  subst back
  unfold Evaluation.stored at stored
  split at stored
  · next tree written =>
    obtain rfl := Except.ok.inj stored
    obtain ⟨again, restored⟩ := Evaluation.tree?_reread written
      (fun r member => each r (by
        rw [failures_of_evaluate came] at member
        exact List.mem_of_mem_filter member))
      (fun g member r inside => each r (List.mem_flatMap.2 ⟨g, member, inside⟩))
    exact ⟨by rw [Evaluation.stored, again], restored⟩
  · cases stored

/-- Values of kinds that JSON does not have. -/
def foreignKinds : List Value := [.date ⟨2024, 12, 25, by decide⟩, .decimal (.finite false 15 (-1)),
  .bytes [97], .map [(.bool true, .set [.double .nan]), (.null, .tuple [])]]

/-- A criteria that compares with such values, and that no score is enough for. -/
def unboundedThreshold : Criteria where
  criteriaId := .text "unbounded"
  rules := [{
    ruleId := .text "two", field := "number", operator := .text "in",
    expected := .tuple (.int 2 :: foreignKinds) }]
  threshold := .double (.infinite false)

/-- A subject with a number. -/
def two : Value := .map [(.text "number", .int 2)]

/-- The requirements can be met where values of all those kinds are compared, and the threshold is
infinite. -/
theorem stored_again_foreign :
    ∃ e t found, (unboundedThreshold.evaluate {} two).result = .ok e ∧ e.stored = .ok t ∧
      Evaluation.ofStored? t = some found ∧ found.stored = .ok t ∧ e.Restored found := by
  have shape : (unboundedThreshold.evaluate {} two).result.toOption.map (fun e =>
      (e.stored.toOption.isSome, e.readsBack, e.results.all (·.keysStayDistinct))) =
        some (true, true, true) := by decide +kernel
  obtain ⟨e, came, same⟩ := exists_ok_of_toOption shape
  simp only [Prod.mk.injEq, List.all_eq_true] at same
  obtain ⟨isStored, readsBack, distinct⟩ := same
  obtain ⟨t, known⟩ := Option.isSome_iff_exists.1 isStored
  have stored := ok_of_toOption known
  have accepted : Evaluation.ofStored? t = some e.reread := by
    rw [Evaluation.ofStored?_stored e stored, readsBack, if_pos rfl]
  exact ⟨e, t, e.reread, came, stored, accepted, stored_again came stored accepted
    fun r member => Bool.and_eq_true_iff.1 (distinct r member)⟩

end Criteria
end Eligibility
