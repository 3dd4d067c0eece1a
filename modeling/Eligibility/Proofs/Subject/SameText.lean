/-
# Subjects with the same canonical text

Results are stored under the digest of a subject's canonical text, so subjects with one text share
their results.  Plain subjects with one text have the same members, in some order, and every
criteria evaluates them to the same result (`evaluate_eq_of_text`).  What plain subjects leave out
is what canonical text loses, and for each such loss there are subjects that share their text and
that a criteria tells apart (`confused`).
-/

import Mathlib
import Eligibility.Proofs.Criteria.Fields
import Eligibility.Proofs.Json.RoundTrip
import Eligibility.Proofs.Subject.Plain
import Eligibility.Subject.Validation

namespace Eligibility
namespace Canonical

variable {before : String → String → Prop}

/-- A subject that canonical text tells from others but for the order of its members. -/
structure PlainSubject (before : String → String → Prop) where
  members : List (String × Value)
  distinct : (members.map (·.1)).Nodup
  plain : ∀ m ∈ members, Plain before m.2

/-- The subject as a value. -/
def PlainSubject.value (s : PlainSubject before) : Value := .map (named s.members)

theorem text_eq_ok {v : Value} {x : String} :
    text v = .ok x ↔ ∃ t, tree v = .ok t ∧ Json.asciiText t = x := by
  rw [text]
  cases tree v with
  | error fault => exact ⟨nofun, nofun⟩
  | ok t =>
    constructor
    · intro same
      exact ⟨t, rfl, Except.ok.inj same⟩
    · rintro ⟨u, ⟨⟩, rfl⟩
      rfl

/-- Plain subjects with one text have the same members. -/
theorem PlainSubject.perm [Std.Asymm before] {s t : PlainSubject before} {x : String}
    (came : text s.value = .ok x) (came' : text t.value = .ok x) :
    s.members.Perm t.members := by
  obtain ⟨whole, tree_eq, shown⟩ := text_eq_ok.1 came
  obtain ⟨whole', tree_eq', shown'⟩ := text_eq_ok.1 came'
  obtain rfl := Json.asciiText_injective (shown.trans shown'.symm)
  obtain ⟨trees, more, rfl⟩ := tree_named.1 tree_eq
  obtain ⟨trees', more', same⟩ := tree_named.1 tree_eq'
  obtain rfl := Json.object.inj same
  have sorted := Plain.members_inj
    (fun m member w u other came came' =>
      (s.plain m (mem_of_mem_inOrder member)).tree_inj other came came')
    (fun m member => t.plain m (mem_of_mem_inOrder member)) more more'
  exact (inOrder_perm _).symm.trans (sorted ▸ inOrder_perm _)

theorem find?_named (members : List (String × Value)) (key : String) :
    Value.find? (named members) key = (members.find? fun m => m.1 == key).map (·.2) := by
  rw [Value.find?, named, List.find?_map, Option.map_map]
  rfl

theorem find?_named_of_perm {members others : List (String × Value)}
    (distinct : (members.map (·.1)).Nodup) (perm : members.Perm others) (key : String) :
    Value.find? (named members) key = Value.find? (named others) key := by
  rw [find?_named, find?_named, List.find?_eq_find?_of_perm perm]
  rintro m ⟨member, key_eq⟩ n ⟨member', key_eq'⟩
  exact List.inj_on_of_nodup_map distinct member member'
    ((beq_iff_eq.1 key_eq).trans (beq_iff_eq.1 key_eq').symm)

/-- **Subjects that share a key share their result**, when they are plain and list the members of
the maps inside them in one order. -/
theorem evaluate_eq_of_text [Std.Asymm before] (criteria : Criteria) (settings : Settings)
    {s t : PlainSubject before} {x : String} (came : text s.value = .ok x)
    (came' : text t.value = .ok x) :
    criteria.evaluate settings s.value = criteria.evaluate settings t.value := by
  have perm := PlainSubject.perm came came'
  exact Criteria.evaluate_eq_of_fields (Field.resolve_congr (find?_named_of_perm s.distinct perm))
    criteria settings

/-- Members of a map that looks like no value that JSON does not have. -/
theorem not_looksNamed {members : List (String × Value)} {m : String × Value} (member : m ∈ members)
    (kind : m.1 ≠ "__type__") (value : m.1 ≠ "value") : ¬LooksNamed members := by
  rintro ⟨v, -, perm⟩
  have among := perm.mem_iff.1 member
  simp only [List.mem_cons, List.not_mem_nil, or_false] at among
  obtain rfl | rfl := among
  · exact kind rfl
  · exact value rfl

/-- Whether one name is shorter than another. -/
def Shorter (a b : String) : Prop := a.length < b.length

instance : Std.Asymm Shorter := ⟨fun _ _ => Nat.lt_asymm⟩

/-- Where somebody lives, and since when. -/
def home : Value :=
  .map (named [("city", .text "Oslo"), ("since", .date ⟨2024, 1, 1, by decide⟩)])

theorem plain_home : Plain Shorter home := by
  refine .map ?_ (not_looksNamed (m := ("city", .text "Oslo")) (by simp) (by decide) (by decide)) ?_
  · exact List.pairwise_pair.2 (show "city".length < "since".length by decide)
  · simp only [List.mem_cons, List.not_mem_nil, or_false, forall_eq_or_imp, forall_eq]
    exact ⟨.text "Oslo", .foreign rfl⟩

/-- A subject of an age and a home. -/
def tenant : PlainSubject Shorter where
  members := [("age", .decimal (.finite false 205 (-1))), ("home", home)]
  distinct := by decide
  plain := by
    simp only [List.mem_cons, List.not_mem_nil, or_false, forall_eq_or_imp, forall_eq]
    exact ⟨.foreign rfl, plain_home⟩

/-- The same subject, its home first. -/
def resident : PlainSubject Shorter where
  members := [("home", home), ("age", .decimal (.finite false 205 (-1)))]
  distinct := by decide
  plain := by
    simp only [List.mem_cons, List.not_mem_nil, or_false, forall_eq_or_imp, forall_eq]
    exact ⟨plain_home, .foreign rfl⟩

/-- A criteria of one rule. -/
def criteriaOf (rule : Rule) : Criteria :=
  { criteriaId := .text "one", groups := [{ groupId := .text "only", rules := [rule] }] }

/-- A rule that a field passes when it holds a time after the year 2023. -/
def recent (field : String) : Rule where
  ruleId := .text "recent"
  field := field
  operator := .text "after"
  expected := .text "2023-12-31"

/-- The tree of a home. -/
def homeTree : Json :=
  .object [("city", .text "Oslo"),
    ("since", .object [("__type__", .text "date"), ("value", .text "2024-01-01")])]

/-- The tree of the subject, and of the other. -/
def tenantTree : Json :=
  .object [("age", .object [("__type__", .text "Decimal"), ("value", .text "Decimal('20.5')")]),
    ("home", homeTree)]

/-- The requirements can be met by subjects of different order. -/
theorem evaluate_eq_of_text_tenant :
    text tenant.value = .ok tenantTree.asciiText ∧ text resident.value = .ok tenantTree.asciiText ∧
      (criteriaOf (recent "home.since")).evaluate {} tenant.value =
        (criteriaOf (recent "home.since")).evaluate {} resident.value := by
  have came : text tenant.value = .ok tenantTree.asciiText := text_eq_ok.2 ⟨_, by cbv, rfl⟩
  have came' : text resident.value = .ok tenantTree.asciiText := text_eq_ok.2 ⟨_, by cbv, rfl⟩
  exact ⟨came, came', evaluate_eq_of_text _ _ came came'⟩

/-! ### Differences that canonical text loses -/

/-- Accepted subjects that share their text, of which a criteria passes the first alone. -/
structure Confused (criteria : Criteria) (settings : Settings) (s t : Value) : Prop where
  accepted : (Subject.validate settings s).result = .ok ()
  accepted' : (Subject.validate settings t).result = .ok ()
  sameText : ∃ x, text s = .ok x ∧ text t = .ok x
  passes : ∃ e, (criteria.evaluate settings s).result = .ok e ∧ e.passed = true
  fails : ∃ e, (criteria.evaluate settings t).result = .ok e ∧ e.passed = false

theorem confused_of_tree {criteria : Criteria} {s t : Value} {j : Json}
    (accepted : (Subject.validate {} s).result.toOption = some ())
    (accepted' : (Subject.validate {} t).result.toOption = some ())
    (came : tree s = .ok j) (came' : tree t = .ok j)
    (passes : (criteria.evaluate {} s).result.toOption.map (·.passed) = some true)
    (fails : (criteria.evaluate {} t).result.toOption.map (·.passed) = some false) :
    Confused criteria {} s t where
  accepted := ok_of_toOption accepted
  accepted' := ok_of_toOption accepted'
  sameText := ⟨_, text_eq_ok.2 ⟨_, came, rfl⟩, text_eq_ok.2 ⟨_, came', rfl⟩⟩
  passes := exists_ok_of_toOption passes
  fails := exists_ok_of_toOption fails

/-- A subject of one field. -/
def under (field : String) (v : Value) : Value := .map [(.text field, v)]

/-- A rule on the field `x`. -/
def onField (field operator : String) (expected : Value) : Criteria :=
  criteriaOf {
    ruleId := .text "x", field := field, operator := .text operator, expected := expected }

/-- **A text does not stand for one subject alone.**  It loses the difference between a date and a
map that looks like the object that stands for it, between a list and a tuple, between a key and
its text, and between one order of the members of a map and another. -/
theorem confused :
    Confused (onField "x" "after" (.text "2023-12-31")) {}
      (under "x" (.date ⟨2024, 1, 1, by decide⟩))
      (under "x" (.map (named [("__type__", .text "date"), ("value", .text "2024-01-01")]))) ∧
    Confused (onField "x" "starts_with" (.text "[")) {}
      (under "x" (.list [.int 1, .int 2])) (under "x" (.tuple [.int 1, .int 2])) ∧
    Confused (onField "x.1" "exists" .null) {}
      (under "x" (.map [(.text "1", .bool true)])) (under "x" (.map [(.int 1, .bool true)])) ∧
    Confused (onField "x" "starts_with" (.text "\x7b'a'")) {}
      (under "x" (.map (named [("a", .int 1), ("b", .int 2)])))
      (under "x" (.map (named [("b", .int 2), ("a", .int 1)]))) :=
  ⟨confused_of_tree (by decide +kernel) (by decide +kernel)
      (j := .object [("x", .object [("__type__", .text "date"), ("value", .text "2024-01-01")])])
      (by cbv) (by cbv) (by decide +kernel) (by decide +kernel),
    confused_of_tree (by decide +kernel) (by decide +kernel)
      (j := .object [("x", .array [.int 1, .int 2])])
      (by cbv) (by cbv) (by decide +kernel) (by decide +kernel),
    confused_of_tree (by decide +kernel) (by decide +kernel)
      (j := .object [("x", .object [("1", .bool true)])])
      (by cbv) (by cbv) (by decide +kernel) (by decide +kernel),
    confused_of_tree (by decide +kernel) (by decide +kernel)
      (j := .object [("x", .object [("a", .int 1), ("b", .int 2)])])
      (by cbv) (by cbv) (by decide +kernel) (by decide +kernel)⟩

end Canonical
end Eligibility
