/-
# Where clusters break

Two rules that follow each other are in one cluster or in two that follow each other.  Which it is
depends on the tags alone: the later rule joins the cluster unless it has a tag that is not in force
(`Cluster.breaks_at_tag_changes`).  The tag in force is that of the last tagged rule before it, and
`ALL` before any tag.  Tags are compared in upper case and without the space around them.

A tag of nothing but space is a tag, and puts `ALL` in force instead of itself.  So it breaks
wherever it stands, after the same tag too (`Cluster.same_tag_breaks`).
-/

import Eligibility.Proofs.Criteria.Returning

namespace Eligibility
namespace Cluster

variable {rule : Rule} {rules seen : List Rule} {number : Nat} {current : String} {opened : Group}
  {clusters : List Group}

/-! ### The tag in force -/

/-- The tag of a rule as it is compared.  The empty text is no tag. -/
def label? (rule : Rule) : Option String :=
  match rule.tag with
  | .text s => if s.isEmpty then none else some (normalized s)
  | _ => none

theorem tag?_eq_label? (typed : rule.tag = .null ∨ rule.tag.IsText) :
    tag? rule = .ok (label? rule) := by
  obtain absent | ⟨s, given⟩ := typed
  · rw [tag?, label?, absent]
    rfl
  · rw [tag?, label?, given]
    cases empty : s.isEmpty <;> simp [Value.isTruthy, empty]

/-- The tag of the last rule that has one. -/
def lastTag? (rules : List Rule) : Option String := (rules.filterMap label?).getLast?

theorem lastTag?_concat (seen : List Rule) (rule : Rule) :
    lastTag? (seen ++ [rule]) = (label? rule).or (lastTag? seen) := by
  rw [lastTag?, List.filterMap_append, List.getLast?_append, lastTag?]
  cases found : label? rule <;> simp [found]

/-- No blank tag is in force. -/
theorem inForce_ne_empty (tag : Option String) : inForce tag ≠ "" := by
  unfold inForce
  split
  · split
    · decide
    · next given => simpa using given
  · decide

theorem inForce_of_ne {tag : String} (given : tag ≠ "") : inForce (some tag) = tag :=
  if_neg (by simpa using given)

/-- A rule joins the cluster of the rules before it when it has no tag or the one in force. -/
def Joins (seen : List Rule) (rule : Rule) : Prop :=
  ∀ tag, label? rule = some tag → tag = inForce (lastTag? seen)

theorem joins_iff :
    Joins seen rule ↔ startsNew (label? rule) (inForce (lastTag? seen)) = false := by
  rw [Joins]
  cases label? rule with
  | none => simp [startsNew]
  | some tag => simp [startsNew]

/-- A rule that joins leaves the tag in force. -/
theorem Joins.inForce_concat (joins : Joins seen rule) :
    inForce (lastTag? (seen ++ [rule])) = inForce (lastTag? seen) := by
  rw [lastTag?_concat]
  cases found : label? rule with
  | none => rfl
  | some tag =>
    have same := joins tag found
    rw [Option.some_or, inForce_of_ne (same ▸ inForce_ne_empty _), same]

/-- A rule that does not join puts its tag in force. -/
theorem inForce_concat_of_not_joins (breaks : ¬Joins seen rule) :
    inForce (lastTag? (seen ++ [rule])) = inForce (label? rule) := by
  rw [lastTag?_concat]
  cases found : label? rule with
  | none => exact absurd (fun tag given => by cases found.symm.trans given) breaks
  | some tag => rfl

/-! ### The scan -/

/-- The rules of clusters that are numbered from `number`, each with the number of its cluster. -/
def placed (number : Nat) (clusters : List Group) : List (Rule × Nat) :=
  (clusters.zipIdx number).flatMap fun entry => entry.1.rules.map (·, entry.2)

theorem placed_cons (number : Nat) (cluster : Group) (clusters : List Group) :
    placed number (cluster :: clusters) =
      cluster.rules.map (·, number) ++ placed (number + 1) clusters := by
  rw [placed, List.zipIdx_cons, List.flatMap_cons, placed]

theorem map_fst_placed (number : Nat) (clusters : List Group) :
    (placed number clusters).map Prod.fst = clusters.flatMap (·.rules) := by
  induction clusters generalizing number with
  | nil => rfl
  | cons cluster clusters ih =>
    rw [placed_cons, List.map_append, ih, List.map_map, List.flatMap_cons]
    congr 1
    exact List.map_id _

/-- Rules with the numbers of their clusters, as they follow the rules `seen`, of which the last is
in the cluster `number`. -/
inductive Trail : List Rule → Nat → List (Rule × Nat) → Prop
  | nil {seen : List Rule} {number : Nat} : Trail seen number []
  | joins {seen : List Rule} {number : Nat} {rule : Rule} {more : List (Rule × Nat)}
      (joins : Joins seen rule) (rest : Trail (seen ++ [rule]) number more) :
      Trail seen number ((rule, number) :: more)
  | breaks {seen : List Rule} {number : Nat} {rule : Rule} {more : List (Rule × Nat)}
      (breaks : ¬Joins seen rule) (rest : Trail (seen ++ [rule]) (number + 1) more) :
      Trail seen number ((rule, number + 1) :: more)

theorem Trail.suffix {before more : List (Rule × Nat)} {a : Rule} {i : Nat}
    (trail : Trail seen number (before ++ (a, i) :: more)) :
    Trail (seen ++ (before.map Prod.fst ++ [a])) i more := by
  induction before generalizing seen number with
  | nil =>
    cases trail with
    | joins _ rest => exact rest
    | breaks _ rest => exact rest
  | cons entry before ih =>
    rw [List.map_cons, List.cons_append, List.append_cons]
    cases trail with
    | joins _ rest => exact ih rest
    | breaks _ rest => exact ih rest

theorem Trail.step {more : List (Rule × Nat)} {b : Rule} {i j : Nat}
    (trail : Trail seen i ((b, j) :: more)) :
    (i = j ↔ Joins seen b) ∧ (i = j ∨ j = i + 1) := by
  cases trail with
  | joins joins _ => exact ⟨⟨fun _ => joins, fun _ => rfl⟩, .inl rfl⟩
  | breaks breaks _ =>
    exact ⟨⟨fun same => absurd same (by omega), fun joins => absurd joins breaks⟩, .inr rfl⟩

/-- How a cluster combines that a rule with this tag opens. -/
inductive Combines : Option String → Value → Prop
  | untagged : Combines none (.text Combinator.all.text)
  | blank : Combines (some "") (.text Combinator.all.text)
  | known {tag : String} {combinator : Combinator} (known : (tag, combinator) ∈ tags) :
      Combines (some tag) (.text combinator.text)
  | unknown {tag : String} (given : tag ≠ "") (unknown : tag ∉ tags.map Prod.fst) :
      Combines (some tag) (.text tag)

theorem combines_combination (tag : Option String) : Combines tag (combination tag).value := by
  cases tag with
  | none => exact .untagged
  | some tag =>
    rw [combination]
    by_cases blank : tag.isEmpty
    · obtain rfl : tag = "" := by simpa using blank
      exact .blank
    · rw [if_neg blank]
      cases found : tags.find? (·.1 == tag) with
      | some entry =>
        have same := List.find?_some found
        obtain rfl : entry.1 = tag := by simpa using same
        exact .known (List.mem_of_find?_eq_some found)
      | none =>
        refine .unknown (by simpa using blank) fun member => ?_
        obtain ⟨entry, inside, rfl⟩ := List.mem_map.1 member
        simpa using List.find?_eq_none.1 found entry inside

/-- A cluster by its number.  Its first rule settles how it is called and how it combines. -/
structure Opened (number : Nat) (cluster : Group) : Prop where
  groupId : cluster.groupId = .text s!"cluster_{number}"
  opener : ∃ rule rest, cluster.rules = rule :: rest ∧ Combines (label? rule) cluster.combination ∧
    cluster.name = some (inForce (label? rule) ++ " cluster")

theorem opened_start (number : Nat) (rule : Rule) :
    Opened number (start number (label? rule) rule).value :=
  ⟨rfl, rule, [], rfl, combines_combination _, rfl⟩

theorem Opened.join (cluster : Opened number opened) (rule : Rule) :
    Opened number { opened with rules := opened.rules ++ [rule] } := by
  obtain ⟨groupId, first, rest, listed, combines, named⟩ := cluster
  exact ⟨groupId, first, rest ++ [rule], by rw [listed, List.cons_append], combines, named⟩

theorem extend_of_joins (found : tag? rule = .ok (label? rule))
    (joins : startsNew (label? rule) current = false) :
    (extend number current opened (rule :: rules)).result =
      (extend number current { opened with rules := opened.rules ++ [rule] } rules).result := by
  rw [extend, Trial.result_bind, Trial.result_ofExcept, found]
  change (if startsNew (label? rule) current then _ else _ : Trial (List Group)).result = _
  rw [joins]
  rfl

theorem extend_of_breaks (found : tag? rule = .ok (label? rule))
    (breaks : startsNew (label? rule) current = true)
    (came : (extend number current opened (rule :: rules)).result = .ok clusters) :
    ∃ more, clusters = opened :: more ∧ (extend (number + 1) (inForce (label? rule))
      (start (number + 1) (label? rule) rule).value rules).result = .ok more := by
  rw [extend, Trial.result_bind, Trial.result_ofExcept, found] at came
  change (if startsNew (label? rule) current then _ else _ : Trial (List Group)).result = _ at came
  rw [if_pos breaks] at came
  obtain ⟨next, started, rest⟩ := Trial.result_bind_eq_ok.1 came
  obtain rfl := Except.ok.inj started
  obtain ⟨more, extended, same⟩ := Trial.result_bind_eq_ok.1 rest
  exact ⟨more, (Except.ok.inj same).symm, extended⟩

/-- The rules after an open cluster join it or break, one after the other. -/
theorem trail_of_extend (found : ∀ rule ∈ rules, tag? rule = .ok (label? rule))
    (force : current = inForce (lastTag? seen)) (first : Opened number opened)
    (came : (extend number current opened rules).result = .ok clusters) :
    (∀ entry ∈ clusters.zipIdx number, Opened entry.2 entry.1) ∧
      ∃ tail, placed number clusters = opened.rules.map (·, number) ++ tail ∧
        Trail seen number tail := by
  induction rules generalizing seen number current opened clusters with
  | nil =>
    obtain rfl := Except.ok.inj came
    refine ⟨fun entry member => ?_, [], placed_cons .., .nil⟩
    obtain rfl := List.mem_singleton.1 member
    exact first
  | cons rule rules ih =>
    obtain ⟨own, others⟩ := List.forall_mem_cons.1 found
    subst force
    by_cases joins : Joins seen rule
    · rw [extend_of_joins own (joins_iff.1 joins)] at came
      obtain ⟨numbered, tail, listed, trail⟩ :=
        ih others joins.inForce_concat.symm (first.join rule) came
      refine ⟨numbered, (rule, number) :: tail, ?_, .joins joins trail⟩
      rw [listed, List.map_append, List.append_assoc]
      rfl
    · have breaks := Bool.of_not_eq_false (joins_iff.not.1 joins)
      obtain ⟨more, rfl, extended⟩ := extend_of_breaks own breaks came
      obtain ⟨numbered, tail, listed, trail⟩ :=
        ih others (inForce_concat_of_not_joins joins).symm (opened_start (number + 1) rule) extended
      refine ⟨?_, (rule, number + 1) :: tail, ?_, .breaks joins trail⟩
      · rw [List.zipIdx_cons]
        exact List.forall_mem_cons.2 ⟨first, numbered⟩
      · rw [placed_cons, listed]
        rfl

/-- The first rule opens a cluster, and the others follow it. -/
theorem exists_trail {first : Rule}
    (typed : ∀ rule ∈ first :: rules, rule.tag = .null ∨ rule.tag.IsText)
    (tagged : ∃ rule ∈ first :: rules, rule.tag.isTruthy = true) :
    ∃ clusters tail, (ofRules (first :: rules)).result = .ok clusters ∧
      (∀ entry ∈ clusters.zipIdx 1, Opened entry.2 entry.1) ∧
      placed 1 clusters = (first, 1) :: tail ∧ Trail [first] 1 tail := by
  have found : ∀ rule ∈ first :: rules, tag? rule = .ok (label? rule) := fun rule member =>
    tag?_eq_label? (typed rule member)
  obtain ⟨clusters, came, -⟩ := exists_ofRules fun rule member => ⟨_, found rule member⟩
  obtain ⟨own, others⟩ := List.forall_mem_cons.1 found
  have some : ¬(first :: rules).all (!·.tag.isTruthy) = true := by
    obtain ⟨rule, member, given⟩ := tagged
    intro none
    simpa [given] using List.all_eq_true.1 none rule member
  have scanned : (extend 1 (inForce (label? first)) (start 1 (label? first) first).value
      rules).result = .ok clusters := by
    rw [ofRules, List.isEmpty_cons, if_neg Bool.false_ne_true, if_neg some, ofTagged,
      Trial.result_bind, Trial.result_ofExcept, own] at came
    exact came
  have force : inForce (label? first) = inForce (lastTag? [first]) := by
    rw [← List.nil_append [first], lastTag?_concat]
    exact congrArg inForce Option.or_none.symm
  obtain ⟨numbered, tail, listed, trail⟩ :=
    trail_of_extend others force (opened_start 1 first) scanned
  exact ⟨clusters, tail, came, numbered, listed, trail⟩

/-- What follows a rule in the clusters. -/
theorem Trail.after {first a : Rule} {i : Nat} {before more tail : List (Rule × Nat)}
    (trail : Trail [first] number tail)
    (place : (first, number) :: tail = before ++ (a, i) :: more) :
    Trail (before.map Prod.fst ++ [a]) i more := by
  cases before with
  | nil =>
    obtain ⟨⟨⟩, rfl⟩ := List.cons.inj place
    exact trail
  | cons entry before =>
    obtain ⟨rfl, rfl⟩ := List.cons.inj place
    exact trail.suffix

/-- **Clusters break where the tag changes.**  The clusters hold the rules in order.  A rule is in
the cluster of the one before it exactly when it has no tag or the one in force, and otherwise it
opens the next cluster.  The tag in force is that of the last tagged rule unless that is blank, so
two rules of one tag that follow each other are in one cluster unless the tag is blank.  Clusters
are named by their number, and combine as the tag of their first rule says. -/
theorem breaks_at_tag_changes (typed : ∀ rule ∈ rules, rule.tag = .null ∨ rule.tag.IsText)
    (tagged : ∃ rule ∈ rules, rule.tag.isTruthy = true) :
    ∃ clusters, (ofRules rules).result = .ok clusters ∧
      (∀ entry ∈ clusters.zipIdx 1, Opened entry.2 entry.1) ∧
      (placed 1 clusters).map Prod.fst = rules ∧
      ∀ before a i b j after, placed 1 clusters = before ++ (a, i) :: (b, j) :: after →
        let seen := before.map Prod.fst ++ [a]
        (i = j ↔ Joins seen b) ∧ (i = j ∨ j = i + 1) ∧
        (lastTag? seen ≠ some "" →
          (i = j ↔ ∀ tag, label? b = some tag → tag = (lastTag? seen).getD "ALL")) ∧
        ∀ tag, label? a = some tag → label? b = some tag → (i = j ↔ tag ≠ "") := by
  cases rules with
  | nil =>
    obtain ⟨rule, ⟨⟩, -⟩ := tagged
  | cons first rules =>
    obtain ⟨clusters, tail, came, numbered, listed, trail⟩ := exists_trail typed tagged
    refine ⟨clusters, came, numbered, (map_fst_placed ..).trans (holds_of_ofRules came).1, ?_⟩
    intro before a i b j after place seen
    obtain ⟨joins, next⟩ := (trail.after (listed.symm.trans place)).step
    refine ⟨joins, next, fun given => joins.trans ?_, fun tag first second => joins.trans ?_⟩
    · have force : inForce (lastTag? seen) = (lastTag? seen).getD "ALL" := by
        cases last : lastTag? seen with
        | none => rfl
        | some tag => exact inForce_of_ne (by simpa [last] using given)
      rw [Joins, force]
    · have last : lastTag? seen = some tag := by rw [lastTag?_concat, first, Option.some_or]
      rw [Joins, last]
      constructor
      · intro same
        exact same tag second ▸ inForce_ne_empty _
      · intro given other found
        obtain rfl := Option.some.inj (second.symm.trans found)
        exact (inForce_of_ne given).symm

/-- A rule with this tag. -/
def ofTag (ruleId : String) (tag : Value) : Rule where
  ruleId := .text ruleId
  field := ruleId
  operator := .text "exists"
  tag := tag

/-- Rules of two tags, one of them written in two ways, and a rule without one. -/
def roster : List Rule :=
  [ofTag "phone" (.text " or "), ofTag "mail" (.text "OR"), ofTag "post" .null,
    ofTag "name" (.text "and")]

/-- The requirements can be met: the rules fall into a cluster of three and one of one. -/
theorem breaks_at_tag_changes_roster :
    (∀ rule ∈ roster, rule.tag = .null ∨ rule.tag.IsText) ∧
    (∃ rule ∈ roster, rule.tag.isTruthy = true) ∧
    ∃ clusters, (ofRules roster).result = .ok clusters ∧
      placed 1 clusters = roster.zip [1, 1, 1, 2] ∧
      Joins (roster.take 1) (ofTag "mail" (.text "OR")) ∧
      Joins (roster.take 2) (ofTag "post" .null) ∧
      ¬Joins (roster.take 3) (ofTag "name" (.text "and")) := by
  have typed : ∀ rule ∈ roster, rule.tag = .null ∨ rule.tag.IsText := by
    simp [roster, ofTag, Value.IsText]
  have tagged : ∃ rule ∈ roster, rule.tag.isTruthy = true := ⟨_, List.mem_cons_self .., rfl⟩
  obtain ⟨clusters, came, -, rules, breaks⟩ := breaks_at_tag_changes typed tagged
  have comes : (ofRules roster).result.toOption.map (fun clusters =>
      (placed 1 clusters).map Prod.snd) = some [1, 1, 1, 2] := by
    decide +kernel
  obtain ⟨_, came', numbers⟩ := exists_ok_of_toOption comes
  obtain rfl := Except.ok.inj (came.symm.trans came')
  have place : placed 1 clusters = roster.zip [1, 1, 1, 2] := List.zip_of_prod rules numbers
  refine ⟨typed, tagged, clusters, came, place, ?_, ?_, ?_⟩
  · exact (breaks [] _ 1 _ 1 _ place).1.1 rfl
  · exact (breaks [(_, 1)] _ 1 _ 1 _ place).1.1 rfl
  · exact (breaks [(_, 1), (_, 1)] _ 1 _ 2 _ place).1.not.1 (by decide)

/-- **Two rules of one tag may be in two clusters.**  The tag is a space. -/
theorem same_tag_breaks :
    let rules := [ofTag "phone" (.text " "), ofTag "mail" (.text " ")]
    (∀ rule ∈ rules, rule.tag.isTruthy = true ∧ label? rule = some "") ∧
    ∃ clusters, (ofRules rules).result = .ok clusters ∧ placed 1 clusters = rules.zip [1, 2] := by
  intro rules
  have comes : (ofRules rules).result.toOption.map (fun clusters =>
      (placed 1 clusters).map Prod.snd) = some [1, 2] := by
    decide +kernel
  obtain ⟨clusters, came, numbers⟩ := exists_ok_of_toOption comes
  have listed := (map_fst_placed 1 clusters).trans (holds_of_ofRules came).1
  exact ⟨by decide +kernel, clusters, came, List.zip_of_prod listed numbers⟩

end Cluster
end Eligibility
