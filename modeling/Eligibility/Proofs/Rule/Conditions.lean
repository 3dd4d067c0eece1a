/-
# The conditions of a rule

A condition holds for a subject, or it does not, or it cannot be tried because its operator is none
(`Condition.verdict?`).  The conditions of a rule are tried in order up to the first that does not
hold, and that one settles the matter (`Rule.concludes_conditionsHold`): the rule does not apply, or
the failure to try the condition fails the rule.

So a rule applies exactly when all its conditions hold, in whatever order they stand, and then it
comes to the same result.  Otherwise it does not pass and contributes nothing.  Whether it is
skipped depends on the order only where one condition does not hold and another cannot be tried
(`Rule.Torn`), and there it does (`Rule.applies_in_any_order`, `Rule.order_of_conditions_shows`).
-/

import Eligibility.Proofs.Comparison
import Eligibility.Proofs.Rule.Consistent

namespace Eligibility

/-! ### One condition -/

namespace Condition

variable {condition : Condition} {subject : Value}

/-- Whether a condition holds for a subject; none when it cannot be tried. -/
def verdict? (condition : Condition) (subject : Value) : Option Bool :=
  (Operator.ofValue? condition.operator).map fun operator =>
    (operator.compare (Field.resolve subject condition.field) condition.expected).value

/-- The condition is tried and holds. -/
def Holds (condition : Condition) (subject : Value) : Prop :=
  condition.verdict? subject = some true

/-- The condition is tried and does not hold. -/
def Fails (condition : Condition) (subject : Value) : Prop :=
  condition.verdict? subject = some false

/-- The condition cannot be tried: its operator is none. -/
def Untriable (condition : Condition) : Prop := Operator.ofValue? condition.operator = none

theorem verdict?_eq_none : condition.verdict? subject = none ↔ condition.Untriable :=
  Option.map_eq_none_iff

/-- What trying a condition comes to. -/
theorem result_try (condition : Condition) (subject : Value) :
    (compareBy condition.operator (Field.resolve subject condition.field)
        condition.expected).result =
      match condition.verdict? subject with
      | some holds => .ok holds
      | none => .error (.unknownOperator condition.operator.display) := by
  rw [Operator.result_compareBy, verdict?]
  cases Operator.ofValue? condition.operator with
  | some operator => rfl
  | none => rfl

theorem Fails.not_holds (fails : condition.Fails subject) : ¬condition.Holds subject := by
  intro holds
  cases fails.symm.trans holds

theorem Fails.triable (fails : condition.Fails subject) : ¬condition.Untriable := by
  intro untriable
  cases fails.symm.trans (verdict?_eq_none.2 untriable)

theorem Untriable.not_holds (untriable : condition.Untriable) : ¬condition.Holds subject := by
  intro holds
  cases (verdict?_eq_none.2 untriable).symm.trans holds

end Condition

namespace Rule

variable {rule rule' : Rule} {subject : Value} {conditions others : List Condition}
  {r r' : RuleResult}

/-! ### The first obstacle -/

/-- The first of the conditions that does not hold. -/
def obstacle? (subject : Value) (conditions : List Condition) : Option Condition :=
  conditions.find? fun condition => condition.verdict? subject != some true

theorem obstacle?_eq_none :
    obstacle? subject conditions = none ↔ ∀ condition ∈ conditions, condition.Holds subject := by
  simp [obstacle?, Condition.Holds]

theorem obstacle?_eq_some {condition : Condition} :
    obstacle? subject conditions = some condition ↔ ¬condition.Holds subject ∧
      ∃ before after, conditions = before ++ condition :: after ∧
        ∀ earlier ∈ before, earlier.Holds subject := by
  simp [obstacle?, List.find?_eq_some_iff_append, Condition.Holds]

/-- The first obstacle is of some kind when the conditions before one of this kind hold. -/
theorem exists_obstacle_iff {P : Condition → Prop}
    (stops : ∀ condition, P condition → ¬condition.Holds subject) :
    (∃ condition, obstacle? subject conditions = some condition ∧ P condition) ↔
      ∃ before condition after, conditions = before ++ condition :: after ∧
        (∀ earlier ∈ before, earlier.Holds subject) ∧ P condition := by
  simp only [obstacle?_eq_some]
  constructor
  · rintro ⟨condition, ⟨-, before, after, place, hold⟩, kind⟩
    exact ⟨before, condition, after, place, hold, kind⟩
  · rintro ⟨before, condition, after, place, hold, kind⟩
    exact ⟨condition, ⟨stops condition kind, before, after, place, hold⟩, kind⟩

/-- What conditions come to by their first obstacle. -/
inductive Concludes (subject : Value) : Option Condition → Except Failure Bool → Prop
  | holds : Concludes subject none (.ok true)
  | fails {condition : Condition} (fails : condition.Fails subject) :
      Concludes subject (some condition) (.ok false)
  | untriable {condition : Condition} (untriable : condition.Untriable) :
      Concludes subject (some condition) (.error (.unknownOperator condition.operator.display))

namespace Concludes

variable {obstacle : Option Condition} {result : Except Failure Bool}

theorem ok_true_iff (concludes : Concludes subject obstacle result) :
    result = .ok true ↔ obstacle = none := by
  cases concludes <;> simp

theorem ok_false_iff (concludes : Concludes subject obstacle result) :
    result = .ok false ↔ ∃ condition, obstacle = some condition ∧ condition.Fails subject := by
  cases concludes with
  | holds => simp
  | fails fails => simp [fails]
  | untriable untriable => simp [Condition.Fails, Condition.verdict?_eq_none.2 untriable]

theorem error_iff (concludes : Concludes subject obstacle result) (failure : Failure) :
    result = .error failure ↔ ∃ condition, obstacle = some condition ∧ condition.Untriable ∧
      failure = .unknownOperator condition.operator.display := by
  cases concludes with
  | holds => simp
  | fails fails => simp [fails.triable]
  | untriable untriable => simp [untriable, eq_comm]

end Concludes

/-- **The first obstacle settles whether the conditions hold.** -/
theorem concludes_conditionsHold (subject : Value) (conditions : List Condition) :
    Concludes subject (obstacle? subject conditions)
      (conditionsHold subject conditions).result := by
  induction conditions with
  | nil => exact .holds
  | cons condition conditions ih =>
    rw [conditionsHold, Trial.result_bind, condition.result_try]
    have first (not : ¬condition.Holds subject) :
        obstacle? subject (condition :: conditions) = some condition :=
      List.find?_cons_of_pos (by simpa [Condition.Holds] using not)
    cases tried : condition.verdict? subject with
    | none =>
      have untriable := Condition.verdict?_eq_none.1 tried
      rw [first untriable.not_holds]
      exact .untriable untriable
    | some holds =>
      cases holds with
      | false =>
        rw [first (Condition.Fails.not_holds tried)]
        exact .fails tried
      | true =>
        have later : obstacle? subject (condition :: conditions) = obstacle? subject conditions :=
          List.find?_cons_of_neg (by simp [tried])
        rw [later]
        exact ih

/-- What the conditions of a rule decide. -/
structure Gated (rule : Rule) (subject : Value) : Prop where
  /-- The rule applies when every condition holds. -/
  applies : (rule.applies subject).result = .ok true ↔
    ∀ condition ∈ rule.dependencies, condition.Holds subject
  /-- It does not when the first condition that does not hold can be tried. -/
  skips : (rule.applies subject).result = .ok false ↔ ∃ before condition after,
    rule.dependencies = before ++ condition :: after ∧
      (∀ earlier ∈ before, earlier.Holds subject) ∧ condition.Fails subject
  /-- It fails when that condition cannot be tried. -/
  fails : ∀ failure, (rule.applies subject).result = .error failure ↔ ∃ before condition after,
    rule.dependencies = before ++ condition :: after ∧
      (∀ earlier ∈ before, earlier.Holds subject) ∧ condition.Untriable ∧
      failure = .unknownOperator condition.operator.display

theorem gated (rule : Rule) (subject : Value) : rule.Gated subject := by
  have settled : Concludes subject _ (rule.applies subject).result :=
    concludes_conditionsHold subject rule.dependencies
  refine ⟨settled.ok_true_iff.trans obstacle?_eq_none, ?_, fun failure => ?_⟩
  · exact settled.ok_false_iff.trans (exists_obstacle_iff fun _ fails => fails.not_holds)
  · exact (settled.error_iff failure).trans
      (exists_obstacle_iff fun _ kind => kind.1.not_holds)

/-- Where every condition can be tried, nothing fails. -/
theorem exists_applies (triable : ∀ condition ∈ rule.dependencies, ¬condition.Untriable)
    (subject : Value) : ∃ applies, (rule.applies subject).result = .ok applies := by
  cases settled : (rule.applies subject).result with
  | ok applies => exact ⟨applies, rfl⟩
  | error failure =>
    obtain ⟨before, condition, after, place, -, untriable, -⟩ :=
      ((rule.gated subject).fails failure).1 settled
    exact absurd untriable (triable condition (by simp [place]))

/-! ### Results -/

/-- A rule that does not apply does not pass. -/
theorem not_passed_of_unmet (unmet : (rule.applies subject).result ≠ .ok true)
    (came : rule.outcome subject = .ok r) : r.passed = false := by
  unfold outcome at came
  split at came
  · exact (parts_of_failed came).2.2
  · exact (parts_of_failed came).2.2
  · next weighs => exact (parts_of_skip weighs came).2.2
  · next applies _ => exact absurd applies unmet
  · next applies _ => exact absurd applies unmet

/-- A rule is skipped when it does not apply, as far as its weight can be read. -/
theorem skipped_iff (came : rule.outcome subject = .ok r) :
    r.skipped = true ↔
      (rule.applies subject).result = .ok false ∧ ∃ weight, rule.weight? = .ok weight := by
  unfold outcome at came
  split at came
  · next applies => simp [applies, (parts_of_failed came).2.1]
  · next weighs => simp [weighs, (parts_of_failed came).2.1]
  · next applies weighs => simp [applies, weighs, (parts_of_skip weighs came).2.1]
  · next applies _ => simp [applies, (parts_of_failed came).2.1]
  · next applies _ =>
    split at came
    · simp [applies, (parts_of_failed came).2.1]
    · simp [applies, (parts_of_compared came).2.1]

/-! ### Conditions in another order -/

/-- The same rule with its conditions in another order. -/
def Rearranged (rule rule' : Rule) : Prop :=
  ∃ conditions, rule.dependencies.Perm conditions ∧
    rule' = { rule with dependencies := conditions }

/-- One condition of a rule does not hold, and another cannot be tried. -/
def Torn (rule : Rule) (subject : Value) : Prop :=
  (∃ condition ∈ rule.dependencies, condition.Fails subject) ∧
    ∃ condition ∈ rule.dependencies, condition.Untriable

namespace Rearranged

theorem mem_iff (rearranged : rule.Rearranged rule') {condition : Condition} :
    condition ∈ rule'.dependencies ↔ condition ∈ rule.dependencies := by
  obtain ⟨conditions, perm, rfl⟩ := rearranged
  exact perm.mem_iff.symm

theorem ruleId (rearranged : rule.Rearranged rule') : rule'.ruleId = rule.ruleId := by
  obtain ⟨conditions, -, rfl⟩ := rearranged
  rfl

theorem weight? (rearranged : rule.Rearranged rule') : rule'.weight? = rule.weight? := by
  obtain ⟨conditions, -, rfl⟩ := rearranged
  rfl

theorem outcome_eq (rearranged : rule.Rearranged rule')
    (same : (rule'.applies subject).result = (rule.applies subject).result) :
    rule'.outcome subject = rule.outcome subject := by
  obtain ⟨conditions, -, rfl⟩ := rearranged
  unfold outcome
  rw [same]
  rfl

/-- Whether a rule applies does not depend on the order. -/
theorem applies_iff (rearranged : rule.Rearranged rule') :
    (rule'.applies subject).result = .ok true ↔ (rule.applies subject).result = .ok true := by
  rw [(rule'.gated subject).applies, (rule.gated subject).applies]
  exact forall_congr' fun condition => imp_congr_left rearranged.mem_iff

/-- Nor does the result, where every condition can be tried. -/
theorem outcome_eq_of_triable (rearranged : rule.Rearranged rule')
    (triable : ∀ condition ∈ rule.dependencies, ¬condition.Untriable) (subject : Value) :
    rule'.outcome subject = rule.outcome subject := by
  obtain ⟨applies, settled⟩ := exists_applies triable subject
  obtain ⟨applies', settled'⟩ :=
    exists_applies (fun condition member => triable condition (rearranged.mem_iff.1 member)) subject
  have same : (rule'.applies subject).result = _ ↔ _ := rearranged.applies_iff
  refine rearranged.outcome_eq ?_
  rw [settled, settled'] at same ⊢
  cases applies <;> cases applies' <;> simp_all

/-- A rule that applies comes to one result in any order, and one that does not never passes. -/
theorem passed_eq (rearranged : rule.Rearranged rule') (came : rule.outcome subject = .ok r)
    (came' : rule'.outcome subject = .ok r') :
    r'.passed = r.passed ∧ r'.contribution = r.contribution := by
  by_cases applies : (rule.applies subject).result = .ok true
  · have applies' := rearranged.applies_iff.2 applies
    rw [rearranged.outcome_eq (applies'.trans applies.symm), came] at came'
    obtain rfl := Except.ok.inj came'
    exact ⟨rfl, rfl⟩
  · have fails := not_passed_of_unmet applies came
    have fails' := not_passed_of_unmet (fun now => applies (rearranged.applies_iff.1 now)) came'
    rw [fails, fails', (consistent_of_outcome came).notPassed fails,
      (consistent_of_outcome came').notPassed fails']
    exact ⟨rfl, rfl⟩

theorem skipped_eq (rearranged : rule.Rearranged rule') (whole : ¬rule.Torn subject)
    (came : rule.outcome subject = .ok r) (came' : rule'.outcome subject = .ok r') :
    r'.skipped = r.skipped := by
  by_cases fails : ∃ condition ∈ rule.dependencies, condition.Fails subject
  · have triable : ∀ condition ∈ rule.dependencies, ¬condition.Untriable :=
      fun condition member untriable => whole ⟨fails, condition, member, untriable⟩
    rw [rearranged.outcome_eq_of_triable triable subject, came] at came'
    rw [Except.ok.inj came']
  · -- No condition of the rule can make it be skipped, wherever it stands.
    have kept {rule : Rule} {r : RuleResult} (came : rule.outcome subject = .ok r)
        (none : ¬∃ condition ∈ rule.dependencies, condition.Fails subject) :
        r.skipped = false := by
      rw [Bool.eq_false_iff]
      intro skipped
      obtain ⟨before, condition, after, place, -, failing⟩ :=
        (rule.gated subject).skips.1 ((skipped_iff came).1 skipped).1
      exact none ⟨condition, by simp [place], failing⟩
    rw [kept came fails, kept came']
    rintro ⟨condition, member, failing⟩
    exact fails ⟨condition, rearranged.mem_iff.1 member, failing⟩

end Rearranged

/-- Any condition of a rule can come first. -/
theorem exists_rearranged {condition : Condition} (member : condition ∈ rule.dependencies) :
    ∃ rule', rule.Rearranged rule' ∧ ∃ rest, rule'.dependencies = condition :: rest := by
  obtain ⟨before, after, place⟩ := List.append_of_mem member
  refine ⟨{ rule with dependencies := condition :: (before ++ after) }, ⟨_, ?_, rfl⟩, _, rfl⟩
  rw [place]
  exact List.perm_middle

theorem exists_outcome (named : rule.ruleId.IsText) (subject : Value) :
    ∃ r, rule.outcome subject = .ok r := by
  obtain ⟨r, came⟩ := rule.exists_checkClosed named subject
  exact ⟨r, result_checkClosed.symm.trans came⟩

/-- **What comes first decides a torn rule**: it is skipped in one order and fails in another. -/
theorem exists_orders_of_torn (named : rule.ruleId.IsText) (torn : rule.Torn subject)
    (weighs : ∃ weight, rule.weight? = .ok weight) :
    ∃ skipping failing s f, rule.Rearranged skipping ∧ rule.Rearranged failing ∧
      skipping.outcome subject = .ok s ∧ failing.outcome subject = .ok f ∧
      s.skipped = true ∧ f.skipped = false := by
  obtain ⟨⟨unmet, member, fails⟩, untried, member', untriable⟩ := torn
  obtain ⟨skipping, rearranged, rest, first⟩ := exists_rearranged member
  obtain ⟨failing, rearranged', rest', first'⟩ := exists_rearranged member'
  have skips : (skipping.applies subject).result = .ok false :=
    (skipping.gated subject).skips.2 ⟨[], unmet, rest, first, nofun, fails⟩
  have stops := ((failing.gated subject).fails _).2
    ⟨[], untried, rest', first', nofun, untriable, rfl⟩
  obtain ⟨s, came⟩ := exists_outcome (rearranged.ruleId ▸ named) subject
  obtain ⟨f, came'⟩ := exists_outcome (rearranged'.ruleId ▸ named) subject
  refine ⟨skipping, failing, s, f, rearranged, rearranged', came, came',
    (skipped_iff came).2 ⟨skips, rearranged.weight? ▸ weighs⟩,
    Bool.eq_false_iff.2 fun skipped => ?_⟩
  cases stops.symm.trans ((skipped_iff came').1 skipped).1

/-- **The conditions of a rule are a conjunction.**  Where all of them can be tried, the rule
applies exactly when they all hold, and their order makes no difference to its result.  Whatever
they are, a rule passes in any order or in none, with the same contribution; and it is skipped in
any order or in none unless it is torn, when both happen. -/
theorem applies_in_any_order (named : rule.ruleId.IsText) (subject : Value) :
    rule.Gated subject ∧
    ((∀ condition ∈ rule.dependencies, ¬condition.Untriable) →
      ∃ applies, (rule.applies subject).result = .ok applies) ∧
    (∀ rule', rule.Rearranged rule' → ∃ r r', (rule.checkClosed subject).result = .ok r ∧
      (rule'.checkClosed subject).result = .ok r' ∧
      r'.passed = r.passed ∧ r'.contribution = r.contribution ∧
      (¬rule.Torn subject → r'.skipped = r.skipped) ∧
      ((∀ condition ∈ rule.dependencies, ¬condition.Untriable) → r' = r)) ∧
    (rule.Torn subject → (∃ weight, rule.weight? = .ok weight) →
      ∃ skipping failing s f, rule.Rearranged skipping ∧ rule.Rearranged failing ∧
        (skipping.checkClosed subject).result = .ok s ∧
        (failing.checkClosed subject).result = .ok f ∧ s.skipped = true ∧ f.skipped = false) := by
  simp only [result_checkClosed]
  refine ⟨rule.gated subject, fun triable => exists_applies triable subject,
    fun rule' rearranged => ?_, exists_orders_of_torn named⟩
  obtain ⟨r, came⟩ := exists_outcome named subject
  obtain ⟨r', came'⟩ := exists_outcome (rearranged.ruleId ▸ named) subject
  obtain ⟨passed, contribution⟩ := rearranged.passed_eq came came'
  refine ⟨r, r', came, came', passed, contribution,
    fun whole => rearranged.skipped_eq whole came came', fun triable => ?_⟩
  rw [rearranged.outcome_eq_of_triable triable subject, came] at came'
  exact (Except.ok.inj came').symm

/-- A rule for holders of a card, with a condition on the age by an operator that is none. -/
def discount : Rule where
  ruleId := .text "discount"
  field := "age"
  operator := .text ">="
  expected := .int 18
  dependencies := [
    { field := "card", operator := .text "exists" },
    { field := "age", operator := .text "~", expected := .int 18 }]

/-- Someone without a card. -/
def stranger : Value := .map [(.text "age", .int 20)]

theorem torn_discount : discount.Torn stranger := by
  refine ⟨⟨_, List.mem_cons_self .., ?_⟩, _, List.mem_cons_of_mem _ (List.mem_cons_self ..), ?_⟩
  · show Condition.verdict? _ _ = _
    decide +kernel
  · show Operator.ofValue? _ = _
    decide +kernel

/-- The requirements can be met: the rule does not apply, it is skipped in one order and fails in
another, and it passes in neither. -/
theorem applies_in_any_order_discount :
    discount.ruleId.IsText ∧ discount.Torn stranger ∧
    (discount.applies stranger).result ≠ .ok true ∧
    ∃ skipping failing s f, discount.Rearranged skipping ∧ discount.Rearranged failing ∧
      (skipping.checkClosed stranger).result = .ok s ∧
      (failing.checkClosed stranger).result = .ok f ∧ s.skipped = true ∧ f.skipped = false ∧
      s.passed = false ∧ f.passed = false := by
  have named : discount.ruleId.IsText := ⟨_, rfl⟩
  have torn := torn_discount
  obtain ⟨gated, -, orders, differ⟩ := applies_in_any_order named stranger
  have unmet : (discount.applies stranger).result ≠ .ok true := by
    obtain ⟨⟨condition, member, fails⟩, -⟩ := torn
    exact fun applies => fails.not_holds (gated.applies.1 applies condition member)
  have never {rule : Rule} {r : RuleResult} (turned : discount.Rearranged rule)
      (came : (rule.checkClosed stranger).result = .ok r) : r.passed = false := by
    obtain ⟨_, _, own, came', passed, -⟩ := orders rule turned
    obtain rfl := Except.ok.inj (came.symm.trans came')
    rw [passed]
    exact not_passed_of_unmet unmet (result_checkClosed.symm.trans own)
  have weighed : discount.weight?.toOption.map (·.toOption.isSome) = some true := by decide +kernel
  obtain ⟨weight, weighs, -⟩ := exists_ok_of_toOption weighed
  obtain ⟨skipping, failing, s, f, turned, turned', came, came', skips, stays⟩ :=
    differ torn ⟨weight, weighs⟩
  exact ⟨named, torn, unmet, skipping, failing, s, f, turned, turned', came, came', skips, stays,
    never turned came, never turned' came'⟩

/-- **The order of conditions may show.**  In one order the rule is skipped, although a condition
cannot be tried, and its group passes; in the other the rule and its group fail. -/
theorem order_of_conditions_shows :
    let turned : Rule := { discount with dependencies := discount.dependencies.reverse }
    (∃ condition ∈ discount.dependencies, condition.Untriable) ∧
    (discount.applies stranger).result = .ok false ∧ discount.Rearranged turned ∧
    ∃ r r' g g', (discount.checkClosed stranger).result = .ok r ∧
      (turned.checkClosed stranger).result = .ok r' ∧
      r.skipped = true ∧ r'.skipped = false ∧ r'.error = some "Unknown operator: ~" ∧
      (Group.evaluate { groupId := .text "g", rules := [discount] } stranger).result = .ok g ∧
      (Group.evaluate { groupId := .text "g", rules := [turned] } stranger).result = .ok g' ∧
      g.passed = true ∧ g'.passed = false := by
  intro turned
  have unmet : (discount.applies stranger).result.toOption = some false := by decide +kernel
  have skips : (discount.checkClosed stranger).result.toOption.map (·.skipped) = some true := by
    decide +kernel
  have fails : (turned.checkClosed stranger).result.toOption.map (fun r => (r.skipped, r.error)) =
      some (false, some "Unknown operator: ~") := by
    decide +kernel
  have passes : (Group.evaluate { groupId := .text "g", rules := [discount] }
      stranger).result.toOption.map (·.passed) = some true := by
    decide +kernel
  have fails' : (Group.evaluate { groupId := .text "g", rules := [turned] }
      stranger).result.toOption.map (·.passed) = some false := by
    decide +kernel
  obtain ⟨r, came, skipped⟩ := exists_ok_of_toOption skips
  obtain ⟨r', came', parts⟩ := exists_ok_of_toOption fails
  obtain ⟨kept, error⟩ := Prod.mk.inj parts
  obtain ⟨g, group, passed⟩ := exists_ok_of_toOption passes
  obtain ⟨g', group', failed⟩ := exists_ok_of_toOption fails'
  exact ⟨torn_discount.2, ok_of_toOption unmet, ⟨_, (List.reverse_perm _).symm, rfl⟩, r, r', g, g',
    came, came', skipped, kept, error, group, group', passed, failed⟩

end Rule
end Eligibility
