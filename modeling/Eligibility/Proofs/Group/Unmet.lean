/-
# Rules whose conditions do not hold

A rule whose conditions do not hold is skipped, and its group counts and scores as if the rule were
not there (`Group.unmet_not_counted`).  No operator and no expected value gets in the way, and no
weight that is negative, infinite or no number.

But the skipped result reports the weight.  A number that has no double (`Value.Undoubled`) cannot
be reported, and the failure to do so is taken for one of the rule, which its group then counts
(`Group.unmet_counted`).
-/

import Eligibility.Proofs.Criteria.Magnitude
import Eligibility.Proofs.Criteria.Trace
import Eligibility.Proofs.Rule.Conditions

namespace Eligibility

open Double (zero)

/-! ### Numbers without a double -/

/-- A number that has no double: an integer too large for one, or a signaling NaN. -/
def Value.Undoubled (v : Value) : Prop := v.Oversized ∨ v.isSignaling = true

theorem Value.undoubled_iff {v : Value} : v.Undoubled ↔ ∃ fault, v.number? = .error fault := by
  unfold Undoubled
  cases v with
  | int n =>
    rw [oversized_int, number?]
    rcases Double.ofInt?_cases n with ⟨large, came⟩ | ⟨small, came⟩
    · rw [came]
      exact ⟨fun _ => ⟨_, rfl⟩, fun _ => .inl large⟩
    · rw [came]
      refine ⟨?_, nofun⟩
      rintro (large | ⟨⟨⟩⟩)
      exact absurd large (Nat.not_le_of_lt small)
  | decimal d =>
    cases d with
    | nan negative signaling payload =>
      cases signaling with
      | true => exact ⟨fun _ => ⟨.signalingNaN, rfl⟩, fun _ => .inr rfl⟩
      | false => exact iff_of_false (by rintro (⟨_, ⟨⟩, -⟩ | ⟨⟨⟩⟩)) (by rintro ⟨_, ⟨⟩⟩)
    | finite | infinite => exact iff_of_false (by rintro (⟨_, ⟨⟩, -⟩ | ⟨⟨⟩⟩)) (by rintro ⟨_, ⟨⟩⟩)
  -- No other value is a number that could lack a double.
  | _ => exact iff_of_false (by rintro (⟨_, ⟨⟩, -⟩ | ⟨⟨⟩⟩)) (by rintro ⟨_, ⟨⟩⟩)

namespace Rule

variable {rule : Rule} {subject : Value} {r : RuleResult}

/-- The weight of a rule can be read unless it is a number without a double. -/
theorem weight?_eq_error {failure : Failure} : rule.weight? = .error failure ↔
    ∃ fault, rule.weight.number? = .error fault ∧ failure = .number fault := by
  unfold weight?
  split
  · next found => simp [found, eq_comm]
  · next found => simp [found]
  · next found => simp [found]

theorem exists_weight_iff :
    (∃ weight, rule.weight? = .ok weight) ↔ ¬rule.weight.Undoubled := by
  rw [Value.undoubled_iff]
  cases weighs : rule.weight? with
  | ok weight =>
    refine ⟨?_, fun _ => ⟨weight, rfl⟩⟩
    rintro - ⟨fault, found⟩
    cases (weight?_eq_error.2 ⟨fault, found, rfl⟩).symm.trans weighs
  | error failure =>
    obtain ⟨fault, found, -⟩ := weight?_eq_error.1 weighs
    constructor
    · rintro ⟨weight, read⟩
      cases read
    · intro readable
      exact absurd ⟨fault, found⟩ readable

/-! ### The result of a rule whose conditions do not hold -/

/-- The result of a rule that was left out.  Nothing has been compared, and the reason is given. -/
structure Idle (rule : Rule) (r : RuleResult) : Prop where
  skipped : r.skipped = true
  passed : r.passed = false
  contribution : r.contribution = zero
  reason : r.reason = some "Dependency not met"
  error : r.error = none
  actual : r.actual = .null
  weight : r.weight = rule.ownWeight?.getD zero

theorem idle_of_unmet (unmet : (rule.applies subject).result = .ok false)
    (readable : ¬rule.weight.Undoubled) (came : rule.outcome subject = .ok r) : rule.Idle r := by
  obtain ⟨weight, weighs⟩ := exists_weight_iff.2 readable
  have skips : rule.skip = .ok r := by
    rw [outcome, unmet, weighs] at came
    exact came
  obtain ⟨own, skipped, passed⟩ := parts_of_skip weighs skips
  obtain ⟨_, -, rest⟩ := bind_eq_ok.1 skips
  obtain ⟨ruleId, -, same⟩ := bind_eq_ok.1 rest
  obtain rfl := Except.ok.inj same
  refine ⟨skipped, passed, rfl, rfl, rfl, rfl, own.trans ?_⟩
  rw [ownWeight?, weighs]
  cases weight with
  | ok weight => rfl
  | error fault => rfl

/-- A weight without a double fails the rule, whether it applies or not. -/
theorem failed_of_undoubled (unmet : (rule.applies subject).result = .ok false)
    (undoubled : rule.weight.Undoubled) (came : rule.outcome subject = .ok r) :
    r.skipped = false ∧ r.passed = false ∧
      ∃ fault, rule.weight.number? = .error fault ∧ r.error = some fault.message := by
  obtain ⟨fault, found⟩ := Value.undoubled_iff.1 undoubled
  rw [outcome, unmet, weight?_eq_error.2 ⟨fault, found, rfl⟩] at came
  obtain ⟨ruleId, -, same⟩ := bind_eq_ok.1 (show rule.failed .null fault.message = .ok r from came)
  obtain rfl := Except.ok.inj same
  exact ⟨rfl, rfl, fault, found, rfl⟩

end Rule

/-! ### Its group -/

namespace Group

variable {group : Group} {subject : Value} {rules later : List Rule} {rule : Rule}

/-- **A rule whose conditions do not hold does not count.**  Its group has one result for it, in its
place, which says that it was skipped, and is otherwise what it would be without the rule; so is any
score.  This holds of all weights but numbers without a double.  With one of these the rule fails,
and its group counts it as a rule that did not pass. -/
theorem unmet_not_counted (inside : group.rules = rules ++ rule :: later)
    (active : rule.isActive = true) (named : group.groupId.IsText)
    (ruleIds : ∀ rule ∈ group.activeRules, rule.ruleId.IsText)
    (unmet : (rule.applies subject).result = .ok false) :
    ∃ g first own last, (group.evaluate subject).result = .ok g ∧
      g.results = first ++ own :: last ∧
      List.Forall₂ (Rule.Traced subject) (rules.filter (·.isActive)) first ∧
      Rule.Traced subject rule own ∧
      List.Forall₂ (Rule.Traced subject) (later.filter (·.isActive)) last ∧
      (¬rule.weight.Undoubled → rule.Idle own ∧
        ({ group with rules := rules ++ later }.evaluate subject).result =
          .ok { g with results := first ++ last } ∧
        ∀ (method : ScoringMethod) before after, method.score (before ++ g.results ++ after) =
          method.score (before ++ (first ++ last) ++ after)) ∧
      (rule.weight.Undoubled → own.skipped = false ∧ own.passed = false ∧
        (∃ fault, rule.weight.number? = .error fault ∧ own.error = some fault.message) ∧
        g.effectiveCount = (first ++ last).countP (!·.skipped) + 1) := by
  obtain ⟨g, came⟩ := group.exists_evaluate named ruleIds subject
  obtain ⟨first, own, last, listed, start, checked, more, fewer⟩ :=
    evaluate_of_skipped inside active came
  have outcome : rule.outcome subject = .ok own := Rule.result_checkClosed.symm.trans checked
  refine ⟨g, first, own, last, came, listed, start.traced,
    ⟨checked, Rule.labels_of_outcome outcome⟩, more.traced, fun readable => ?idle,
    fun undoubled => ?counted⟩
  case idle =>
    have idle := Rule.idle_of_unmet unmet readable outcome
    refine ⟨idle, fewer idle.skipped, fun method before after => method.score_congr ?_⟩
    rw [listed, effective_append, effective_append (before ++ _), effective_append before,
      effective_skipped idle.skipped, ← effective_append before, ← effective_append]
  case counted =>
    obtain ⟨kept, fails, error⟩ := Rule.failed_of_undoubled unmet undoubled outcome
    refine ⟨kept, fails, error, ?_⟩
    rw [(counted_of_evaluate came).effective, listed]
    simp [List.countP_append, kept]
    omega

/-- A bonus for those who have a job. -/
def bonus (weight : Value) : Rule where
  ruleId := .text "bonus"
  field := "bonus"
  operator := .text ">"
  expected := .int 0
  weight := weight
  dependencies := [{ field := "employed", operator := .text "==", expected := .bool true }]

/-- The bonus alone. -/
def bonuses (weight : Value) : Group := { groupId := .text "bonuses", rules := [bonus weight] }

/-- Someone without a job. -/
def seeker : Value := .map [(.text "employed", .bool false), (.text "bonus", .int 100)]

theorem unmet_bonus (weight : Value) : ((bonus weight).applies seeker).result = .ok false := by
  have none : ((bonus (.int 1)).applies seeker).result.toOption = some false := by decide +kernel
  exact ok_of_toOption none

/-- The requirements can be met: a bonus with a weight that is none does not count, and one with a
weight that has no double does. -/
theorem unmet_not_counted_bonus :
    (∃ g own, ((bonuses (.int (-1))).evaluate seeker).result = .ok g ∧ g.results = [own] ∧
      (bonus (.int (-1))).Idle own ∧
      (({ groupId := .text "bonuses", rules := [] } : Group).evaluate seeker).result =
        .ok { g with results := [] }) ∧
    ∃ g own, ((bonuses (.int (10 ^ 400))).evaluate seeker).result = .ok g ∧ g.results = [own] ∧
      own.skipped = false ∧ g.effectiveCount = 1 := by
  have ruleIds (weight : Value) : ∀ rule ∈ (bonuses weight).activeRules, rule.ruleId.IsText := by
    intro rule member
    obtain rfl := List.mem_singleton.1 member
    exact ⟨_, rfl⟩
  have inside (weight : Value) : (bonuses weight).rules = [] ++ bonus weight :: [] := rfl
  constructor
  · obtain ⟨g, first, own, last, came, listed, ⟨⟩, -, ⟨⟩, idle, -⟩ :=
      unmet_not_counted (inside (.int (-1))) rfl ⟨_, rfl⟩ (ruleIds _) (unmet_bonus _)
    have readable : ¬Value.Undoubled (.int (-1)) := by
      rintro (large | ⟨⟨⟩⟩)
      exact absurd (Value.oversized_int.1 large) (by decide +kernel)
    obtain ⟨skipped, without, -⟩ := idle readable
    exact ⟨g, own, came, listed, skipped, without⟩
  · obtain ⟨g, first, own, last, came, listed, ⟨⟩, -, ⟨⟩, -, counted⟩ :=
      unmet_not_counted (inside (.int (10 ^ 400))) rfl ⟨_, rfl⟩ (ruleIds _) (unmet_bonus _)
    obtain ⟨kept, -, -, count⟩ := counted (.inl Criteria.oversized_vast)
    exact ⟨g, own, came, listed, kept, count⟩

/-- **A rule whose conditions do not hold may count.**  Its weight has no double, so it is not
skipped but fails, and its group fails with it. -/
theorem unmet_counted :
    ((bonus (.int (10 ^ 400))).applies seeker).result = .ok false ∧
    ∃ g own, ((bonuses (.int (10 ^ 400))).evaluate seeker).result = .ok g ∧ g.results = [own] ∧
      own.skipped = false ∧ own.error = some "int too large to convert to float" ∧
      g.effectiveCount = 1 ∧ g.passed = false := by
  have comes : ((bonuses (.int (10 ^ 400))).evaluate seeker).result.toOption.map (fun g =>
      (g.results.map fun r => (r.skipped, r.error), g.effectiveCount, g.passed)) =
      some ([(false, some "int too large to convert to float")], 1, false) := by
    decide +kernel
  obtain ⟨g, came, parts⟩ := exists_ok_of_toOption comes
  obtain ⟨results, rest⟩ := Prod.mk.inj parts
  obtain ⟨count, fails⟩ := Prod.mk.inj rest
  obtain ⟨own, listed, own_parts⟩ := List.map_eq_singleton_iff.1 results
  obtain ⟨kept, error⟩ := Prod.mk.inj own_parts
  exact ⟨unmet_bonus _, g, own, came, listed, kept, error, count, fails⟩

end Group
end Eligibility
