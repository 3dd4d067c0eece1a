/-
# Scores lie between nothing and a hundred

The weight that passed is rounded at every addition, and so is the whole weight; since rounding
keeps order, the part never comes to more than the whole (`Score.earned_le_weighed`).  The share is
then at most that of the whole in itself, which is a hundred after all three roundings
(`Score.percentage_self`).  It is a hundred when all passes, and nothing when no weight passes
(`Score.in_range`).

Where every weight is one, the sums count the results, and the share of the weight is the share of
the rules.  A sum of ones stands still at `2 ^ 53` (`Score.total_replicate_one`), so by weight no
more results than that are told apart.
-/

import Eligibility.Proofs.Criteria.Outcome
import Eligibility.Proofs.Score.Unrounded

namespace Eligibility

open Double (zero)

namespace Double

theorem exact_unit : Exact unit := by decide +kernel

instance (x : Double) : Decidable x.IsWeight := inferInstanceAs (Decidable (_ ∧ _))

/-- One. -/
def one : Double := .finite false unit exact_unit

/-- A number of units over itself is one. -/
theorem ofUnits_self {n : Nat} (pos : 0 < n) : ofUnits false (unit * n) n = one :=
  ofUnits_eq_finite (nearest_of_exact pos exact_unit) exact_unit false

/-! ### Whole numbers -/

theorem exact_unit_mul {n : Nat} (few : n ≤ twoTo 53) : Exact (unit * n) := by
  have top : unit * twoTo 53 < limit := by decide +kernel
  refine ⟨?_, Nat.lt_of_le_of_lt (Nat.mul_le_mul_left unit few) top⟩
  rw [Nat.mul_comm]
  exact mod_step_of_le few

/-- A whole number up to `2 ^ 53` is held as it is. -/
theorem ofNat_eq_finite {n : Nat} (few : n ≤ twoTo 53) :
    ofNat n = .finite false (unit * n) (exact_unit_mul few) := by
  have positive : decide ((n : Int) < 0) = false := decide_eq_false (by omega)
  rw [ofNat, ofInt, positive, Int.natAbs_natCast]
  exact ofUnits_of_exact (exact_unit_mul few) false

theorem div_of_ne_zero {m n : Nat} (held : Exact m) (held' : Exact n) (some : n ≠ 0) :
    finite false m held / finite false n held' = ofUnits false (unit * m) n :=
  if_neg some

theorem ofNat_div_ofNat {m n : Nat} (few : m ≤ twoTo 53) (few' : n ≤ twoTo 53) (some : n ≠ 0) :
    ofNat m / ofNat n = ratio m n := by
  rw [ofNat_eq_finite few, ofNat_eq_finite few',
    div_of_ne_zero _ _ (Nat.mul_ne_zero unit_pos.ne' some)]
  exact ofUnits_congr false (nearest_mul_mul unit_pos _ _)

theorem ofNat_le_zero {n : Nat} (few : n ≤ twoTo 53) : (ofNat n).le zero = true ↔ n = 0 := by
  rw [ofNat_eq_finite few]
  show decide (((unit * n : Nat) : Int) ≤ 0) = true ↔ n = 0
  rw [decide_eq_true_eq, Int.natCast_nonpos_iff, Nat.mul_eq_zero]
  exact or_iff_right unit_pos.ne'

/-! ### Sums -/

theorem rounded_of_rank {x : Double} {n : Nat} (worth : x.rank = some (n : Int)) :
    rounded n 1 = n := by
  rcases rank_cases worth with ⟨_, exact, -, -⟩ | ⟨-, top⟩
  · exact rounded_of_exact exact
  · have large : limit ≤ n / 1 := by
      rw [Nat.div_one]
      exact top.ge
    exact (Nat.min_eq_right (limit_le_nearest large)).trans top.symm

/-- A sum is at least each of its two numbers. -/
theorem le_add {x y : Double} (nonneg : zero.le x) (nonneg' : zero.le y) :
    x.le (x + y) ∧ y.le (x + y) := by
  obtain ⟨m, hx⟩ := nonneg_iff.1 nonneg
  obtain ⟨n, hy⟩ := nonneg_iff.1 nonneg'
  have sum := rank_add hx hy
  refine ⟨le_iff.2 ⟨_, _, hx, sum, Int.ofNat_le.2 ?_⟩, le_iff.2 ⟨_, _, hy, sum, Int.ofNat_le.2 ?_⟩⟩
  · calc m = rounded m 1 := (rounded_of_rank hx).symm
      _ ≤ rounded (m + n) 1 := rounded_mono (Nat.le_add_right m n) 1
  · calc n = rounded n 1 := (rounded_of_rank hy).symm
      _ ≤ rounded (m + n) 1 := rounded_mono (Nat.le_add_left n m) 1

theorem ofNat_add_one {n : Nat} (few : n < twoTo 53) : ofNat n + one = ofNat (n + 1) := by
  have weight : one.IsWeight := ⟨by decide +kernel, rfl⟩
  have next : unit * (n + 1) = unit * n + one.units := Nat.mul_succ unit n
  have exact := exact_unit_mul (show n + 1 ≤ twoTo 53 from few)
  rw [next] at exact
  rw [ofNat_eq_finite few.le, add_of_exact _ weight exact, ofNat_eq_finite few]
  simp only [next]

theorem rank_of_not_positive {x : Double} (nonneg : zero.le x) (none : zero.lt x = false) :
    x.rank = some 0 := by
  obtain ⟨n, worth⟩ := nonneg_iff.1 nonneg
  have few : ¬(0 : Int) < n := by
    have above := none
    rw [lt, worth] at above
    exact of_decide_eq_false above
  rw [worth, show (n : Int) = 0 by omega]

/-- Nothing, of either sign, adds nothing. -/
theorem zero_add_of_rank {x : Double} (nothing : x.rank = some 0) : zero + x = zero := by
  rcases rank_cases (n := 0) nothing with ⟨negative, _, rfl, -⟩ | ⟨-, none⟩
  · cases negative <;> rfl
  · exact absurd none limit_pos.ne

end Double

namespace Score

/-! ### Sums -/

theorem le_foldl_add {s : Double} {weights : List Double} (nonneg : zero.le s)
    (each : ∀ w ∈ weights, zero.le w) : s.le (weights.foldl (· + ·) s) := by
  induction weights generalizing s with
  | nil => exact Double.le_refl_of_nonneg nonneg
  | cons w rest ih =>
    obtain ⟨first, others⟩ := List.forall_mem_cons.1 each
    exact Double.le_trans (Double.le_add nonneg first).1
      (ih (Double.add_nonneg nonneg first) others)

/-- **A sum is at least each of its numbers.** -/
theorem le_total {weights : List Double} (each : ∀ w ∈ weights, zero.le w) {w : Double}
    (member : w ∈ weights) : w.le (total weights) := by
  obtain ⟨front, back, rfl⟩ := List.append_of_mem member
  simp only [List.forall_mem_append, List.forall_mem_cons] at each
  obtain ⟨before, own, after⟩ := each
  rw [total, List.foldl_append, List.foldl_cons, ← total]
  have start := total_nonneg before
  exact Double.le_trans (Double.le_add start own).2
    (le_foldl_add (Double.add_nonneg start own) after)

theorem total_of_nothing {weights : List Double} (each : ∀ w ∈ weights, w.rank = some 0) :
    total weights = zero := by
  unfold total
  induction weights with
  | nil => rfl
  | cons w rest ih =>
    obtain ⟨first, others⟩ := List.forall_mem_cons.1 each
    rw [List.foldl_cons, Double.zero_add_of_rank first, ih others]

/-- A sum of ones counts them, until it stands still. -/
theorem total_replicate_one (n : Nat) :
    total (List.replicate n .one) = .ofNat (min n (Double.twoTo 53)) := by
  induction n with
  | zero => decide +kernel
  | succ n ih =>
    rw [List.replicate_succ', total, List.foldl_append, ← total, ih]
    show Double.ofNat (min n (Double.twoTo 53)) + .one = _
    rcases Nat.lt_or_ge n (Double.twoTo 53) with few | many
    · rw [Nat.min_eq_left few.le, Nat.min_eq_left (Nat.succ_le_of_lt few),
        Double.ofNat_add_one few]
    · have still : Double.ofNat (Double.twoTo 53) + .one = .ofNat (Double.twoTo 53) := by
        decide +kernel
      rw [Nat.min_eq_right many, Nat.min_eq_right (Nat.le_succ_of_le many), still]

/-! ### Percentages -/

theorem percent_one : percent .one = .hundred := by decide +kernel

/-- A number that is finite and more than nothing. -/
theorem eq_finite_of_positive {x : Double} (nonneg : zero.le x) (finite : x.isFinite)
    (some : x.le zero = false) : ∃ n exact, n ≠ 0 ∧ x = .finite false n exact := by
  obtain ⟨n, worth⟩ := Double.nonneg_iff.1 nonneg
  rcases Double.rank_cases worth with ⟨negative, exact, rfl, sign⟩ | ⟨rfl, -⟩
  · have nonzero : n ≠ 0 := by
      rintro none
      rw [Double.le, worth, none] at some
      cases some
    have positive : negative = false := Bool.eq_false_iff.2 fun minus => nonzero (sign minus)
    subst positive
    exact ⟨n, exact, nonzero, rfl⟩
  · cases finite

theorem percentage_self {whole : Double} (nonneg : zero.le whole) (finite : whole.isFinite)
    (some : whole.le zero = false) : percentage whole whole = .hundred := by
  obtain ⟨n, exact, nonzero, rfl⟩ := eq_finite_of_positive nonneg finite some
  rw [percentage, Double.div_of_ne_zero exact exact nonzero,
    Double.ofUnits_self (Nat.pos_of_ne_zero nonzero), percent_one]

theorem percentage_zero {whole : Double} (nonneg : zero.le whole) (finite : whole.isFinite)
    (some : whole.le zero = false) : percentage zero whole = zero := by
  obtain ⟨n, exact, nonzero, rfl⟩ := eq_finite_of_positive nonneg finite some
  have none : Double.ofUnits false (Double.unit * 0) n = zero :=
    Double.ofUnits_eq_finite (Double.nearest_eq_zero (by omega)) Double.exact_zero false
  have quotient : zero / .finite false n exact = zero :=
    (Double.div_of_ne_zero Double.exact_zero exact nonzero).trans none
  have percent : percent zero = zero := by decide +kernel
  rw [percentage, quotient, percent]

theorem share_self {counted : Nat} (pos : 0 < counted) : share counted counted = .hundred := by
  rw [share, if_neg pos.ne', Double.ratio, Double.ofUnits_self pos, percent_one]

/-- A share is a percentage. -/
theorem share_bounds {passed counted : Nat} (le : passed ≤ counted) :
    Ordered (share passed counted) .hundred := by
  rcases Nat.eq_zero_or_pos counted with rfl | pos
  · exact ⟨Double.zero_le_zero, zero_le_hundred⟩
  · rw [← share_self pos]
    exact share_le le counted

/-! ### Scores -/

/-- What is earned is at most what is weighed. -/
theorem earned_le_weighed {results : List RuleResult} (weights : ∀ r ∈ results, zero.le r.weight) :
    Ordered (total (results.map (·.earned))) (total (results.map (·.weighed))) := by
  refine total_le (List.forall₂_map_left_iff.2 (List.forall₂_map_right_iff.2 ?_))
  refine List.forall₂_same.2 fun r member => ?_
  have nonneg := weights r member
  unfold RuleResult.earned RuleResult.weighed
  cases r.isEffective <;> cases r.passed <;>
    simp [Ordered, Double.zero_le_zero, nonneg, Double.le_refl_of_nonneg nonneg]

variable {results : List RuleResult}

theorem weighted_bounds (weights : ∀ r ∈ results, zero.le r.weight)
    (finite : (total ((effective results).map (·.weight))).isFinite) :
    Ordered (weighted results) .hundred := by
  have ordered := earned_le_weighed weights
  rw [← total_effective, ← total_passed] at ordered
  unfold weighted
  dsimp only
  split
  · exact ⟨Double.zero_le_zero, zero_le_hundred⟩
  · next some =>
    have positive := Bool.eq_false_iff.2 some
    have nonneg := Double.le_trans ordered.1 ordered.2
    rw [← percentage_self nonneg finite positive]
    exact percentage_le ordered nonneg finite positive

theorem passFail_bounds (results : List RuleResult) : Ordered (passFail results) .hundred := by
  rcases passFail_cases results with full | none
  · rw [full]
    exact ⟨zero_le_hundred, by decide +kernel⟩
  · rw [none]
    exact ⟨Double.zero_le_zero, zero_le_hundred⟩

theorem average_bounds (results : List RuleResult) : Ordered (average results) .hundred :=
  share_bounds List.countP_le_length

/-- The weights that count are not negative. -/
theorem nonneg_of_mem_effective (weights : ∀ r ∈ results, zero.le r.weight) :
    ∀ w ∈ (effective results).map (·.weight), zero.le w := by
  intro w member
  obtain ⟨r, inside, rfl⟩ := List.mem_map.1 member
  exact weights r (List.mem_of_mem_filter inside)

theorem weighted_eq_hundred (weights : ∀ r ∈ results, zero.le r.weight)
    (finite : (total ((effective results).map (·.weight))).isFinite)
    (all : ∀ r ∈ effective results, r.passed = true)
    (some : ∃ r ∈ effective results, zero.lt r.weight = true) : weighted results = .hundred := by
  obtain ⟨r, inside, positive⟩ := some
  have nonneg := nonneg_of_mem_effective weights
  have least : r.weight.le (total ((effective results).map (·.weight))) :=
    le_total nonneg (List.mem_map.2 ⟨r, inside, rfl⟩)
  have notNone : (total ((effective results).map (·.weight))).le zero = false := by
    refine Bool.eq_false_iff.2 fun none => ?_
    have below := Double.le_trans least none
    rw [Double.le_eq_not_lt (Double.ne_nan_of_le below).2 (Double.ne_nan_of_le below).1,
      positive] at below
    cases below
  have passed : (effective results).filter (·.passed) = effective results :=
    List.filter_eq_self.2 all
  rw [weighted, passed, if_neg (Bool.eq_false_iff.1 notNone),
    percentage_self (total_nonneg nonneg) finite notNone]

theorem weighted_eq_zero (weights : ∀ r ∈ results, zero.le r.weight)
    (finite : (total ((effective results).map (·.weight))).isFinite)
    (none : ∀ r ∈ effective results, r.passed = true → zero.lt r.weight = false) :
    weighted results = zero := by
  have nothing : total (((effective results).filter (·.passed)).map (·.weight)) = zero := by
    refine total_of_nothing fun w member => ?_
    obtain ⟨r, inside, rfl⟩ := List.mem_map.1 member
    obtain ⟨counts, passed⟩ := List.mem_filter.1 inside
    exact Double.rank_of_not_positive (weights r (List.mem_of_mem_filter counts))
      (none r counts passed)
  rw [weighted]
  split
  · rfl
  · next some =>
    rw [nothing, percentage_zero (total_nonneg (nonneg_of_mem_effective weights)) finite
      (Bool.eq_false_iff.2 some)]

/-- Where every weight is one, what counts is the number of results, as far as a sum of ones
goes. -/
theorem weighted_of_ones (ones : ∀ r ∈ effective results, r.weight = .one) :
    weighted results = share (min (passedCount results) (Double.twoTo 53))
      (min (effective results).length (Double.twoTo 53)) := by
  have counted : (effective results).map (·.weight) =
      List.replicate (effective results).length .one := by
    refine List.eq_replicate_iff.2 ⟨List.length_map _, fun w member => ?_⟩
    obtain ⟨r, inside, rfl⟩ := List.mem_map.1 member
    exact ones r inside
  have passed : ((effective results).filter (·.passed)).map (·.weight) =
      List.replicate (passedCount results) .one := by
    refine List.eq_replicate_iff.2 ⟨?_, fun w member => ?_⟩
    · rw [List.length_map, passedCount, List.countP_eq_length_filter]
    · obtain ⟨r, inside, rfl⟩ := List.mem_map.1 member
      exact ones r (List.mem_of_mem_filter inside)
  rw [weighted, counted, passed, total_replicate_one, total_replicate_one, share]
  have few := Nat.min_le_right (effective results).length (Double.twoTo 53)
  generalize min (effective results).length (Double.twoTo 53) = n at few ⊢
  by_cases none : n = 0
  · rw [if_pos ((Double.ofNat_le_zero few).2 none), if_pos none]
  · have positive : ¬(Double.ofNat n).le zero = true := by
      rw [Double.ofNat_le_zero few]
      exact none
    rw [if_neg positive, if_neg none, percentage,
      Double.ofNat_div_ofNat (Nat.min_le_right _ _) few none]

/-- The score of a group is the share of its rules that passed. -/
theorem group_score {group : Group} {subject : Value} {g : GroupResult}
    (came : (group.evaluate subject).result = .ok g) : g.score = average g.results :=
  (Group.reports_of_evaluate came).2.score

/-- **Scores lie between nothing and a hundred**, where the weights are finite, not negative and of
a finite sum.  The weighted score is a hundred when everything passes and something has weight, and
nothing when no weight passes.  Where every weight is one, it is the share of the rules, of which a
sum of ones counts `2 ^ 53`: up to that many results, it is the average.  The score of a group is
the average of its results, in the same range, and groups whose rules are named have one. -/
theorem in_range {results : List RuleResult} (weights : ∀ r ∈ results, r.weight.IsWeight)
    (finite : (total ((effective results).map (·.weight))).isFinite) :
    (∀ method : ScoringMethod, method ≠ .sum →
      zero.le (method.score results) ∧ (method.score results).le .hundred) ∧
    ((∀ r ∈ effective results, r.passed = true) →
      (∃ r ∈ effective results, zero.lt r.weight = true) → weighted results = .hundred) ∧
    ((∀ r ∈ effective results, r.passed = true → zero.lt r.weight = false) →
      weighted results = zero) ∧
    ((∀ r ∈ effective results, r.weight = .one) →
      weighted results = share (min (passedCount results) (Double.twoTo 53))
        (min (effective results).length (Double.twoTo 53)) ∧
      ((effective results).length ≤ Double.twoTo 53 → weighted results = average results)) ∧
    ∀ (group : Group) (subject : Value),
      (∀ g, (group.evaluate subject).result = .ok g → g.score = average g.results ∧
        zero.le g.score ∧ g.score.le .hundred) ∧
      (group.groupId.IsText → (∀ rule ∈ group.activeRules, rule.ruleId.IsText) →
        ∃ g, (group.evaluate subject).result = .ok g) := by
  have nonneg : ∀ r ∈ results, zero.le r.weight := fun r member => (weights r member).1
  refine ⟨?_, weighted_eq_hundred nonneg finite, weighted_eq_zero nonneg finite, ?_, ?_⟩
  · intro method bounded
    cases method with
    | weighted => exact weighted_bounds nonneg finite
    | passFail => exact passFail_bounds results
    | sum => exact absurd rfl bounded
    | average => exact average_bounds results
  · intro ones
    have shares := weighted_of_ones ones
    refine ⟨shares, fun few => ?_⟩
    have passedFew : passedCount results ≤ Double.twoTo 53 := List.countP_le_length.trans few
    rw [shares, Nat.min_eq_left few, Nat.min_eq_left passedFew, average]
  · intro group subject
    refine ⟨fun g came => ?_, fun named rules => group.exists_evaluate named rules subject⟩
    rw [group_score came]
    exact ⟨rfl, average_bounds g.results⟩

/-- A rule's outcome that counts, with so many tenths of weight. -/
def tenths (weight : Nat) (passed : Bool) : RuleResult where
  ruleId := "adult"
  field := "age"
  operator := ">="
  passed := passed
  weight := .ofDecimal false weight (-1)

/-- A group of one rule. -/
def adults : Group where
  groupId := .text "adults"
  rules := [{
    ruleId := .text "adult", field := "age", operator := .text ">=", expected := .int 18 }]

/-- A tenth and two tenths that pass, next to a skipped half, score a hundred; where what passes has
no weight, the score is nothing; and of three ones the one that passes is the same share by weight
as by count.  A group of one rule is scored by its result. -/
theorem in_range_tenths :
    let passing := [tenths 1 true, { tenths 5 false with skipped := true }, tenths 2 true]
    let failing := [tenths 0 true, tenths 3 false]
    let ones := [tenths 10 true, tenths 10 false, tenths 10 false]
    weighted passing = .hundred ∧ (weighted failing = zero ∧ (average failing).le .hundred) ∧
      (weighted ones = average ones ∧ zero.le (weighted ones) ∧ (weighted ones).le .hundred) ∧
      ∃ g, (adults.evaluate (.map [(.text "age", .int 20)])).result = .ok g ∧
        g.score = average g.results ∧ g.score.le .hundred := by
  intro passing failing ones
  obtain ⟨-, full, -, -, groups⟩ := @in_range passing (by decide +kernel) (by decide +kernel)
  obtain ⟨bounds, -, empty, -, -⟩ := @in_range failing (by decide +kernel) (by decide +kernel)
  obtain ⟨bounds', -, -, counted, -⟩ := @in_range ones (by decide +kernel) (by decide +kernel)
  obtain ⟨scores, exist⟩ := groups adults (.map [(.text "age", .int 20)])
  refine ⟨full (by decide +kernel) (by decide +kernel), ⟨empty (by decide +kernel), ?_⟩,
    ⟨(counted (by decide +kernel)).2 (by decide +kernel), bounds' .weighted (by decide)⟩, ?_⟩
  · exact (bounds .average (by decide)).2
  · obtain ⟨g, came⟩ := exist ⟨_, rfl⟩ fun rule member => by
      obtain rfl := List.mem_singleton.1 member
      exact ⟨_, rfl⟩
    obtain ⟨score, -, bound⟩ := scores g came
    exact ⟨g, came, score, bound⟩

end Score
end Eligibility
