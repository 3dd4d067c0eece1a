/-
# Numbers of any magnitude

An integer has a double unless it is at least `2 ^ 1024 - 2 ^ 970` away from zero
(`Double.ofInt?_cases`).  No other number is too large: the double of a text or of a decimal beyond
the largest one is infinite (`Value.asDouble?_eq_tooLarge`).

Where a threshold is oversized, whether that of a criteria or one in a decision table, the failure
is none that callers are meant to tell apart (`Criteria.oversized_raised`).  Everywhere else in a
criteria any number will do (`Criteria.returns_unless_oversized`).
-/

import Eligibility.Criteria.Plan
import Eligibility.Proofs.Criteria.Closed
import Eligibility.Proofs.Double.Order
import Eligibility.Proofs.Double.ReadBack

namespace Eligibility

/-! ### Integers beyond every double -/

namespace Double

/-- The least distance from zero at which integers have no double: halfway from the largest double
to what would be the next. -/
def ceiling : Nat := twoTo 1024 - twoTo 970

theorem limit_le_nearest_iff (n : Nat) : limit ≤ nearest (unit * n) 1 ↔ ceiling ≤ n := by
  have reached : limit ≤ nearest (unit * ceiling) 1 := by decide +kernel
  have before : nearest (unit * (ceiling - 1)) 1 < limit := by decide +kernel
  constructor
  · intro large
    by_contra small
    have below : n ≤ ceiling - 1 := by omega
    have rounded := nearest_mono (Nat.mul_le_mul_left unit below) 1
    exact absurd (large.trans rounded) (Nat.not_le_of_lt before)
  · intro large
    exact reached.trans (nearest_mono (Nat.mul_le_mul_left unit large) 1)

theorem ofUnits_eq_infinite {num den : Nat} (past : limit ≤ nearest num den) (negative : Bool) :
    ofUnits negative num den = .infinite negative := by
  rw [ofUnits, dif_neg (Nat.not_lt_of_le past)]

/-- An integer has a double exactly when it lies below the ceiling. -/
theorem ofInt?_cases (n : Int) :
    (ceiling ≤ n.natAbs ∧ ofInt? n = .error .integerTooLarge) ∨
      (n.natAbs < ceiling ∧ ofInt? n = .ok (ofInt n)) := by
  have large := limit_le_nearest_iff n.natAbs
  rcases Nat.lt_or_ge (nearest (unit * n.natAbs) 1) limit with inside | past
  · have below : n.natAbs < ceiling := Nat.lt_of_not_le fun above =>
      Nat.not_le_of_lt inside (large.2 above)
    have rounded : ofInt n = .finite _ _ (exact_nearest inside) := ofUnits_eq_finite rfl _ _
    refine .inr ⟨below, ?_⟩
    unfold ofInt?
    rw [rounded]
  · have rounded : ofInt n = .infinite _ := ofUnits_eq_infinite past _
    refine .inl ⟨large.1 past, ?_⟩
    unfold ofInt?
    rw [rounded]

end Double

theorem Value.eq_null {v : Value} (absent : v.isNull) : v = .null := by
  cases v with
  | null => rfl
  | _ => cases absent

/-- An integer that has no double. -/
def Value.Oversized (v : Value) : Prop := ∃ n, v = .int n ∧ Double.ceiling ≤ n.natAbs

theorem Value.oversized_int {n : Int} : (int n).Oversized ↔ Double.ceiling ≤ n.natAbs :=
  ⟨fun ⟨_, same, large⟩ => int.inj same ▸ large, fun large => ⟨n, rfl, large⟩⟩

/-- Nothing but an oversized integer is too large for a double. -/
theorem Value.asDouble?_eq_tooLarge {v : Value} :
    v.asDouble? = .error .integerTooLarge ↔ v.Oversized := by
  cases v with
  | int n =>
    rw [oversized_int, asDouble?]
    rcases Double.ofInt?_cases n with ⟨large, came⟩ | ⟨small, came⟩
    · rw [came]
      exact ⟨fun _ => large, fun _ => rfl⟩
    · rw [came]
      exact ⟨nofun, fun large => absurd large (Nat.not_le_of_lt small)⟩
  | decimal d =>
    refine ⟨fun came => ?_, nofun⟩
    rw [asDouble?, Double.ofDecimalValue?] at came
    cases found : d.toDouble? with
    | none =>
      rw [found] at came
      cases came
    | some x =>
      rw [found] at came
      cases came
  | _ => exact ⟨nofun, nofun⟩

/-- What a value comes to as a double: it is oversized, or a double is found, or none is. -/
theorem Value.asDouble?_cases (v : Value) :
    (v.Oversized ∧ v.asDouble? = .error .integerTooLarge) ∨
      (¬v.Oversized ∧ ((∃ x, v.asDouble? = .ok (some x)) ∨ v.asDouble? = .ok none ∨
        v.asDouble? = .error .signalingNaN ∨ v.asDouble? = .error .signalingCompared)) := by
  rw [← Value.asDouble?_eq_tooLarge]
  cases v.asDouble? with
  | error fault => cases fault <;> simp
  | ok found => cases found <;> simp

/-! ### Decision tables -/

namespace DecisionTable

variable {known : List (Double × String)} {pairs : List (Value × Value)}

/-- A threshold is refused for what it is, or is oversized. -/
theorem threshold_cases (given : Value) :
    (given.Oversized ∧ threshold given = .error (.number .integerTooLarge)) ∨
      (¬given.Oversized ∧ ((∃ x, threshold given = .ok x) ∨
        threshold given = .error (.thresholdNotNumeric given))) := by
  rw [threshold]
  rcases given.asDouble?_cases with ⟨large, came⟩ | ⟨small, ⟨x, came⟩ | came | came | came⟩
  · exact .inl ⟨large, by rw [came]⟩
  · exact .inr ⟨small, .inl ⟨x, by rw [came]⟩⟩
  · exact .inr ⟨small, .inr (by rw [came])⟩
  · exact .inr ⟨small, .inr (by rw [came])⟩
  · exact .inr ⟨small, .inr (by rw [came])⟩

/-- The first pair whose threshold is oversized, after pairs that make entries. -/
def Overflows (known : List (Double × String)) (pairs : List (Value × Value)) : Prop :=
  ∃ before pair after, pairs = before ++ pair :: after ∧ pair.1.Oversized ∧
    ∃ entries, collect known before = .ok entries

theorem overflows_cons {pair : Value × Value} {rest : List (Value × Value)} :
    Overflows known (pair :: rest) ↔ pair.1.Oversized ∨ ∃ before other after,
      rest = before ++ other :: after ∧ other.1.Oversized ∧
        ∃ entries, collect known (pair :: before) = .ok entries := by
  constructor
  · rintro ⟨_ | ⟨head, before⟩, other, after, same, large, entries, came⟩
    · exact .inl ((List.cons.inj same).1 ▸ large)
    · obtain ⟨rfl, rfl⟩ := List.cons.inj same
      exact .inr ⟨before, other, after, rfl, large, entries, came⟩
  · rintro (large | ⟨before, other, after, rfl, rest⟩)
    · exact ⟨[], pair, rest, rfl, large, known, rfl⟩
    · exact ⟨pair :: before, other, after, rfl, rest⟩

/-- What a pair does to the entries before it: it is oversized, it is refused, or it is added. -/
theorem collect_cons (known : List (Double × String)) (pair : Value × Value) :
    (pair.1.Oversized ∧
      ∀ rest, collect known (pair :: rest) = .error (.number .integerTooLarge)) ∨
    (¬pair.1.Oversized ∧ ∃ failure, failure.family? = some .configuration ∧
      ∀ rest, collect known (pair :: rest) = .error failure) ∨
    (¬pair.1.Oversized ∧ ∃ more, ∀ rest, collect known (pair :: rest) = collect more rest) := by
  obtain ⟨given, label⟩ := pair
  simp only [collect, bind, Except.bind]
  rcases threshold_cases given with ⟨large, found⟩ | ⟨small, ⟨x, found⟩ | found⟩
  · rw [found]
    exact .inl ⟨large, fun _ => rfl⟩
  · rw [found]
    cases twice : known.find? fun entry => entry.1.eq x with
    | some entry =>
      refine .inr (.inl ⟨small, .duplicateThreshold x entry.2 label, rfl, fun rest => ?_⟩)
      simp only [twice]
    | none =>
      refine .inr (.inr ⟨small, known ++ [(x, label.display)], fun rest => ?_⟩)
      simp only [twice]
  · rw [found]
    exact .inr (.inl ⟨small, .thresholdNotNumeric given, rfl, fun _ => rfl⟩)

theorem collect_eq_tooLarge :
    collect known pairs = .error (.number .integerTooLarge) ↔ Overflows known pairs := by
  induction pairs generalizing known with
  | nil =>
    refine ⟨nofun, ?_⟩
    rintro ⟨before, pair, after, same, -⟩
    simp at same
  | cons pair rest ih =>
    rw [overflows_cons]
    rcases collect_cons known pair with ⟨large, stops⟩ | ⟨small, reason, family, stops⟩ |
      ⟨small, more, goes⟩
    · simp [large, stops]
    · have other : reason ≠ .number .integerTooLarge := by
        rintro rfl
        cases family
      simp [small, stops, other]
    · simp only [goes, small, false_or]
      exact ih

theorem family_of_collect {failure : Failure} (came : collect known pairs = .error failure) :
    failure.family? = some .configuration ∨ failure = .number .integerTooLarge := by
  induction pairs generalizing known with
  | nil => cases came
  | cons pair rest ih =>
    rcases collect_cons known pair with ⟨-, stops⟩ | ⟨-, reason, family, stops⟩ | ⟨-, more, goes⟩
    · exact .inr (Except.error.inj ((stops rest).symm.trans came)).symm
    · obtain rfl := Except.error.inj ((stops rest).symm.trans came)
      exact .inl family
    · exact ih ((goes rest).symm.trans came)

theorem ofPairs_eq_error {fallback : Option String} {failure : Failure} :
    ofPairs pairs fallback = .error failure ↔ collect [] pairs = .error failure := by
  rw [ofPairs]
  cases collect [] pairs with
  | error reason =>
    constructor
    · rintro ⟨⟩
      rfl
    · rintro ⟨⟩
      rfl
  | ok entries => exact ⟨nofun, nofun⟩

end DecisionTable

/-! ### Evaluations and plans -/

namespace Criteria

variable {criteria : Criteria} {settings : Settings} {subject : Value}

/-- The threshold of a criteria: the double that it is or writes, or else that of the settings. -/
def bar (criteria : Criteria) (settings : Settings) : Double :=
  (criteria.threshold.asDouble?.toOption.join).getD settings.passThreshold

theorem thresholdInForce_cases (criteria : Criteria) (settings : Settings) :
    (criteria.threshold.Oversized ∧
      (criteria.thresholdInForce settings).result = .error (.number .integerTooLarge)) ∨
    (¬criteria.threshold.Oversized ∧
      (criteria.thresholdInForce settings).result = .ok (criteria.bar settings)) := by
  rw [thresholdInForce, bar]
  by_cases absent : criteria.threshold.isNull
  · rw [if_pos absent, Value.eq_null absent]
    refine .inr ⟨?_, rfl⟩
    rintro ⟨n, no, -⟩
    cases no
  · rw [if_neg absent]
    rcases criteria.threshold.asDouble?_cases with
      ⟨large, came⟩ | ⟨small, ⟨x, came⟩ | came | came | came⟩
    · exact .inl ⟨large, by rw [came]; rfl⟩
    · exact .inr ⟨small, by rw [came]; rfl⟩
    · exact .inr ⟨small, by rw [came]; rfl⟩
    · exact .inr ⟨small, by rw [came]; rfl⟩
    · exact .inr ⟨small, by rw [came]; rfl⟩

theorem Typed.exists_groupsInForce (typed : criteria.Typed) :
    ∃ groups, criteria.groupsInForce.result = .ok groups := by
  by_cases none : criteria.groups = []
  · obtain ⟨groups, came, -⟩ := Cluster.exists_ofRules fun rule member =>
      Cluster.exists_tag (typed.rules rule member)
    exact ⟨groups, groupsInForce_eq_ok.2 (.inl ⟨none, came⟩)⟩
  · exact ⟨criteria.groups, groupsInForce_eq_ok.2 (.inr ⟨none, rfl⟩)⟩

theorem threshold_of_evaluate {e : Evaluation}
    (came : (criteria.evaluate settings subject).result = .ok e) :
    ∃ x, (criteria.thresholdInForce settings).result = .ok x ∧ e.threshold = some x := by
  obtain ⟨groups, -, -, x, bar, reports⟩ := reports_of_evaluate came
  exact ⟨x, bar, reports.threshold⟩

/-- An evaluation and a plan fail with what their threshold fails with. -/
theorem result_of_thresholdInForce {failure : Failure} (typed : criteria.Typed)
    (failed : (criteria.thresholdInForce settings).result = .error failure) :
    (criteria.evaluate settings subject).result = .error failure ∧
      (criteria.plan settings).result = .error failure := by
  obtain ⟨groups, inForce⟩ := typed.exists_groupsInForce
  constructor
  · simp only [evaluate, Trial.result_bind, Trial.result_ofNoted, inForce, failed]
    rfl
  · simp only [plan, Trial.result_bind, Trial.result_ofNoted, inForce, failed]
    rfl

theorem exists_plan {x : Double} (typed : criteria.Typed)
    (found : (criteria.thresholdInForce settings).result = .ok x) :
    ∃ p, (criteria.plan settings).result = .ok p ∧ p.threshold = x := by
  obtain ⟨groups, inForce⟩ := typed.exists_groupsInForce
  simp only [plan, Trial.result_bind, Trial.result_ofNoted, inForce, found]
  exact ⟨_, rfl, rfl⟩

/-- **No magnitude fails a criteria but that of an oversized integer.**  What is wrong with a
decision table is a configuration failure, unless a threshold is oversized before anything else is
wrong.  A criteria whose own threshold is oversized has no evaluation and no plan.  With any other
threshold, any weights and any expected values it has both, and where the threshold is no number the
one of the settings is in force. -/
theorem returns_unless_oversized (typed : criteria.Typed) (settings : Settings) (subject : Value) :
    (∀ pairs fallback failure, DecisionTable.ofPairs pairs fallback = .error failure →
      failure.family? = some .configuration ∨ failure = .number .integerTooLarge) ∧
    (∀ pairs fallback, DecisionTable.ofPairs pairs fallback = .error (.number .integerTooLarge) ↔
      DecisionTable.Overflows [] pairs) ∧
    (criteria.threshold.Oversized →
      (criteria.evaluate settings subject).result = .error (.number .integerTooLarge) ∧
        (criteria.plan settings).result = .error (.number .integerTooLarge)) ∧
    (¬criteria.threshold.Oversized → ∃ e p,
      (criteria.evaluate settings subject).result = .ok e ∧
        (criteria.plan settings).result = .ok p ∧
        e.threshold = some (criteria.bar settings) ∧ p.threshold = criteria.bar settings) := by
  refine ⟨fun pairs fallback failure failed => ?_, fun pairs fallback => ?_, fun large => ?_,
    fun small => ?_⟩
  · exact DecisionTable.family_of_collect (DecisionTable.ofPairs_eq_error.1 failed)
  · rw [DecisionTable.ofPairs_eq_error, DecisionTable.collect_eq_tooLarge]
  · rcases thresholdInForce_cases criteria settings with ⟨-, failed⟩ | ⟨small, -⟩
    · exact result_of_thresholdInForce typed failed
    · exact absurd large small
  · rcases thresholdInForce_cases criteria settings with ⟨large, -⟩ | ⟨-, found⟩
    · exact absurd large small
    · have inRange := Value.asDouble?_eq_tooLarge.not.2 small
      obtain ⟨e, came⟩ := exists_evaluate_iff.2 (typed.returning inRange settings)
      obtain ⟨p, planned, same⟩ := exists_plan typed found
      obtain ⟨x, found', threshold⟩ := threshold_of_evaluate came
      obtain rfl := Except.ok.inj (found.symm.trans found')
      exact ⟨e, p, came, planned, threshold, same⟩

/-- A criteria whose weight and expected value are oversized, and whose threshold is `threshold`. -/
def vast (threshold : Value) : Criteria where
  criteriaId := .text "vast"
  rules := [{
    ruleId := .text "wealth", field := "wealth", operator := .text ">="
    expected := .int (10 ^ 400), weight := .int (10 ^ 400) }]
  threshold := threshold

theorem typed_vast (threshold : Value) : (vast threshold).Typed := by
  refine ⟨⟨_, rfl⟩, nofun, fun rule member => ?_⟩
  obtain rfl := List.mem_singleton.1 member
  exact ⟨⟨_, rfl⟩, .inl rfl⟩

theorem oversized_vast : Value.Oversized (.int (10 ^ 400)) := ⟨_, rfl, by decide +kernel⟩

/-- A threshold that is no number gives way to that of the settings, and an infinite one stays. -/
theorem returns_unless_oversized_vast :
    (∃ e p, ((vast (.text "high")).evaluate {} (.map [])).result = .ok e ∧
      ((vast (.text "high")).plan {}).result = .ok p ∧
      e.threshold = some (Double.ofNat 65) ∧ p.threshold = Double.ofNat 65) ∧
    (∃ e p, ((vast (.text "1e400")).evaluate {} (.map [])).result = .ok e ∧
      ((vast (.text "1e400")).plan {}).result = .ok p ∧
      e.threshold = some (.infinite false) ∧ p.threshold = .infinite false) := by
  obtain ⟨-, -, -, named⟩ := returns_unless_oversized (typed_vast (.text "high")) {} (.map [])
  obtain ⟨-, -, -, written⟩ := returns_unless_oversized (typed_vast (.text "1e400")) {} (.map [])
  have known : (vast (.text "high")).bar {} = Double.ofNat 65 := by decide +kernel
  have infinite : (vast (.text "1e400")).bar {} = .infinite false := by decide +kernel
  rw [known] at named
  rw [infinite] at written
  exact ⟨named nofun, written nofun⟩

/-- **An oversized threshold fails what it is in**, and with a failure of no family. -/
theorem oversized_raised :
    ((vast (.int (10 ^ 400))).evaluate {} (.map [])).result = .error (.number .integerTooLarge) ∧
      ((vast (.int (10 ^ 400))).plan {}).result = .error (.number .integerTooLarge) ∧
      DecisionTable.ofPairs [(.int (10 ^ 400), .text "high")] none =
        .error (.number .integerTooLarge) ∧
      (Failure.number .integerTooLarge).family? = none := by
  rcases thresholdInForce_cases (vast (.int (10 ^ 400))) {} with ⟨-, failed⟩ | ⟨small, -⟩
  · obtain ⟨evaluated, planned⟩ := result_of_thresholdInForce (typed_vast _) failed
    refine ⟨evaluated, planned, ?_, rfl⟩
    rw [DecisionTable.ofPairs_eq_error, DecisionTable.collect_eq_tooLarge]
    exact ⟨[], _, [], rfl, oversized_vast, [], rfl⟩
  · exact absurd oversized_vast small

end Criteria
end Eligibility
