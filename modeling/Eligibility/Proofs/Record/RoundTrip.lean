/-
# Stored results read back

What is read back from the stored text of an evaluation is the evaluation itself but for three
places: the expected and the actual value of a rule come back as JSON knows them, and a threshold
that is no finite number comes back absent (`Evaluation.reread`).  An evaluation whose scores and
weights JSON cannot hold, or whose values are nested too deeply, has a stored text too, but
nothing is read back from it (`Evaluation.isReadable`, `Evaluation.ofStored?_stored`).

The outline of an evaluation (`Evaluation.outline`) is everything but those three places, so
reading back keeps it (`Evaluation.outline_of_ofStored?`).
-/

import Eligibility.Proofs.Json.RoundTrip
import Eligibility.Record.Reader
import Eligibility.Record.Writer

namespace Eligibility

/-- A value as it is read back from a stored result. -/
def Value.reread (v : Value) : Value := ((Record.tree? v).map Json.toValue).getD .null

namespace RuleResult

/-- An outcome as it is read back. -/
def reread (r : RuleResult) : RuleResult :=
  { r with expected := r.expected.reread, actual := r.actual.reread }

/-- Whether an outcome can be read back. -/
def isReadable (r : RuleResult) : Bool := r.contribution.isFinite && r.weight.isFinite

/-- An outcome without the values that were compared. -/
def outline (r : RuleResult) : RuleResult := { r with expected := .null, actual := .null }

@[simp] theorem outline_reread (r : RuleResult) : r.reread.outline = r.outline := rfl

end RuleResult

namespace GroupResult

/-- An outcome as it is read back. -/
def reread (g : GroupResult) : GroupResult := { g with results := g.results.map (·.reread) }

/-- Whether an outcome can be read back: its score has to be a percentage. -/
def isReadable (g : GroupResult) : Bool :=
  g.score.isFinite && Double.zero.le g.score && g.score.le .hundred &&
    g.results.all (·.isReadable)

/-- An outcome without the values that were compared. -/
def outline (g : GroupResult) : GroupResult := { g with results := g.results.map (·.outline) }

@[simp] theorem outline_reread (g : GroupResult) : g.reread.outline = g.outline := by
  simp [reread, outline, Function.comp_def]

end GroupResult

namespace Evaluation

/-- An evaluation as it is read back. -/
def reread (e : Evaluation) : Evaluation :=
  { e with
    threshold := e.threshold.filter (·.isFinite)
    failures := e.failures.map (·.reread)
    groups := e.groups.map (·.reread) }

/-- Whether an evaluation can be read back, but for the depth of its values. -/
def isReadable (e : Evaluation) : Bool :=
  e.score.isFinite && e.failures.all (·.isReadable) && e.groups.all (·.isReadable)

/-- An evaluation without the values that were compared, and without a threshold that is no
finite number. -/
def outline (e : Evaluation) : Evaluation :=
  { e with
    threshold := e.threshold.filter (·.isFinite)
    failures := e.failures.map (·.outline)
    groups := e.groups.map (·.outline) }

@[simp] theorem outline_reread (e : Evaluation) : e.reread.outline = e.outline := by
  simp [reread, outline, Function.comp_def]

end Evaluation

namespace Record

/-! ### Fields -/

@[simp] theorem text?_text (s : String) : text? (.text s) = some s := rfl

@[simp] theorem boolean?_bool (b : Bool) : boolean? (.bool b) = some b := rfl

@[simp] theorem integer?_int (n : Int) : integer? (.int n) = some n := rfl

@[simp] theorem double?_number (x : Double) :
    double? (number x) = if x.isFinite then some x else none := by
  unfold number
  split <;> rfl

@[simp] theorem nullable?_text (s : Option String) :
    nullable? text? (textOrNull s) = some s := by
  cases s <;> rfl

@[simp] theorem nullable?_bool (b : Option Bool) :
    nullable? boolean? ((b.map Json.bool).getD .null) = some b := by
  cases b <;> rfl

@[simp] theorem nullable?_number (x : Option Double) :
    nullable? double? ((x.map number).getD .null) = some (x.filter (·.isFinite)) := by
  cases x with
  | none => rfl
  | some x => cases x <;> rfl

theorem percentage?_number (x : Double) :
    percentage? (number x) =
      if (x.isFinite && Double.zero.le x && x.le .hundred) = true then some x else none := by
  rw [percentage?, double?_number]
  cases x.isFinite <;> simp

theorem any?_tree {v : Value} {t : Json} (written : tree? v = some t) : any? t = some v.reread := by
  simp [any?, Value.reread, written]

/-- Items written one by one are read one by one. -/
theorem mapM_read {α : Type} {write : α → Option Json} {read : Json → Option α}
    {readable : α → Bool} {reread : α → α}
    (each : ∀ x t, write x = some t → read t = if readable x then some (reread x) else none)
    (xs : List α) {ts : List Json} (written : xs.mapM write = some ts) :
    list? read (.array ts) = if xs.all readable then some (xs.map reread) else none := by
  show ts.mapM read = _
  induction xs generalizing ts with
  | nil =>
    simp only [List.mapM_nil, Option.pure_def, Option.some.injEq] at written
    subst written
    rfl
  | cons x xs ih =>
    simp only [List.mapM_cons, Option.bind_eq_bind, Option.pure_def, Option.bind_eq_some_iff,
      Option.some.injEq] at written
    obtain ⟨t, first, ts, later, rfl⟩ := written
    rw [List.mapM_cons, each x t first, ih later, List.all_cons]
    cases readable x <;> cases xs.all readable <;> simp

end Record

open Record

theorem RuleResult.ofTree?_tree? (r : RuleResult) {t : Json} (written : r.tree? = some t) :
    ofTree? t = if r.isReadable then some r.reread else none := by
  simp only [RuleResult.tree?, Option.bind_eq_bind, Option.pure_def, Option.bind_eq_some_iff,
    Option.some.injEq] at written
  obtain ⟨expected, fst, actual, snd, rfl⟩ := written
  simp only [ofTree?, Json.members?, required?, usual?, Json.find?, List.reverse_cons,
    List.reverse_nil, List.nil_append, List.cons_append, List.find?, String.reduceBEq,
    Option.map_some, Option.bind_eq_bind, Option.bind_some, Option.pure_def, text?_text,
    boolean?_bool, double?_number, nullable?_text, any?_tree fst, any?_tree snd]
  unfold isReadable
  cases r.contribution.isFinite <;> cases r.weight.isFinite <;> rfl

theorem GroupResult.ofTree?_tree? (g : GroupResult) {t : Json} (written : g.tree? = some t) :
    ofTree? t = if g.isReadable then some g.reread else none := by
  simp only [GroupResult.tree?, Option.bind_eq_bind, Option.pure_def, Option.bind_eq_some_iff,
    Option.some.injEq] at written
  obtain ⟨results, each, rfl⟩ := written
  have back := mapM_read (fun r t => RuleResult.ofTree?_tree? r (t := t)) g.results each
  simp only [ofTree?, Json.members?, required?, usual?, Json.find?, List.reverse_cons,
    List.reverse_nil, List.nil_append, List.cons_append, List.find?, String.reduceBEq,
    Option.map_some, Option.bind_eq_bind, Option.bind_some, Option.pure_def, text?_text,
    boolean?_bool, integer?_int, nullable?_text, percentage?_number, back]
  unfold isReadable
  cases (g.score.isFinite && Double.zero.le g.score && g.score.le .hundred) <;>
    cases g.results.all (·.isReadable) <;> rfl

namespace Evaluation

theorem ofTree?_tree? (e : Evaluation) {t : Json} (written : e.tree? = some t) :
    ofTree? t = if e.isReadable then some e.reread else none := by
  simp only [Evaluation.tree?, Option.bind_eq_bind, Option.pure_def, Option.bind_eq_some_iff,
    Option.some.injEq] at written
  obtain ⟨failures, eachFailure, groups, eachGroup, rfl⟩ := written
  have failuresBack :=
    mapM_read (fun r t => RuleResult.ofTree?_tree? r (t := t)) e.failures eachFailure
  have groupsBack := mapM_read (fun g t => GroupResult.ofTree?_tree? g (t := t)) e.groups eachGroup
  simp only [ofTree?, Json.members?, required?, usual?, Json.find?, List.reverse_cons,
    List.reverse_nil, List.nil_append, List.cons_append, List.find?, String.reduceBEq,
    Option.map_some, Option.bind_eq_bind, Option.bind_some, Option.pure_def, text?_text,
    boolean?_bool, double?_number, nullable?_text, nullable?_number, nullable?_bool,
    failuresBack, groupsBack]
  unfold isReadable
  cases e.score.isFinite <;> cases e.failures.all (·.isReadable) <;>
    cases e.groups.all (·.isReadable) <;> rfl

/-- Whether an evaluation reads back from its text: its numbers are in their ranges, and the values
that it tells are not nested too deeply. -/
def readsBack (e : Evaluation) : Bool :=
  e.isReadable && e.tree?.any fun t => t.depth ≤ Json.nestingLimit

/-- **What is read back from a stored text** is the evaluation but for the values that were
compared and for a threshold that is no number. -/
theorem ofStored?_stored (e : Evaluation) {s : String} (stored : e.stored = .ok s) :
    ofStored? s = if e.readsBack then some e.reread else none := by
  unfold Evaluation.stored at stored
  split at stored
  · next t written =>
    obtain rfl := Except.ok.inj stored
    unfold ofStored? readsBack
    rw [Json.ofText?_plainText, written, Option.any_some]
    by_cases shallow : t.depth ≤ Json.nestingLimit
    · rw [if_pos shallow, Option.bind_eq_bind, Option.bind_some, ofTree?_tree? e written]
      simp [shallow]
    · simp [shallow]
  · cases stored

theorem outline_of_ofStored? {e found : Evaluation} {s : String} (stored : e.stored = .ok s)
    (read : ofStored? s = some found) : found.outline = e.outline := by
  rw [ofStored?_stored e stored] at read
  split at read
  · obtain rfl := Option.some.inj read
    exact outline_reread e
  · cases read

end Evaluation

end Eligibility
