/-
# Greedy repetitions of one character

A repetition that tries most rounds first takes a whole run of the characters of a class, as long as
what is left matches behind that run: no round is given back then (`Pattern.mostFirst_run`).  So a
pattern whose repetitions are all of this kind, and of whose branches one at most can begin with a
character, is matched from left to right without going back.
-/

import Eligibility.Pattern.Search
import Mathlib.Data.List.Basic

namespace Eligibility

/-- Where a match of the pattern that begins at a place of a text ends, and what its groups have
captured. -/
def Pattern.matchAt? (pattern : Pattern) (text : Array Char) (place : Nat) :
    Option Pattern.Progress :=
  Pattern.matchSequence text pattern.switches pattern.body some
    ⟨place, Array.replicate (2 * pattern.groups) none⟩

namespace Pattern

/-- A pattern occurs in a text when it matches at some place. -/
example (pattern : Pattern) (s : String) : pattern.occursIn s =
    (List.range (s.toList.toArray.size + 1)).any fun place =>
      (pattern.matchAt? s.toList.toArray place).isSome := rfl

variable {cs : List Char} {p : Char → Bool} {k : Continuation} {found : Progress}
  {marks : Array (Option Nat)} {place : Nat}

/-! ### One character -/

theorem step_of_has {c : Char} {rest : List Char} (stands : cs.drop place = c :: rest)
    (has : p c = true) :
    step cs.toArray p k ⟨place, marks⟩ = k ⟨place + 1, marks⟩ := by
  have here : cs[place]? = some c := by
    rw [← Nat.add_zero place, ← List.getElem?_drop, stands]
    rfl
  simp [step, here, has]

theorem step_of_lacks {rest : List Char} (stands : cs.drop place = rest)
    (lacks : ∀ c ∈ rest.head?, p c = false) : step cs.toArray p k ⟨place, marks⟩ = none := by
  have here : cs[place]? = rest.head? := by
    rw [← stands, List.head?_drop]
  cases first : rest.head? with
  | none => simp [step, here, first]
  | some c => simp [step, here, first, lacks c first]

theorem drop_succ_of_cons {c : Char} {rest : List Char} (stands : cs.drop place = c :: rest) :
    cs.drop (place + 1) = rest := by
  rw [← List.drop_drop, stands]
  rfl

/-! ### Branches -/

section Branches

variable {text : Array Char} {switches : Switches} {branch : List Node}
  {branches : List (List Node)} {progress : Progress}

theorem matchBranches_of_some (taken : matchSequence text switches branch k progress = some found) :
    matchBranches text switches (branch :: branches) k progress = some found := by
  simp [matchBranches, taken]

theorem matchBranches_of_none (fails : matchSequence text switches branch k progress = none) :
    matchBranches text switches (branch :: branches) k progress =
      matchBranches text switches branches k progress := by
  simp [matchBranches, fails]

end Branches

/-! ### Runs -/

/-- **A greedy repetition takes a whole run** when what is left matches behind it. -/
theorem mostFirst_run {run rest : List Char} {least count fuel : Nat} {last : Option Nat}
    (stands : cs.drop place = run ++ rest) (all : ∀ c ∈ run, p c = true)
    (ends : ∀ c ∈ rest.head?, p c = false) (behind : k ⟨place + run.length, marks⟩ = some found)
    (enough : least ≤ count + run.length) (before : ∀ earlier ∈ last, earlier < place)
    (fuelled : run.length < fuel) :
    mostFirst (step cs.toArray p) least none k fuel count last ⟨place, marks⟩ = some found := by
  induction run generalizing place count last fuel with
  | nil =>
    obtain ⟨fuel, rfl⟩ : ∃ less, fuel = less + 1 := ⟨fuel - 1, by omega⟩
    rw [List.length_nil, Nat.add_zero] at behind enough
    rw [mostFirst, if_neg (by omega), step_of_lacks stands ends]
    split <;> exact behind
  | cons c run ih =>
    rw [List.length_cons] at enough fuelled behind
    obtain ⟨fuel, rfl⟩ : ∃ less, fuel = less + 1 := ⟨fuel - 1, by omega⟩
    have has := all c List.mem_cons_self
    have later (last : Option Nat) (before : ∀ earlier ∈ last, earlier < place + 1) :
        mostFirst (step cs.toArray p) least none k fuel (count + 1) last ⟨place + 1, marks⟩ =
          some found :=
      ih (drop_succ_of_cons stands) (fun d member => all d (List.mem_cons_of_mem _ member))
        (by rw [← behind, Nat.add_assoc, Nat.add_comm 1]) (by omega) before (by omega)
    have another : mayRepeat none count last ⟨place, marks⟩ = true := by
      have moved : last ≠ some place := fun same => Nat.lt_irrefl _ (before place same)
      simp [mayRepeat, moved]
    rw [mostFirst, step_of_has stands has, if_pos another, step_of_has stands has,
      later last fun earlier same => Nat.lt_succ_of_lt (before earlier same),
      later (some place) fun earlier same => by
        obtain rfl := Option.some.inj same
        exact Nat.lt_succ_self place]
    split <;> rfl

end Pattern
end Eligibility
