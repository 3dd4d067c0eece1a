/-
# Each key is computed once

Callers that evaluate at the same time, over a store that lasts, compute each key at most once, and
only when it was not held before.  The first of those that look a key up in vain makes its lock;
whoever holds the lock looks again, so it computes only while the key is still not held, and of
those that might compute a key only one can hold its lock at a time (`Flight.Sound`).

| for a key | runs of the engine | locks that stand |
| --- | --- | --- |
| held from the beginning | 0 | 0 |
| not held yet | 0 | 1 once a caller waits |
| held since | 1 | 0 |

A lock that was thrown out of the table while callers still wait for it does no harm: its key is
held by then, so they find it, and no caller that comes later makes another lock.
-/

import Mathlib.Algebra.BigOperators.Group.Finset.Basic
import Mathlib.Algebra.BigOperators.Group.Finset.Piecewise
import Eligibility.Proofs.Service.Flight
import Eligibility.Proofs.Service.Transparency

namespace Eligibility
namespace Service

section Counting

variable (settings : Settings) (criteria : Criteria)

/-- Whether a caller asks for a key. -/
def Caller.asks (key : String) (caller : Caller) : Bool :=
  (keyOf settings criteria caller.subject).toOption == some key

/-- How often the engine was run for a key. -/
def runsOf (key : String) (callers : List Caller) : Nat :=
  (callers.map fun caller => if caller.asks settings criteria key then caller.runs else 0).sum

/-- The keys of subjects that are not held. -/
def newKeys (held : String → Option Evaluation) (subjects : List Value) : Finset String :=
  (subjects.filterMap fun subject => (keyOf settings criteria subject).toOption).toFinset.filter
    fun key => held key = none

variable {settings criteria} {key : String} {caller : Caller} {callers : List Caller}

theorem asks_iff : caller.asks settings criteria key = true ↔
    keyOf settings criteria caller.subject = .ok key := by
  unfold Caller.asks
  cases keyOf settings criteria caller.subject <;> simp [Except.toOption]

/-- Every caller asks for one key. -/
theorem sum_runs {keys : Finset String} (asked : ∀ caller ∈ callers, ∃ key ∈ keys,
      keyOf settings criteria caller.subject = .ok key) :
    (callers.map (·.runs)).sum = ∑ key ∈ keys, runsOf settings criteria key callers := by
  induction callers with
  | nil => simp [runsOf]
  | cons caller rest ih =>
    obtain ⟨key, member, known⟩ := asked caller (by simp)
    have own (k : String) : caller.asks settings criteria k = decide (key = k) := by
      rw [Bool.eq_iff_iff, asks_iff, known, decide_eq_true_iff, Except.ok.injEq]
    simp only [runsOf, List.map_cons, List.sum_cons, Finset.sum_add_distrib, own, decide_eq_true_eq,
      Finset.sum_ite_eq, if_pos member]
    rw [ih fun caller member => asked caller (List.mem_cons_of_mem _ member)]
    rfl

/-- One caller in another's place. -/
theorem sum_replace (count : Caller → Nat) (before after : List Caller) (old new : Caller) :
    ((before ++ new :: after).map count).sum + count old =
      ((before ++ old :: after).map count).sum + count new := by
  simp only [List.map_append, List.map_cons, List.sum_append, List.sum_cons]
  omega

variable (settings criteria) in
/-- How often the engine was run for a key, when one caller stands in another's place. -/
theorem runsOf_replace (key : String) (before after : List Caller) (old new : Caller)
    (same : new.subject = old.subject) :
    runsOf settings criteria key (before ++ new :: after) +
        (if old.asks settings criteria key then old.runs else 0) =
      runsOf settings criteria key (before ++ old :: after) +
        (if old.asks settings criteria key then new.runs else 0) := by
  have asks : new.asks settings criteria key = old.asks settings criteria key := by
    rw [Caller.asks, same, Caller.asks]
  have total := sum_replace (fun caller => if caller.asks settings criteria key then caller.runs else 0)
    before after old new
  rwa [asks] at total

end Counting

section Moved

variable {σ : Type} (view : σ → String → Option String) (caller : Caller) (stage : Stage)
  (s t : Service σ)

theorem Caller.runs_moved : (caller.moved stage s t).runs =
    caller.runs + ((books view t).runs - (books view s).runs) := rfl

theorem Caller.hits_moved : (caller.moved stage s t).hits =
    caller.hits + ((books view t).hits - (books view s).hits) := rfl

/-- A caller that leaves with a result gives its lock up. -/
theorem books_depart (key : String) (e : Evaluation) :
    books view (depart key (.ok e) s) =
      { books view s with locks := (books view s).locks.filter (· != key) } := rfl

end Moved

/-- What is known of a caller, while others have their turns. -/
structure Caller.Sound (settings : Settings) (criteria : Criteria)
    (was held : String → Option Evaluation) (table : Keyed String Nat) (caller : Caller) :
    Prop where
  ready : Ready settings criteria was caller.subject
  unspent : (∀ result, caller.stage ≠ .ended result) → caller.runs = 0 ∧ caller.hits = 0
  /-- While a key is not held, all that were given a lock for it were given the same. -/
  claim : ∀ key lock, caller.stage.claim? = some (key, lock) →
    keyOf settings criteria caller.subject = .ok key ∧
      (held key = none → table.get? key = some lock)
  computing : ∀ key lock, caller.stage = .computing key lock → held key = none
  ended : ∀ result, caller.stage = .ended result → ∃ key e found,
    keyOf settings criteria caller.subject = .ok key ∧ result = .ok e ∧
      held key = some found ∧ e.outline = found.outline ∧ caller.runs + caller.hits = 1

/-- What is held stays, so what is missing was missing before. -/
theorem missing_before {held held' : String → Option Evaluation} {key : String}
    (kept : ∀ e, held key = some e → held' key = some e) (missing : held' key = none) :
    held key = none := by
  cases there : held key with
  | none => rfl
  | some e => exact nomatch (kept e there).symm.trans missing

theorem ne_of_update_eq_none {held : String → Option Evaluation} {key k : String}
    {found : Evaluation} (none : Function.update held key (some found) k = none) : k ≠ key := by
  rintro rfl
  rw [Function.update_self] at none
  cases none

theorem update_of_held {held : String → Option Evaluation} {key k : String} {e found : Evaluation}
    (missing : held key = none) (was : held k = some e) :
    Function.update held key (some found) k = some e := by
  rw [Function.update_of_ne, was]
  rintro rfl
  exact nomatch missing.symm.trans was

/-- More keys are held, and other locks stand. -/
theorem Caller.Sound.mono {settings : Settings} {criteria : Criteria}
    {was held held' : String → Option Evaluation} {table table' : Keyed String Nat}
    {caller : Caller} (sound : caller.Sound settings criteria was held table)
    (kept : ∀ key e, held key = some e → held' key = some e)
    (stands : ∀ key lock, held' key = none → table.get? key = some lock →
      table'.get? key = some lock)
    (computing : ∀ key lock, caller.stage = .computing key lock → held' key = none) :
    caller.Sound settings criteria was held' table' where
  ready := sound.ready
  unspent := sound.unspent
  claim key lock claimed := by
    obtain ⟨known, registered⟩ := sound.claim key lock claimed
    exact ⟨known, fun missing =>
      stands key lock missing (registered (missing_before (kept key) missing))⟩
  computing := computing
  ended result ended := by
    obtain ⟨key, e, found, known, returned, there, rest⟩ := sound.ended result ended
    exact ⟨key, e, found, known, returned, kept key found there, rest⟩

namespace Flight

variable {σ : Type} {settings : Settings} {criteria : Criteria} {I : σ → Prop}
  {view : σ → String → Option String} {old : Books} {f : Flight σ} {before after : List Caller}
  {caller : Caller} {stage : Stage} {service : Service σ} {table : Keyed String Nat}
  {key : String} {lock : Nat} {e found : Evaluation}

/-- What holds of a flight in all its states. -/
structure Sound (settings : Settings) (criteria : Criteria) (I : σ → Prop)
    (view : σ → String → Option String) (old : Books) (f : Flight σ) : Prop where
  store : I f.service.store
  kept : ∀ key e, old.held key = some e → (books view f.service).held key = some e
  callers : ∀ caller ∈ f.callers,
    caller.Sound settings criteria old.held (books view f.service).held f.table
  /-- A lock stands only for a key that is not held, and somebody has been given it. -/
  table : ∀ key lock, f.table.get? key = some lock → (books view f.service).held key = none ∧
    ∃ caller ∈ f.callers, caller.stage.claim? = some (key, lock)
  locks : ∀ key, key ∈ f.service.locks ↔ (f.table.get? key).isSome
  exclusive : ∀ lock, f.callers.countP (·.stage.holds lock) ≤ 1
  once : ∀ key, runsOf settings criteria key f.callers =
    if old.held key = none ∧ (books view f.service).held key ≠ none then 1 else 0
  runs : (books view f.service).runs = old.runs + (f.callers.map (·.runs)).sum
  hits : (books view f.service).hits = old.hits + (f.callers.map (·.hits)).sum

theorem mem_of_others {callers : List Caller} (among : callers = before ++ caller :: after)
    {other : Caller} (member : other ∈ before ++ after) : other ∈ callers := by
  rw [among]
  exact List.mem_append.2 ((List.mem_append.1 member).imp_right (List.mem_cons_of_mem _))

/-- A lock that stands is not replaced when one is given out. -/
theorem get?_given {given : String} (stood : f.table.get? key = some lock) :
    (f.table.insert given (f.lockFor given)).get? key = some lock := by
  rw [Keyed.get?_insert]
  split
  · next same => rw [lockFor, ← same, stood, Option.getD_some]
  · exact stood

theorem mem_locked {locks : List String} {locked : String} :
    key ∈ (if locks.contains locked then locks else locked :: locks) ↔
      key = locked ∨ key ∈ locks := by
  split
  · next there =>
    have there : locked ∈ locks := by simpa using there
    exact ⟨.inr, fun or => or.elim (fun same => same ▸ there) id⟩
  · exact List.mem_cons

namespace Sound

/-- The lock of a caller that holds one is held by no other. -/
theorem others (sound : f.Sound settings criteria I view old) (lock : Nat)
    (among : f.callers = before ++ caller :: after) (holds : caller.stage.holds lock = true) :
    ∀ other ∈ before ++ after, other.stage.holds lock = false := by
  have alone := sound.exclusive lock
  simp only [among, List.countP_append, List.countP_cons, if_pos holds] at alone
  have none : (before ++ after).countP (·.stage.holds lock) = 0 := by
    rw [List.countP_append]
    omega
  intro other member
  simpa using List.countP_eq_zero.1 none other member

/-- No lock stands for a key that is held. -/
theorem standing (sound : f.Sound settings criteria I view old)
    (there : (books view f.service).held key = some found) : f.table.get? key = none := by
  cases stood : f.table.get? key with
  | none => rfl
  | some lock => exact nomatch (sound.table key lock stood).1.symm.trans there

/-- **Only one caller computes a key at a time**: another would hold the same lock. -/
theorem computes_alone (sound : f.Sound settings criteria I view old)
    (among : f.callers = before ++ caller :: after) (stage : caller.stage = .computing key lock)
    {other : Caller} (member : other ∈ before ++ after) (lock' : Nat) :
    other.stage ≠ .computing key lock' := by
  intro computes
  have own := sound.callers caller (by simp [among])
  have theirs := sound.callers other (mem_of_others among member)
  have missing := own.computing key lock stage
  have stands := (own.claim key lock (by rw [stage]; rfl)).2 missing
  have stands' := (theirs.claim key lock' (by rw [computes]; rfl)).2 missing
  obtain rfl : lock = lock' := Option.some.inj (stands.symm.trans stands')
  have free := sound.others lock among (by simp [stage, Stage.holds]) other member
  simp [computes, Stage.holds] at free

/-- A caller that comes to hold a lock does so while nobody else holds it. -/
theorem exclusive_replace (sound : f.Sound settings criteria I view old)
    (among : f.callers = before ++ caller :: after) {new : Caller}
    (holds : ∀ lock, new.stage.holds lock = true → caller.stage.holds lock = true ∨
      ∀ other ∈ f.callers, other.stage.holds lock = false) (lock : Nat) :
    (before ++ new :: after).countP (·.stage.holds lock) ≤ 1 := by
  have alone := sound.exclusive lock
  simp only [among, List.countP_append, List.countP_cons] at alone ⊢
  by_cases takes : new.stage.holds lock = true
  · rw [if_pos takes]
    rcases holds lock takes with had | free
    · rw [if_pos had] at alone
      omega
    · have none : f.callers.countP (·.stage.holds lock) = 0 :=
        List.countP_eq_zero.2 fun other member => by simp [free other member]
      simp only [among, List.countP_append, List.countP_cons] at none
      omega
  · rw [if_neg takes]
    omega

/-- The turn of one caller, as the others see it. -/
theorem turn (sound : f.Sound settings criteria I view old)
    (among : f.callers = before ++ caller :: after) (store : I service.store)
    (kept : ∀ key e, (books view f.service).held key = some e →
      (books view service).held key = some e)
    (new : (caller.moved stage f.service service).Sound settings criteria old.held
      (books view service).held table)
    (others : ∀ other ∈ before ++ after,
      other.Sound settings criteria old.held (books view service).held table)
    (added : ∀ key lock, table.get? key = some lock → (books view service).held key = none ∧
      (f.table.get? key = some lock ∨ stage.claim? = some (key, lock)))
    (claims : ∀ key lock, caller.stage.claim? = some (key, lock) →
      (books view service).held key = none → stage.claim? = some (key, lock))
    (locks : ∀ key, key ∈ service.locks ↔ (table.get? key).isSome)
    (holds : ∀ lock, stage.holds lock = true → caller.stage.holds lock = true ∨
      ∀ other ∈ f.callers, other.stage.holds lock = false)
    (once : ∀ key, runsOf settings criteria key
        (before ++ caller.moved stage f.service service :: after) =
      if old.held key = none ∧ (books view service).held key ≠ none then 1 else 0)
    (runs : (books view f.service).runs ≤ (books view service).runs)
    (hits : (books view f.service).hits ≤ (books view service).hits) :
    Sound settings criteria I view old
      ⟨service, before ++ caller.moved stage f.service service :: after, table, f.next + 1⟩ where
  store := store
  kept key e was := kept key e (sound.kept key e was)
  callers other member := by
    rcases List.mem_append.1 member with earlier | here
    · exact others other (by simp [earlier])
    · rcases List.mem_cons.1 here with rfl | later
      · exact new
      · exact others other (by simp [later])
  table key lock found := by
    obtain ⟨missing, stood | claimed⟩ := added key lock found
    · refine ⟨missing, ?_⟩
      obtain ⟨-, other, member, claimed⟩ := sound.table key lock stood
      simp only [among, List.mem_append, List.mem_cons] at member
      rcases member with earlier | rfl | later
      · exact ⟨other, by simp [earlier], claimed⟩
      · exact ⟨other.moved stage f.service service, by simp, claims key lock claimed missing⟩
      · exact ⟨other, by simp [later], claimed⟩
    · exact ⟨missing, caller.moved stage f.service service, by simp, claimed⟩
  locks := locks
  exclusive := sound.exclusive_replace among holds
  once := once
  runs := by
    have total := sum_replace (·.runs) before after caller (caller.moved stage f.service service)
    have counted := sound.runs
    rw [← among, Caller.runs_moved view] at total
    dsimp only
    omega
  hits := by
    have total := sum_replace (·.hits) before after caller (caller.moved stage f.service service)
    have counted := sound.hits
    rw [← among, Caller.hits_moved view] at total
    dsimp only
    omega

/-- A turn in which no result is put. -/
theorem quiet (sound : f.Sound settings criteria I view old)
    (among : f.callers = before ++ caller :: after) (store : I service.store)
    (held : (books view service).held = (books view f.service).held)
    (runs : (books view service).runs = (books view f.service).runs)
    (hits : (books view f.service).hits ≤ (books view service).hits)
    (new : (caller.moved stage f.service service).Sound settings criteria old.held
      (books view f.service).held table)
    (stands : ∀ key lock, f.table.get? key = some lock → table.get? key = some lock)
    (added : ∀ key lock, table.get? key = some lock → (books view f.service).held key = none ∧
      (f.table.get? key = some lock ∨ stage.claim? = some (key, lock)))
    (claims : ∀ key lock, caller.stage.claim? = some (key, lock) →
      (books view f.service).held key = none → stage.claim? = some (key, lock))
    (locks : ∀ key, key ∈ service.locks ↔ (table.get? key).isSome)
    (holds : ∀ lock, stage.holds lock = true → caller.stage.holds lock = true ∨
      ∀ other ∈ f.callers, other.stage.holds lock = false) :
    Sound settings criteria I view old
      ⟨service, before ++ caller.moved stage f.service service :: after, table, f.next + 1⟩ := by
  rw [← held] at new added claims
  refine sound.turn among store (fun key e there => held ▸ there) new ?_ added claims locks holds ?_
    runs.ge hits
  · intro other member
    have known := sound.callers other (mem_of_others among member)
    rw [held]
    exact known.mono (fun _ _ there => there) (fun key lock _ => stands key lock) known.computing
  · intro key
    rw [held, ← sound.once key, among]
    have total := runsOf_replace settings criteria key before after caller
      (caller.moved stage f.service service) rfl
    have same : (caller.moved stage f.service service).runs = caller.runs := by
      rw [Caller.runs_moved view]
      omega
    rw [same] at total
    exact Nat.add_right_cancel total

/-- A turn of a caller that has been given a lock and goes on waiting or working under it. -/
theorem proceeds (sound : f.Sound settings criteria I view old)
    (among : f.callers = before ++ caller :: after) (store : I service.store)
    (same : books view service = books view f.service)
    (claimed : caller.stage.claim? = some (key, lock)) (claims : stage.claim? = some (key, lock))
    (computing : ∀ key lock, stage = .computing key lock →
      (books view f.service).held key = none)
    (holds : ∀ lock, stage.holds lock = true → caller.stage.holds lock = true ∨
      ∀ other ∈ f.callers, other.stage.holds lock = false) :
    Sound settings criteria I view old
      ⟨service, before ++ caller.moved stage f.service service :: after, f.table, f.next + 1⟩ := by
  have own := sound.callers caller (by simp [among])
  obtain ⟨unrun, unhit⟩ := own.unspent fun result ended => by
    rw [ended] at claimed
    cases claimed
  have locks : service.locks = f.service.locks := congrArg Books.locks same
  refine sound.quiet among store (congrArg Books.held same) (congrArg Books.runs same)
    (congrArg Books.hits same).ge ?new (fun _ _ stood => stood)
    (fun k l stood => ⟨(sound.table k l stood).1, .inl stood⟩) (fun k l was _ => ?_)
    (fun k => locks ▸ sound.locks k) holds
  case new =>
    refine ⟨own.ready, fun _ => ?_, fun k l claim => own.claim k l ?_, computing,
      fun result ended => ?_⟩
    · rw [Caller.runs_moved view, Caller.hits_moved view, same]
      omega
    · rw [claimed, ← claims]
      exact claim
    · change stage = _ at ended
      rw [ended] at claims
      cases claims
  · rw [claims, ← claimed]
    exact was

/-- A turn in which a caller finds its key. -/
theorem finds (sound : f.Sound settings criteria I view old)
    (among : f.callers = before ++ caller :: after) (store : I service.store)
    (left : books view service =
      { (books view f.service) with hits := (books view f.service).hits + 1 })
    (under : ∀ result, caller.stage ≠ .ended result)
    (known : keyOf settings criteria caller.subject = .ok key)
    (there : (books view f.service).held key = some e) :
    Sound settings criteria I view old
      ⟨service, before ++ caller.moved (.ended (.ok e)) f.service service :: after, f.table,
        f.next + 1⟩ := by
  have own := sound.callers caller (by simp [among])
  obtain ⟨unrun, unhit⟩ := own.unspent under
  have runs : (books view service).runs = (books view f.service).runs := by rw [left]
  have hits : (books view service).hits = (books view f.service).hits + 1 := by rw [left]
  have locks : service.locks = f.service.locks := congrArg Books.locks left
  refine sound.quiet among store (by rw [left]) runs (hits ▸ Nat.le_succ _) ?new
    (fun _ _ stood => stood) (fun k l stood => ⟨(sound.table k l stood).1, .inl stood⟩)
    (fun k l claimed none => ?_) (fun k => locks ▸ sound.locks k) nofun
  case new =>
    refine ⟨own.ready, fun ended => absurd rfl (ended _), nofun, nofun, ?_⟩
    rintro _ ⟨⟩
    refine ⟨key, e, e, known, rfl, there, rfl, ?_⟩
    rw [Caller.runs_moved view, Caller.hits_moved view]
    omega
  · obtain ⟨known', -⟩ := own.claim k l claimed
    obtain rfl : k = key := by simpa using known'.symm.trans known
    exact nomatch none.symm.trans there

/-- The turn in which a caller is given the lock of its key. -/
theorem given (sound : f.Sound settings criteria I view old)
    (among : f.callers = before ++ caller :: after) (stage : caller.stage = .fresh)
    (store : I service.store)
    (left : books view service = { (books view f.service) with
      locks := if f.service.locks.contains key then f.service.locks
        else key :: f.service.locks })
    (known : keyOf settings criteria caller.subject = .ok key)
    (missing : (books view f.service).held key = none) :
    Sound settings criteria I view old
      ⟨service, before ++ caller.moved (.waiting key (f.lockFor key)) f.service service :: after,
        f.table.insert key (f.lockFor key), f.next + 1⟩ := by
  have own := sound.callers caller (by simp [among])
  obtain ⟨unrun, unhit⟩ := own.unspent fun result => by simp [stage]
  have runs : (books view service).runs = (books view f.service).runs := by rw [left]
  have hits : (books view service).hits = (books view f.service).hits := by rw [left]
  have locks : service.locks = if f.service.locks.contains key then f.service.locks
      else key :: f.service.locks := congrArg Books.locks left
  refine sound.quiet among store (by rw [left]) runs hits.ge ?new (fun _ _ => get?_given) ?added
    ?claims ?locks ?holds
  case new =>
    refine ⟨own.ready, fun _ => ?_, fun k l claimed => ?_, fun k l computes => ?_,
      fun result ended => ?_⟩
    · rw [Caller.runs_moved view, Caller.hits_moved view]
      omega
    · obtain ⟨rfl, rfl⟩ := Prod.mk.inj (Option.some.inj claimed)
      exact ⟨known, fun _ => by rw [Keyed.get?_insert, if_pos rfl]⟩
    · cases computes
    · cases ended
  case added =>
    intro k l stood
    rw [Keyed.get?_insert] at stood
    split at stood
    · next same =>
      subst same
      rw [Option.some.inj stood]
      exact ⟨missing, .inr rfl⟩
    · exact ⟨(sound.table k l stood).1, .inl stood⟩
  case claims =>
    intro k l claimed
    rw [stage] at claimed
    cases claimed
  case locks =>
    intro k
    rw [locks, mem_locked, sound.locks, Keyed.get?_insert]
    split
    · next same => simp [same]
    · next ne => simp [ne]
  case holds =>
    intro l holds
    cases holds

/-- The engine was run for a key that was not held, for the first time. -/
theorem once_settled (sound : f.Sound settings criteria I view old)
    (among : f.callers = before ++ caller :: after)
    (known : keyOf settings criteria caller.subject = .ok key)
    (missing : (books view f.service).held key = none) (unrun : caller.runs = 0) (new : Caller)
    (same : new.subject = caller.subject) (ran : new.runs = 1) (k : String) :
    runsOf settings criteria k (before ++ new :: after) =
      if old.held k = none ∧ Function.update (books view f.service).held key (some found) k ≠ none
      then 1 else 0 := by
  have total := runsOf_replace settings criteria k before after caller new same
  have counted := sound.once k
  rw [← among, ran, unrun] at total
  by_cases own : k = key
  · subst own
    have before := missing_before (sound.kept k) missing
    rw [if_pos ⟨before, by simp⟩]
    rw [if_neg (by simp [missing])] at counted
    rw [if_pos (asks_iff.2 known), if_pos (asks_iff.2 known)] at total
    omega
  · have not : ¬caller.asks settings criteria k = true := by
      rw [asks_iff, known, Except.ok.injEq]
      exact fun eq => own eq.symm
    rw [if_neg not, if_neg not] at total
    rw [Function.update_of_ne own]
    omega

/-- The turn in which a key is computed. -/
theorem settled (sound : f.Sound settings criteria I view old)
    (among : f.callers = before ++ caller :: after) (stage : caller.stage = .computing key lock)
    (store : I service.store)
    (left : books view service =
      { (books view f.service) with
        held := Function.update (books view f.service).held key (some found)
        runs := (books view f.service).runs + 1
        locks := (books view f.service).locks.filter (· != key) })
    (same : e.outline = found.outline) :
    Sound settings criteria I view old
      ⟨service, before ++ caller.moved (.ended (.ok e)) f.service service :: after,
        f.without key lock, f.next + 1⟩ := by
  have own := sound.callers caller (by simp [among])
  have missing := own.computing key lock stage
  obtain ⟨known, registered⟩ := own.claim key lock (by rw [stage]; rfl)
  obtain ⟨unrun, unhit⟩ := own.unspent fun result => by simp [stage]
  have table : f.without key lock = f.table.erase key := if_pos (registered missing)
  have held : (books view service).held =
      Function.update (books view f.service).held key (some found) := by rw [left]
  have runs : (books view service).runs = (books view f.service).runs + 1 := by rw [left]
  have hits : (books view service).hits = (books view f.service).hits := by rw [left]
  have locks : service.locks = f.service.locks.filter (· != key) := congrArg Books.locks left
  have ran : (caller.moved (.ended (.ok e)) f.service service).runs = 1 := by
    rw [Caller.runs_moved view]
    omega
  have kept : ∀ k e, (books view f.service).held k = some e →
      (books view service).held k = some e := fun k e was => held ▸ update_of_held missing was
  rw [table]
  refine sound.turn among store kept ?new ?others ?added ?claims ?locks nofun ?once
    (runs ▸ Nat.le_succ _) hits.ge
  case new =>
    refine ⟨own.ready, fun ended => absurd rfl (ended _), nofun, nofun, ?_⟩
    rintro _ ⟨⟩
    refine ⟨key, e, found, known, rfl, by rw [held, Function.update_self], same, ?_⟩
    rw [ran, Caller.hits_moved view]
    omega
  case others =>
    intro other member
    have theirs := sound.callers other (mem_of_others among member)
    refine theirs.mono kept (fun k l none stood => ?_) fun k l computes => ?_
    · rw [held] at none
      rw [Keyed.get?_erase, if_neg (ne_of_update_eq_none none), stood]
    · rw [held, Function.update_of_ne, theirs.computing k l computes]
      rintro rfl
      exact sound.computes_alone among stage member l computes
  case added =>
    intro k l stood
    rw [Keyed.get?_erase] at stood
    split at stood
    · cases stood
    · next ne =>
      rw [held, Function.update_of_ne ne]
      exact ⟨(sound.table k l stood).1, .inl stood⟩
  case claims =>
    intro k l claimed none
    rw [stage] at claimed
    obtain ⟨rfl, rfl⟩ := Prod.mk.inj (Option.some.inj claimed)
    rw [held] at none
    exact absurd rfl (ne_of_update_eq_none none)
  case locks =>
    intro k
    rw [locks, List.mem_filter, sound.locks, Keyed.get?_erase]
    split
    · next same => simp [same]
    · next ne => simp [ne]
  case once =>
    intro k
    rw [held]
    exact sound.once_settled among known missing unrun (caller.moved _ f.service service) rfl ran k

section Advance

variable [Store σ] {steady : σ → σ → Prop}
  (lasting : Store.Lasting settings.lifetime I view steady)

include lasting

/-- The first part of the evaluation of a caller, whose key is held or not. -/
theorem comes_begun (sound : f.Sound settings criteria I view old) (member : caller ∈ f.callers) :
    let first := attended criteria (embark settings criteria caller.subject true)
    ∃ key, keyOf settings criteria caller.subject = .ok key ∧
      ((∃ found, (books view f.service).held key = some found ∧
          Comes I view first f.service (.done found)
            { (books view f.service) with hits := (books view f.service).hits + 1 }) ∨
        (books view f.service).held key = none ∧
          Comes I view first f.service (.pending key) { (books view f.service) with
            locks := if f.service.locks.contains key then f.service.locks
              else key :: f.service.locks }) := by
  have ready := (sound.callers caller member).ready
  obtain ⟨key, known⟩ := ready.key
  refine ⟨key, known, ?_⟩
  cases held : (books view f.service).held key with
  | some found =>
    exact .inl ⟨found, rfl, .attended (fun _ inv kept =>
      comes_embark_found lasting ready.accepted known inv kept held) sound.store rfl⟩
  | none =>
    exact .inr ⟨rfl, .attended (fun _ inv kept =>
      comes_embark_missed lasting ready.accepted known inv kept held) sound.store rfl⟩

/-- A look-up under a lock, of a key that is held or not. -/
theorem comes_lookup (sound : f.Sound settings criteria I view old) (key : String) :
    (∃ found, (books view f.service).held key = some found ∧
        Comes I view (lookup key false) f.service (some found)
          { (books view f.service) with hits := (books view f.service).hits + 1 }) ∨
      (books view f.service).held key = none ∧
        Comes I view (lookup key false) f.service none (books view f.service) := by
  cases held : (books view f.service).held key with
  | some found => exact .inl ⟨found, rfl, comes_lookup_found lasting sound.store rfl held false⟩
  | none => exact .inr ⟨rfl, comes_lookup_missed lasting sound.store rfl held false⟩

/-- **A turn keeps a flight sound.** -/
theorem advance (sound : f.Sound settings criteria I view old)
    (among : f.callers = before ++ caller :: after)
    (advance : f.Advance settings criteria caller stage service table) :
    Sound settings criteria I view old
      ⟨service, before ++ caller.moved stage f.service service :: after, table, f.next + 1⟩ := by
  have member : caller ∈ f.callers := by simp [among]
  have own := sound.callers caller member
  cases advance with
  | @served e stage came =>
    obtain ⟨key, known, ⟨found, there, begun⟩ | ⟨-, begun⟩⟩ := sound.comes_begun lasting member
    · obtain rfl : found = e := by simpa using begun.result.symm.trans came
      exact sound.finds among begun.store begun.books (fun result => by simp [stage]) known there
    · cases begun.result.symm.trans came
  | refused stage came =>
    obtain ⟨key, known, ⟨found, there, begun⟩ | ⟨-, begun⟩⟩ := sound.comes_begun lasting member <;>
      cases begun.result.symm.trans came
  | @given key stage came =>
    obtain ⟨key', known, ⟨found, there, begun⟩ | ⟨missing, begun⟩⟩ :=
      sound.comes_begun lasting member
    · cases begun.result.symm.trans came
    · obtain rfl : key' = key := by simpa using begun.result.symm.trans came
      exact sound.given among stage begun.store begun.books known missing
  | @acquired key lock stage free =>
    refine sound.proceeds among sound.store rfl (by rw [stage]; rfl) rfl
      (fun k l computes => by cases computes) fun l holds => ?_
    obtain rfl : lock = l := by simpa [Stage.holds] using holds
    exact .inr free
  | @found key lock e stage came =>
    obtain ⟨known, -⟩ := own.claim key lock (by rw [stage]; rfl)
    obtain ⟨found, there, looked⟩ | ⟨-, looked⟩ := sound.comes_lookup lasting key
    · obtain rfl : found = e := by simpa using looked.result.symm.trans came
      have gone := sound.standing there
      rw [show f.without key lock = f.table from if_neg (by simp [gone])]
      refine sound.finds among looked.store ?_ (fun result => by simp [stage]) known there
      -- The lock of a key that is held was thrown away before.
      have locks : f.service.locks.filter (· != key) = f.service.locks :=
        List.filter_eq_self.2 fun k member => by
          rw [sound.locks] at member
          rw [bne_iff_ne]
          rintro rfl
          simp [gone] at member
      rw [books_depart, looked.books]
      exact congrArg (Books.mk _ · _ _) locks
    · cases looked.result.symm.trans came
  | @missed key lock stage came =>
    obtain ⟨found, there, looked⟩ | ⟨missing, looked⟩ := sound.comes_lookup lasting key
    · cases looked.result.symm.trans came
    · refine sound.proceeds among looked.store looked.books (by rw [stage]; rfl) rfl ?_ ?_
      · rintro _ _ ⟨⟩
        exact missing
      · intro l holds
        rw [stage]
        exact .inl holds
  | @broken key lock failure stage came =>
    obtain ⟨found, there, looked⟩ | ⟨-, looked⟩ := sound.comes_lookup lasting key <;>
      cases looked.result.symm.trans came
  | @settled key lock stage =>
    obtain ⟨known, -⟩ := own.claim key lock (by rw [stage]; rfl)
    have missing := missing_before (sound.kept key) (own.computing key lock stage)
    obtain ⟨e, text, direct, stored, readable⟩ := own.ready.readable key known missing
    obtain ⟨found, read⟩ := Option.isSome_iff_exists.1 readable
    have produced := comes_produce lasting direct stored sound.store rfl key
    rw [produced.result]
    have same := (Evaluation.outline_of_ofStored? stored read).symm
    refine sound.settled among stage produced.store ?_ same
    rw [books_depart, produced.books, read]

/-- Every step keeps a flight sound. -/
theorem step {f' : Flight σ} (sound : f.Sound settings criteria I view old)
    (step : Step settings criteria steady f f') : f'.Sound settings criteria I view old := by
  cases step with
  | turn among advance => exact sound.advance lasting among advance
  | @outside store happened =>
    obtain ⟨inv, same⟩ := lasting.steady _ _ sound.store happened
    have books : books view { f.service with store } = books view f.service := by
      simp only [books, same]
    exact {
      store := inv
      kept := books ▸ sound.kept
      callers := books ▸ sound.callers
      table := books ▸ sound.table
      locks := sound.locks
      exclusive := sound.exclusive
      once := books ▸ sound.once
      runs := books ▸ sound.runs
      hits := books ▸ sound.hits }

/-- **In whatever order callers have their turns**, a flight stays sound. -/
theorem reaches {f' : Flight σ} (sound : f.Sound settings criteria I view old)
    (reached : Reaches settings criteria steady f f') : f'.Sound settings criteria I view old := by
  induction reached with
  | refl => exact sound
  | tail _ step ih => exact ih.step lasting step

end Advance

/-- Nobody has begun, and no locks are left over. -/
theorem start {subjects : List Value} (inv : I service.store) (locks : service.locks = [])
    (ready : ∀ subject ∈ subjects, Ready settings criteria (books view service).held subject) :
    (start service subjects).Sound settings criteria I view (books view service) where
  store := inv
  kept _ _ was := was
  callers caller member := by
    obtain ⟨subject, asked, rfl⟩ := List.mem_map.1 member
    refine ⟨ready subject asked, fun _ => ⟨rfl, rfl⟩, nofun, nofun, fun result ended => ?_⟩
    cases ended
  table := nofun
  locks key := by simp [Flight.start, locks]
  exclusive lock := by simp [Flight.start, Function.comp_def, Caller.fresh, Stage.holds]
  once key := by
    rw [if_neg fun both => both.2 both.1]
    refine List.sum_eq_zero fun count member => ?_
    obtain ⟨_, started, rfl⟩ := List.mem_map.1 member
    obtain ⟨subject, -, rfl⟩ := List.mem_map.1 started
    exact ite_self 0
  runs := by simp [Flight.start, Function.comp_def, Caller.fresh]
  hits := by simp [Flight.start, Function.comp_def, Caller.fresh]

end Sound

/-- Whoever asks keeps asking for the same. -/
theorem subjects_of_reaches [Store σ] {steady : σ → σ → Prop} {f' : Flight σ}
    (reached : Reaches settings criteria steady f f') :
    f'.callers.map (·.subject) = f.callers.map (·.subject) := by
  induction reached with
  | refl => rfl
  | tail _ step ih =>
    rw [← ih]
    cases step with
    | turn among _ => simp [among, Caller.moved]
    | outside _ => rfl

end Flight

/-- What it comes to when subjects were evaluated at the same time, each by a caller of its own. -/
structure Landed (settings : Settings) (criteria : Criteria) (old now : Books)
    (subjects : List Value) (callers : List Caller) : Prop where
  asked : callers.map (·.subject) = subjects
  returned : ∀ caller ∈ callers, ∃ e, caller.stage = .ended (.ok e)
  /-- Callers that ask for the same key are told the same. -/
  agree : ∀ caller ∈ callers, ∀ other ∈ callers, ∀ key e e',
    keyOf settings criteria caller.subject = .ok key →
    keyOf settings criteria other.subject = .ok key →
    caller.stage = .ended (.ok e) → other.stage = .ended (.ok e') →
    e.passed = e'.passed ∧ e.score = e'.score ∧ e.decision = e'.decision
  /-- The engine was run once for a key that was not held, and not at all for one that was. -/
  once : ∀ caller ∈ callers, ∀ key, keyOf settings criteria caller.subject = .ok key →
    runsOf settings criteria key callers = if old.held key = none then 1 else 0
  /-- A caller for which the engine was not run had one look-up answered, and no other had. -/
  hit : ∀ caller ∈ callers, caller.hits = if caller.runs = 0 then 1 else 0
  runs : now.runs = old.runs + (newKeys settings criteria old.held subjects).card
  hits : now.hits + (newKeys settings criteria old.held subjects).card =
    old.hits + subjects.length
  locks : now.locks = []

/-- What the service has counted. -/
theorem Landed.counts {σ : Type} {view : σ → String → Option String} {settings : Settings}
    {criteria : Criteria} {s t : Service σ} {subjects : List Value} {callers : List Caller}
    (landed : Landed settings criteria (books view s) (books view t) subjects callers) :
    t.metrics.durationCount =
        s.metrics.durationCount + (newKeys settings criteria (books view s).held subjects).card ∧
      t.hits + (newKeys settings criteria (books view s).held subjects).card =
        s.hits + subjects.length ∧ t.locks = [] :=
  ⟨landed.runs, landed.hits, landed.locks⟩

namespace Flight.Sound

variable {σ : Type} {settings : Settings} {criteria : Criteria} {I : σ → Prop}
  {view : σ → String → Option String} {old : Books} {f : Flight σ} {caller : Caller} {key : String}
  {e : Evaluation}

/-- The key of a caller that has ended is held. -/
theorem held_of_ended (sound : f.Sound settings criteria I view old) (member : caller ∈ f.callers)
    (ended : caller.stage = .ended (.ok e))
    (known : keyOf settings criteria caller.subject = .ok key) :
    ∃ found, (books view f.service).held key = some found ∧ e.outline = found.outline := by
  obtain ⟨key', e', found, known', ⟨⟩, there, same, -⟩ :=
    (sound.callers caller member).ended _ ended
  obtain rfl : key' = key := by simpa using known'.symm.trans known
  exact ⟨found, there, same⟩

/-- The engine was run once for each new key. -/
theorem sum_runs_eq_card (sound : f.Sound settings criteria I view old)
    (returned : ∀ caller ∈ f.callers, ∃ e, caller.stage = .ended (.ok e)) :
    (f.callers.map (·.runs)).sum =
      (newKeys settings criteria old.held (f.callers.map (·.subject))).card := by
  have asked (key : String) : key ∈ ((f.callers.map (·.subject)).filterMap fun subject =>
        (keyOf settings criteria subject).toOption).toFinset ↔
      ∃ caller ∈ f.callers, caller.asks settings criteria key = true := by
    simp [Caller.asks]
  rw [newKeys, Finset.card_filter, sum_runs fun caller member => ?_]
  · refine Finset.sum_congr rfl fun key member => ?_
    obtain ⟨caller, member, asks⟩ := (asked key).1 member
    obtain ⟨e, ended⟩ := returned caller member
    obtain ⟨found, there, -⟩ := sound.held_of_ended member ended (asks_iff.1 asks)
    rw [sound.once key, there]
    simp
  · obtain ⟨key, known⟩ := (sound.callers caller member).ready.key
    exact ⟨key, (asked key).2 ⟨caller, member, asks_iff.2 known⟩, known⟩

/-- A sound flight whose callers have all ended. -/
theorem landed (sound : f.Sound settings criteria I view old) (finished : f.Finished) :
    Landed settings criteria old (books view f.service) (f.callers.map (·.subject)) f.callers := by
  have returned : ∀ caller ∈ f.callers, ∃ e, caller.stage = .ended (.ok e) := by
    intro caller member
    obtain ⟨result, ended⟩ := finished caller member
    obtain ⟨_, e, _, _, rfl, _⟩ := (sound.callers caller member).ended result ended
    exact ⟨e, ended⟩
  have spent : ∀ caller ∈ f.callers, caller.runs + caller.hits = 1 := by
    intro caller member
    obtain ⟨e, ended⟩ := returned caller member
    obtain ⟨_, _, _, _, _, _, _, spent⟩ := (sound.callers caller member).ended _ ended
    exact spent
  have runs := sound.sum_runs_eq_card returned
  have counted := sound.runs
  constructor
  case asked => rfl
  case returned => exact returned
  case agree =>
    intro caller member other member' key e e' known known' ended ended'
    obtain ⟨found, there, same⟩ := sound.held_of_ended member ended known
    obtain ⟨found', there', same'⟩ := sound.held_of_ended member' ended' known'
    obtain rfl : found = found' := Option.some.inj (there.symm.trans there')
    exact passed_of_outline (same.trans same'.symm)
  case once =>
    intro caller member key known
    obtain ⟨e, ended⟩ := returned caller member
    obtain ⟨found, there, -⟩ := sound.held_of_ended member ended known
    rw [sound.once key, there]
    simp
  case hit =>
    intro caller member
    have once := spent caller member
    split <;> omega
  case runs => omega
  case hits =>
    have all : (f.callers.map (·.runs)).sum + (f.callers.map (·.hits)).sum = f.callers.length := by
      rw [← List.sum_map_add, List.map_congr_left spent]
      simp
    have answered := sound.hits
    rw [List.length_map]
    omega
  case locks =>
    refine List.eq_nil_iff_forall_not_mem.2 fun key member => ?_
    obtain ⟨lock, stands⟩ := Option.isSome_iff_exists.1 ((sound.locks key).1 member)
    obtain ⟨-, caller, member, claimed⟩ := sound.table key lock stands
    obtain ⟨result, ended⟩ := finished caller member
    rw [ended] at claimed
    cases claimed

end Flight.Sound

/-- **Each key is computed once.** Subjects are evaluated at the same time, over a store that lasts.
In whatever order their callers have their turns, all of them can get to the end, and then all have
results; callers of one key were told the same, the engine was run once for each key that was not
held, every other caller had one look-up answered, and no locks are left.  A store that yields lets
gathered evaluations go one of these ways. -/
theorem single_flight {σ : Type} [Store σ] {settings : Settings} {criteria : Criteria}
    {I : σ → Prop} {view : σ → String → Option String} {steady : σ → σ → Prop}
    (lasting : Store.Lasting settings.lifetime I view steady) {service : Service σ}
    (inv : I service.store) (locks : service.locks = []) {subjects : List Value}
    (ready : ∀ subject ∈ subjects, Ready settings criteria (books view service).held subject) :
    (∀ useStore?, Store.yields service.store = true →
      useStore?.getD settings.storeResults = true →
      let gathered := gather settings (some criteria) useStore? subjects service
      ∃ callers results, gathered.result = .ok results ∧
        callers.map (·.stage) = results.map .ended ∧
        Landed settings criteria (books view service) (books view gathered.state) subjects
          callers) ∧
    ∀ f, Flight.Reaches settings criteria steady (.start service subjects) f →
      (∃ f', Flight.Reaches settings criteria steady f f' ∧ f'.Finished) ∧
      (f.Finished → Landed settings criteria (books view service) (books view f.service) subjects
        f.callers) := by
  have every : ∀ f, Flight.Reaches settings criteria steady (.start service subjects) f →
      f.Finished → Landed settings criteria (books view service) (books view f.service) subjects
        f.callers := by
    intro f reached finished
    have landed := ((Flight.Sound.start inv locks ready).reaches lasting reached).landed finished
    have asked : f.callers.map (·.subject) = subjects := by
      rw [Flight.subjects_of_reaches reached, Flight.start, List.map_map]
      exact List.map_id _
    rwa [asked] at landed
  refine ⟨fun useStore? yields through => ?_, fun f reached =>
    ⟨f.exists_finished settings criteria steady, every f reached⟩⟩
  obtain ⟨f, results, reached, came, left, stages⟩ :=
    Flight.exists_gather settings criteria steady service yields through subjects
  have finished : f.Finished := by
    intro caller member
    have stage : caller.stage ∈ f.callers.map (·.stage) := List.mem_map_of_mem member
    rw [stages] at stage
    obtain ⟨result, -, ended⟩ := List.mem_map.1 stage
    exact ⟨result, ended.symm⟩
  exact ⟨f.callers, results, came, stages, left ▸ every f reached finished⟩

/-- A subject that does not pass. -/
def seventeen : Value := .map [(.text "age", .int 17)]

/-- A service over a store that yields and holds nothing. -/
def yielding : Service Memory := { store := { yields := true } }

/-- One subject that is asked for once, and another that is asked for twice. -/
theorem single_flight_of_three :
    let gathered := gather {} (some adults) none [twenty, seventeen, seventeen] yielding
    Store.yields yielding.store = true ∧ yielding.locks = [] ∧
      gathered.state.metrics.durationCount = yielding.metrics.durationCount + 2 ∧
      gathered.state.hits = yielding.hits + 1 ∧ gathered.state.locks = [] := by
  have keeping : Memory.Keeping ({} : Settings).lifetime yielding.store :=
    Memory.keeping_of_isKeeping (by decide +kernel)
  have ready : ∀ subject ∈ [twenty, seventeen, seventeen],
      Ready {} adults (books Memory.live? yielding).held subject := by
    have checked : [twenty, seventeen, seventeen].all (isReady {} adults) = true := by
      decide +kernel
    exact fun subject asked => ready_of_isReady (List.all_eq_true.1 checked subject asked) _
  have new : (newKeys {} adults (books Memory.live? yielding).held
      [twenty, seventeen, seventeen]).card = 2 := by
    obtain ⟨first, known⟩ := (ready twenty (by simp)).key
    obtain ⟨second, known'⟩ := (ready seventeen (by simp)).key
    have apart : (keyOf {} adults twenty).toOption ≠ (keyOf {} adults seventeen).toOption := by
      decide +kernel
    rw [known, known'] at apart
    have nothing (key : String) : (books Memory.live? yielding).held key = none := rfl
    have distinct : first ≠ second := fun same => apart (same ▸ rfl)
    simp [newKeys, known, known', Except.toOption, nothing, distinct]
  obtain ⟨callers, results, came, stages, landed⟩ :=
    (single_flight (Memory.lasting _) keeping rfl ready).1 none rfl rfl
  obtain ⟨runs, hits, locks⟩ := landed.counts
  rw [new] at runs hits
  exact ⟨rfl, rfl, runs, Nat.add_right_cancel hits, locks⟩

end Service
end Eligibility
