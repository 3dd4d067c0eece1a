/-
# A store in memory as a map with times

As long as its clock does not go back, a store in memory answers as a map would that keeps all puts
with their times: a look-up finds the last put of a key when nothing has ended it and its time is
not over (`Memory.refines_replay`).  That entries which are over are removed only when they are
looked up does not show, since what is over stays over.  For the same reason calls that only look
change no answer of a later one.
-/

import Eligibility.Proofs.Double.Order
import Eligibility.Proofs.Store.Calls

namespace Eligibility

theorem Double.isFinite_of_ofInt? {n : Int} {x : Double} (found : ofInt? n = .ok x) :
    x.isFinite := by
  unfold ofInt? at found
  split at found
  · cases found
  · next notInfinite =>
    obtain rfl := Except.ok.inj found
    unfold ofInt ofUnits at notInfinite ⊢
    split
    · rfl
    · next large =>
      rw [dif_neg large] at notInfinite
      exact absurd rfl (notInfinite _)

namespace Memory

variable {m : Memory} {history : History} {key value : String} {entry : Entry} {put : Put}
  {now : Double}

/-- The times of a history do not go back, and it is now no earlier than any of them. -/
def Rising (history : History) (now : Double) : Prop :=
  (history.map (·.1) ++ [now]).Pairwise fun s t => s.le t

theorem Rising.le (rising : Rising history now) {time : Double} (past : time ∈ history.map (·.1)) :
    time.le now :=
  (List.pairwise_append.1 rising).2.2 time past now (by simp)

/-- A put that stands has been made. -/
theorem PutThen.mem {quiet : Call → Prop} (made : PutThen quiet history key put) :
    put.time ∈ history.map (·.1) := by
  obtain ⟨before, after, rfl, -⟩ := made
  simp [Put.call]

/-- An entry is over exactly when it does not end later than now. -/
theorem isOver_eq (rising : Rising history now) (stands : Stands history key put)
    (left : put.left? = some entry) : entry.isOver now = !now.lt entry.expires := by
  have expires : put.expires? = some entry.expires := (Put.parts_of_left? left).2.2
  have time := rising.le stands.mem
  have number : entry.expires ≠ .nan := by
    unfold Put.expires? at expires
    split at expires
    · next seconds found =>
      rw [← Option.some.inj expires]
      exact Double.add_ne_nan (Double.ne_nan_of_le time).1 (Double.isFinite_of_ofInt? found)
    · cases expires
  exact Double.le_eq_not_lt (Double.ne_nan_of_le time).2 number

theorem isLive_eq (left : put.left? = some entry) : put.isLive now = now.lt entry.expires := by
  rw [Put.isLive, (Put.parts_of_left? left).2.2, Option.any_some]

/-! ### Look-ups -/

theorem get_fst (m : Memory) (key : String) :
    (m.get key).1 = ((m.entries.get? key).filter fun entry => !entry.isOver m.now).map (·.value) := by
  have found : (m.get key).1 = m.live? key := by
    unfold get
    split
    · next live => exact live.symm
    · next dead => exact dead.symm
  rw [found, live?]
  cases m.entries.get? key with
  | none => rfl
  | some entry => cases ended : entry.isOver m.now <;> simp [Option.filter, ended]

/-- **A look-up answers from the map.**  What has been removed in the meantime was over, and what is
over stays over. -/
theorem get_replay (rising : Rising history now) (key : String) :
    (((replay history).clockAt now).get key).1 =
      ((table history key).filter fun entry => !entry.isOver now).map (·.value) := by
  have answer := get_fst ((replay history).clockAt now) key
  change _ = (((replay history).entries.get? key).filter fun entry => !entry.isOver now).map _ at answer
  rw [answer]
  rcases represents_replay history key with same | ⟨none, entry, time, there, past, ended⟩
  · rw [same]
  · have still : entry.isOver now := Double.le_trans ended (rising.le past)
    rw [none, there]
    simp [Option.filter, still]

theorem get_replay_eq_some (rising : Rising history now) (key value : String) :
    (((replay history).clockAt now).get key).1 = some value ↔
      ∃ put, Stands history key put ∧ put.value = value ∧ put.isLive now := by
  rw [get_replay rising]
  constructor
  · intro found
    obtain ⟨entry, kept, rfl⟩ := Option.map_eq_some_iff.1 found
    obtain ⟨there, standing⟩ := Option.filter_eq_some_iff.1 kept
    obtain ⟨put, stands, left⟩ := table_eq_some.1 there
    rw [isOver_eq rising stands left, Bool.not_not] at standing
    exact ⟨put, stands, (Put.parts_of_left? left).1.symm, (isLive_eq left).trans standing⟩
  · rintro ⟨put, stands, rfl, live⟩
    obtain ⟨entry, left⟩ : ∃ entry, put.left? = some entry := by
      unfold Put.isLive at live
      unfold Put.left?
      cases ends : put.expires? with
      | none => rw [ends] at live; cases live
      | some expires => exact ⟨_, rfl⟩
    have standing : (!entry.isOver now) = true := by
      rw [isOver_eq rising stands left, Bool.not_not, ← isLive_eq left]
      exact live
    refine Option.map_eq_some_iff.2 ⟨entry, Option.filter_eq_some_iff.2 ⟨?_, standing⟩, ?_⟩
    · exact table_eq_some.2 ⟨put, stands, left⟩
    · exact (Put.parts_of_left? left).1

/-! ### The number of entries -/

/-- The number of entries that a description of a store shows. -/
def shownEntries (m : Memory) : Except Failure (Option Value) :=
  (fun shown => shown.lookup "entries") <$> (Store.stats m).result

/-- **The entries shown are the keys that a look-up finds.** -/
theorem exists_found_keys (rising : Rising history now) :
    ∃ keys : List String, keys.Nodup ∧
      (∀ key, key ∈ keys ↔ ∃ value, (((replay history).clockAt now).get key).1 = some value) ∧
      shownEntries ((replay history).clockAt now) = .ok (some (.int keys.length)) := by
  let kept := (replay history).entries.toList.filter fun p => now.lt p.2.expires
  refine ⟨kept.map (·.1), ?_, fun key => ?_, ?_⟩
  · exact (List.filter_sublist.map Prod.fst).nodup (replay history).entries.nodup
  · have listed : key ∈ kept.map (·.1) ↔
        ∃ entry, (replay history).entries.get? key = some entry ∧ now.lt entry.expires := by
      simp only [kept, List.mem_map, List.mem_filter, Prod.exists, exists_and_right,
        exists_eq_right, Keyed.mem_toList_iff]
    have answer := get_fst ((replay history).clockAt now) key
    change _ = (((replay history).entries.get? key).filter fun entry => !entry.isOver now).map _
      at answer
    rw [listed, answer]
    constructor
    · rintro ⟨entry, there, later⟩
      obtain ⟨put, stands, left⟩ := stands_of_entry there
      refine ⟨entry.value, ?_⟩
      rw [there, Option.filter_some, isOver_eq rising stands left, later]
      rfl
    · rintro ⟨value, found⟩
      obtain ⟨entry, kept, -⟩ := Option.map_eq_some_iff.1 found
      obtain ⟨there, standing⟩ := Option.filter_eq_some_iff.1 kept
      obtain ⟨put, stands, left⟩ := stands_of_entry there
      rw [isOver_eq rising stands left, Bool.not_not] at standing
      exact ⟨entry, there, standing⟩
  · have count : ((replay history).clockAt now).liveCount = (kept.map (·.1)).length := by
      rw [List.length_map]
      exact List.countP_eq_length_filter
    rw [← count]
    rfl

/-! ### Calls that only look -/

/-- The calls of a history that do more than look. -/
def writes (history : History) : History := history.filter fun call => !call.2.isRead

/-- Calls that only look leave the map as it is. -/
theorem table_writes (history : History) (key : String) :
    table (writes history) key = table history key := by
  induction history using List.reverseRecOn with
  | nil => rfl
  | append_singleton history last ih =>
    obtain ⟨time, call⟩ := last
    rw [writes, List.filter_append, table_concat]
    cases read : call.isRead with
    | true =>
      have kept : call.updated time key (table history key) = table history key := by
        cases call <;> first | rfl | cases read
      rw [kept, List.filter_cons_of_neg (by simp [read]), List.filter_nil, List.append_nil]
      exact ih
    | false =>
      rw [List.filter_cons_of_pos (by simp [read]), List.filter_nil, table_concat]
      rw [← ih]
      rfl

/-- **A store in memory is a map with times.**  While the clock does not go back, a look-up finds
the last put of a key unless something has ended it or its time is over, and `holds` agrees.  The
entries shown are as many as there are keys that a look-up finds.  Of the calls in its history all
this depends on those that do more than look. -/
theorem refines_replay (rising : Rising history now) :
    let m := (replay history).clockAt now
    (∀ key, ∃ answer, (Store.get key m).result = .ok answer ∧
      (∀ value, answer = some value ↔
        ∃ put, Stands history key put ∧ put.value = value ∧ put.isLive now) ∧
      (Store.holds key m).result = .ok answer.isSome) ∧
    (∃ keys : List String, keys.Nodup ∧
      (∀ key, key ∈ keys ↔ ∃ value, (Store.get key m).result = .ok (some value)) ∧
      shownEntries m = .ok (some (.int keys.length))) ∧
    ∀ history', Rising history' now → writes history' = writes history →
      let m' := (replay history').clockAt now
      (∀ key, (Store.get key m').result = (Store.get key m).result ∧
        (Store.holds key m').result = (Store.holds key m).result) ∧
      shownEntries m' = shownEntries m := by
  intro m
  have result (m : Memory) (key : String) : (Store.get key m).result = .ok (m.get key).1 := rfl
  refine ⟨fun key => ⟨(m.get key).1, rfl, get_replay_eq_some rising key, rfl⟩, ?_, ?_⟩
  · obtain ⟨keys, nodup, found, shown⟩ := exists_found_keys rising
    refine ⟨keys, nodup, fun key => (found key).trans (exists_congr fun value => ?_), shown⟩
    rw [result, Except.ok.injEq]
  · intro history' rising' same m'
    have answer (key : String) : (m'.get key).1 = (m.get key).1 := by
      rw [get_replay rising', get_replay rising, ← table_writes history', same, table_writes]
    refine ⟨fun key => ⟨congrArg Except.ok (answer key), ?_⟩, ?_⟩
    · exact congrArg (fun answer : Option String => Except.ok answer.isSome) (answer key)
    · obtain ⟨keys, nodup, found, shown⟩ := exists_found_keys rising
      obtain ⟨keys', nodup', found', shown'⟩ := exists_found_keys rising'
      have many : keys'.Perm keys := by
        refine (List.perm_ext_iff_of_nodup nodup' nodup).2 fun key => ?_
        rw [found, found', answer]
      rw [shown, shown', many.length_eq]

/-- The put of the second of two keys. -/
def secondPut : Put := { time := .ofNat 1040, value := "2", lifetime := 60, tags := ["t"] }

/-- Two puts of a minute each, and a look-up at the end of the first. -/
def visits : History :=
  [(.ofNat 1000, .put "a" "1" 60 ["t"]), secondPut.call "b", (.ofNat 1060, .get "a")]

/-- The requirements can be met: at the end of the first minute the second entry is found. -/
theorem refines_replay_visits :
    let m := (replay visits).clockAt (.ofNat 1060)
    Rising visits (.ofNat 1060) ∧ (Store.get "b" m).result = .ok (some "2") ∧
      (Store.holds "b" m).result = .ok true := by
  intro m
  have rising : Rising visits (.ofNat 1060) := by
    unfold Rising
    decide +kernel
  have stands : Stands visits "b" secondPut := by
    refine ⟨[(.ofNat 1000, .put "a" "1" 60 ["t"])], [(.ofNat 1060, .get "a")], rfl, ?_⟩
    intro later member
    rw [List.mem_singleton.1 member]
    rfl
  have live : secondPut.isLive (.ofNat 1060) := by decide +kernel
  obtain ⟨answer, looked, found, held⟩ := (refines_replay rising).1 "b"
  have some := (found "2").2 ⟨secondPut, stands, rfl, live⟩
  rw [some] at looked held
  exact ⟨rising, looked, held⟩

end Memory
end Eligibility
