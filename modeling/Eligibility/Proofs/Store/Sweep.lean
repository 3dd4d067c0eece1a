/-
# Sweeping a store behind a client

A sweep asks for a page of the keys that start with a text, removes it, and goes on behind it,
until the cursor comes back to zero.  The pages are cut from a snapshot, which is taken at cursor
zero and does not shrink as its keys are removed, so a cursor keeps its meaning and no key is
skipped.  What one page comes to (`Turn`) does not depend on the fuel that is left behind it; by
induction, a sweep removes a first part of what is left of the snapshot, and all of it when nothing
breaks off (`sweep_cases`), and more fuel than there are keys makes no difference (`sweep_fuel`).
-/

import Eligibility.Proofs.Store.Exchange

namespace Eligibility

namespace Client

/-! ### Keys -/

theorem nodup_keys (c : Client) : c.keys.Nodup := by
  refine List.Nodup.append c.values.nodup (c.sets.nodup.filter _) fun k valued set => ?_
  have valued : c.values.contains k = true := (c.values.mem_keys_iff k).1 valued
  simp [valued] at set

theorem mem_keys {c : Client} {k : String} : k ∈ c.keys ↔ c.has k := by
  unfold keys has
  rw [List.mem_append, List.mem_filter, Keyed.mem_keys_iff, Keyed.mem_keys_iff]
  cases c.values.contains k <;> simp

theorem nodup_keysFrom (c : Client) (start : String) : (c.keysFrom start).Nodup :=
  (List.mergeSort_perm _ _).nodup_iff.2 ((nodup_keys c).filter _)

theorem mem_keysFrom {c : Client} {start k : String} :
    k ∈ c.keysFrom start ↔ c.has k ∧ start.toList <+: k.toList := by
  unfold keysFrom
  rw [mem_sorted, List.mem_filter, List.isPrefixOf_iff_prefix, mem_keys]

theorem length_keysFrom_le (c : Client) (start : String) :
    (c.keysFrom start).length ≤ c.keys.length :=
  (List.length_mergeSort _).trans_le (List.length_filter_le _ _)

theorem card_present_keysFrom (c : Client) (start : String) :
    (c.present (c.keysFrom start)).card = (c.keysFrom start).length := by
  have all : c.present (c.keysFrom start) = (c.keysFrom start).toFinset :=
    Finset.filter_true_of_mem fun k member => (mem_keysFrom.1 (List.mem_toFinset.1 member)).1
  rw [all, List.toFinset_card_of_nodup (nodup_keysFrom c start)]

theorem Without.has {keys : List String} {c d : Client} (h : Without keys c d) (k : String) :
    d.has k = (decide (k ∉ keys) && c.has k) := by
  unfold Client.has Keyed.contains
  rw [h.values, h.sets]
  by_cases member : k ∈ keys <;> simp [member]

theorem Without.card_present {first rest : List String} {c d : Client} (h : Without first c d) :
    (c.present (first ++ rest)).card = (c.present first).card + (d.present rest).card := by
  have apart : Disjoint (c.present first) (d.present rest) := by
    rw [Finset.disjoint_left]
    intro k inFirst inRest
    simp only [present, Finset.mem_filter, List.mem_toFinset, h.has] at inFirst inRest
    simp [inFirst.1] at inRest
  rw [← Finset.card_union_of_disjoint apart]
  congr 1
  ext k
  simp only [present, Finset.mem_union, Finset.mem_filter, List.mem_toFinset, List.mem_append, h.has]
  by_cases inFirst : k ∈ first <;> simp [inFirst]

end Client

namespace Shared

open Client

variable {start : String} {cursor : Nat} {c : Client}

/-! ### Pages -/

/-- The keys that a scan goes through: those that are there when it begins. -/
def scanned (start : String) (cursor : Nat) (c : Client) : List String :=
  (c.beginScan cursor start).snapshot

theorem scanned_still {c d : Client} (still : Still c d) (start : String) (cursor : Nat) :
    scanned start cursor d = scanned start cursor c := by
  have keys : d.keysFrom start = c.keysFrom start := by
    unfold keysFrom Client.keys
    rw [still.values, still.sets]
  unfold scanned beginScan
  split
  · exact keys
  · exact still.snapshot

theorem without_beginScan (c : Client) (start : String) (cursor : Nat) :
    Without [] c (c.beginScan cursor start) := by
  unfold beginScan
  split
  · exact ⟨fun k => by simp, fun k => by simp⟩
  · exact Still.without ⟨rfl, rfl, rfl, rfl⟩

theorem present_beginScan (c : Client) (start : String) (cursor : Nat) (keys : List String) :
    (c.beginScan cursor start).present keys = c.present keys := by
  unfold beginScan
  split <;> rfl

theorem scan_cases (cursor : Nat) (start : String) (count : Nat) (c : Client) :
    ∃ d, Still c d ∧ ((∃ fault, scan cursor start count c = ⟨.error fault, d, []⟩) ∨
      ∃ events, scan cursor start count c =
        ⟨.ok ((d.beginScan cursor start).nextCursor cursor,
          (d.beginScan cursor start).pageAt cursor), d.beginScan cursor start, events⟩) := by
  obtain ⟨d, still, -, refused | obeyed⟩ := give_cases (.scan cursor start count)
    (Action.ofPair fun c =>
      let c := c.beginScan cursor start
      ((c.nextCursor cursor, c.pageAt cursor), c)) c
  · exact ⟨d, still, .inl refused⟩
  · exact ⟨d, still, .inr ⟨_, obeyed⟩⟩

/-- What is left of the keys that a scan goes through. -/
def ahead (start : String) (cursor : Nat) (c : Client) : List String :=
  (scanned start cursor c).drop cursor

/-- What a sweep comes to at a page, whatever the fuel that it has left behind it. -/
inductive Turn (start : String) (cursor : Nat) (c : Client) : Prop where
  /-- The page was not read, or not removed. -/
  | refused (fault : ClientFault) (d : Client) (events : List Event) (same : Without [] c d)
      (comes : ∀ fuel, sweep start (fuel + 1) cursor c = ⟨.error fault, d, events⟩)
  /-- The page was the last. -/
  | last (d : Client) (events : List Event) (gone : Without (ahead start cursor c) c d)
      (comes : ∀ fuel, sweep start (fuel + 1) cursor c =
        ⟨.ok (c.present (ahead start cursor c)).card, d, events⟩)
  /-- There is more behind the page. -/
  | next (page : Nat) (d : Client) (events : List Event) (some : 0 < page)
      (inside : cursor + page < (scanned start cursor c).length)
      (gone : Without ((ahead start cursor c).take page) c d)
      (on : scanned start (cursor + page) d = scanned start cursor c)
      (comes : ∀ fuel, sweep start (fuel + 1) cursor c =
        let rest := sweep start fuel (cursor + page) d
        ⟨rest.result.map ((c.present ((ahead start cursor c).take page)).card + ·), rest.state,
          events ++ rest.events⟩)

theorem turn (start : String) (cursor : Nat) (c : Client) : Turn start cursor c := by
  obtain ⟨d, still, ⟨fault, refused⟩ | ⟨events, read⟩⟩ := scan_cases cursor start scanCount c
  · exact .refused fault d [] still.without fun fuel => Action.bind_of_eq_error refused
  have begun : Without [] c (d.beginScan cursor start) :=
    still.without.trans (without_beginScan d start cursor)
  have same : (d.beginScan cursor start).snapshot = scanned start cursor c :=
    scanned_still still start cursor
  have present (keys : List String) : (d.beginScan cursor start).present keys = c.present keys :=
    (present_beginScan d start cursor keys).trans (still.present keys)
  have some := (d.beginScan cursor start).page_pos
  generalize d.beginScan cursor start = e at read begun same present some
  have first : e.pageAt cursor = (ahead start cursor c).take e.page := by
    rw [pageAt, ahead, same]
  rw [first] at read
  have cases := removeAny_cases ((ahead start cursor c).take e.page) e
  rcases removed : removeAny ((ahead start cursor c).take e.page) e with ⟨result, t, more⟩
  rw [removed, present] at cases
  obtain ⟨snapshot, -, ⟨⟨fault, rfl⟩, gone⟩ | ⟨rfl, gone⟩⟩ := cases
  · refine .refused fault t (events ++ more) (begun.trans gone) fun fuel => ?_
    rw [sweep, Action.bind_of_eq_ok read]
    dsimp only
    rw [Action.bind_of_eq_error removed]
  replace gone := begun.trans gone
  by_cases inside : cursor + e.page < (scanned start cursor c).length
  · have next : e.nextCursor cursor = cursor + e.page := by rw [nextCursor, same, if_pos inside]
    have on : scanned start (cursor + e.page) t = scanned start cursor c := by
      rw [← same, ← snapshot, scanned, beginScan, if_neg (by omega)]
    refine .next e.page t (events ++ more) some inside gone on fun fuel => ?_
    rw [sweep, Action.bind_of_eq_ok read]
    dsimp only
    rw [Action.bind_of_eq_ok removed, next, if_neg (by omega), Action.bind_apply]
    cases (sweep start fuel (cursor + e.page) t).result <;> simp [Except.map]
  · have next : e.nextCursor cursor = 0 := by rw [nextCursor, same, if_neg inside]
    have whole : (ahead start cursor c).take e.page = ahead start cursor c := by
      rw [List.take_of_length_le]
      rw [ahead, List.length_drop]
      omega
    rw [whole] at gone removed read
    refine .last t (events ++ more) gone fun fuel => ?_
    rw [sweep, Action.bind_of_eq_ok read]
    dsimp only
    rw [Action.bind_of_eq_ok removed, next, if_pos rfl]
    simp

theorem take_append_ahead {page : Nat} {d : Client}
    (on : scanned start (cursor + page) d = scanned start cursor c) :
    (ahead start cursor c).take page ++ ahead start (cursor + page) d = ahead start cursor c := by
  unfold ahead
  rw [on, ← List.drop_drop, List.take_append_drop]

/-- A sweep removes a first part of what is ahead, and when nothing breaks off, all of it; it counts
what there was.  Behind a page there is less ahead, so there is enough fuel for all pages. -/
theorem sweep_cases (start : String) (fuel cursor : Nat) (c : Client)
    (enough : (scanned start cursor c).length ≤ cursor + (fuel + 1)) : ∃ keys,
      keys <+: ahead start cursor c ∧ Without keys c (sweep start (fuel + 1) cursor c).state ∧
        ∀ count, (sweep start (fuel + 1) cursor c).result = .ok count →
          keys = ahead start cursor c ∧ count = (c.present keys).card := by
  induction fuel using Nat.strong_induction_on generalizing cursor c with
  | h fuel ih =>
    cases turn start cursor c with
    | refused fault d events same comes =>
      rw [comes]
      exact ⟨[], List.nil_prefix, same, fun _ no => by cases no⟩
    | last d events gone comes =>
      rw [comes]
      exact ⟨_, List.prefix_rfl, gone, fun _ came => ⟨rfl, (Except.ok.inj came).symm⟩⟩
    | next page d events some inside gone on comes =>
      obtain ⟨less, rfl⟩ : ∃ less, fuel = less + 1 := ⟨fuel - 1, by omega⟩
      have whole := take_append_ahead on
      obtain ⟨keys, first, gone', all⟩ :=
        ih less (Nat.lt_succ_self less) (cursor + page) d (by rw [on]; omega)
      rw [comes]
      dsimp only
      refine ⟨(ahead start cursor c).take page ++ keys, ?_, gone.trans gone', fun count came => ?_⟩
      · rw [← List.prefix_append_right_inj ((ahead start cursor c).take page), whole] at first
        exact first
      · cases rest : (sweep start (less + 1) (cursor + page) d).result with
        | error fault =>
          rw [rest] at came
          cases came
        | ok more =>
          rw [rest] at came
          obtain ⟨rfl, counted⟩ := all more rest
          refine ⟨whole, ?_⟩
          rw [gone.card_present, ← counted]
          exact (Except.ok.inj came).symm

/-- The fuel of a sweep does not run out: with more of it, the sweep comes to the same. -/
theorem sweep_fuel (start : String) (fuel more cursor : Nat) (c : Client)
    (enough : (scanned start cursor c).length ≤ cursor + (fuel + 1)) :
    sweep start (fuel + more + 1) cursor c = sweep start (fuel + 1) cursor c := by
  induction fuel using Nat.strong_induction_on generalizing cursor c with
  | h fuel ih =>
    cases turn start cursor c with
    | refused fault d events same comes => rw [comes, comes]
    | last d events gone comes => rw [comes, comes]
    | next page d events some inside gone on comes =>
      obtain ⟨less, rfl⟩ : ∃ less, fuel = less + 1 := ⟨fuel - 1, by omega⟩
      have same := ih less (Nat.lt_succ_self less) (cursor + page) d (by rw [on]; omega)
      rw [show less + more + 1 = less + 1 + more by omega] at same
      rw [comes, comes, same]

theorem foretold_sweep (start : String) (fuel cursor : Nat) :
    Foretold (sweep start fuel cursor) := by
  induction fuel generalizing cursor with
  | zero => exact foretold_pure 0
  | succ fuel ih =>
    refine (foretold_scan _ _ _).bind fun page => (foretold_removeAny _).bind fun count => ?_
    split
    · exact foretold_pure _
    · exact (ih _).bind fun _ => foretold_pure _

/-! ### Sweeping a space -/

theorem scanned_zero (start : String) (c : Client) : scanned start 0 c = c.keysFrom start := rfl

/-- A sweep of a space ends with the last page, however much fuel it is given. -/
theorem sweepAll_eq (s : Shared) (c : Client) {fuel : Nat} (enough : c.keys.length < fuel) :
    sweepAll s c = sweep (s.keyOf "") fuel 0 c := by
  obtain ⟨more, rfl⟩ := Nat.exists_eq_add_of_lt enough
  refine (sweep_fuel (s.keyOf "") c.keys.length more 0 c ?_).symm
  rw [scanned_zero]
  exact (length_keysFrom_le c _).trans (by omega)

/-- A sweep of a space removes and counts some of its keys, and when it comes to its end, all. -/
theorem sweepAll_cases (s : Shared) (c : Client) : ∃ keys,
    keys <+: c.keysFrom (s.keyOf "") ∧ Without keys c (sweepAll s c).state ∧
      ∀ count, (sweepAll s c).result = .ok count →
        keys = c.keysFrom (s.keyOf "") ∧ count = keys.length := by
  have enough : (scanned (s.keyOf "") 0 c).length ≤ 0 + (c.keys.length + 1) := by
    rw [scanned_zero]
    exact (length_keysFrom_le c _).trans (by omega)
  obtain ⟨keys, first, gone, all⟩ := sweep_cases (s.keyOf "") c.keys.length 0 c enough
  rw [← sweepAll_eq s c (Nat.lt_succ_self _)] at gone all
  refine ⟨keys, first, gone, fun count came => ?_⟩
  obtain ⟨whole, counted⟩ := all count came
  refine ⟨whole, counted.trans ?_⟩
  rw [whole]
  exact card_present_keysFrom c _

/-- When a sweep of a space comes to its end, it has no key left. -/
theorem sweepAll_gone {s : Shared} (ended : ∃ count, (sweepAll s c).result = .ok count) {k : String}
    (starts : (s.keyOf "").toList <+: k.toList) :
    (sweepAll s c).state.values.get? k = none ∧ (sweepAll s c).state.sets.get? k = none := by
  obtain ⟨count, came⟩ := ended
  obtain ⟨keys, -, gone, all⟩ := sweepAll_cases s c
  obtain ⟨rfl, -⟩ := all count came
  rw [gone.values, gone.sets]
  split
  · exact ⟨rfl, rfl⟩
  · next absent =>
    rw [mem_keysFrom] at absent
    simpa [has, Keyed.contains, starts] using absent

theorem foretold_sweepAll (s : Shared) : Foretold (sweepAll s) :=
  (foretold_of_silent fun c => ⟨rfl, rfl, c, rfl⟩).bind fun _ => foretold_sweep _ _ _

end Shared
end Eligibility
