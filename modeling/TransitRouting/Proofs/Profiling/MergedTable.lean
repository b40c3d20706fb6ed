import Mathlib
import TransitRouting.Profiling.Registry

/-!
# The merged profiling table

Each worker appends its entries to its own shard, and the table is the concatenation of the
shards, worker by worker, stably sorted by the simulation clock. This module shows what that
table holds after any sequence of recordings, whatever the interleaving of the workers that made
them: exactly the entries recorded for a worker the registry has (none when profiling is off),
each as often as it was recorded, ordered by the clock, then by worker, then by the order in
which they were recorded. The entry count and the count the table reports are their number.

The tie-break by worker is not asked of the sort: it holds because the concatenation is
worker-major, each shard holds one worker's entries in recording order, and the sort moves no
two entries that the clock cannot tell apart (`filter_mergeSort_of_tied`).

## What this module delivers

- `filter_mergeSort_of_tied`: stable sorting keeps every group of tied elements in input order.
- `ProfilingRegistry.record_run`: the shards after a sequence of recordings.
- `ProfilingRegistry.entriesSorted_recorded`: the merged table is the recorded entries, sorted
  by clock and worker, in recording order among ties; `len` and `table` count them.
-/

set_option autoImplicit false

namespace TransitRouting

/-! ## Stable sorting -/

section StableSort

variable {α : Type} {le : α → α → Bool}

/-- Sorting keeps, in their input order, elements that the order cannot tell apart: a group
selected by `q` whose members are all related to each other is the same list before and after
the sort. -/
theorem filter_mergeSort_of_tied (trans : ∀ a b c, le a b → le b c → le a c)
    (total : ∀ a b, le a b || le b a) {q : α → Bool} (htied : ∀ a b, q a → q b → le a b)
    (l : List α) : (l.mergeSort le).filter q = l.filter q := by
  have hgroup : (l.filter q).Pairwise fun a b => le a b :=
    List.pairwise_iff_forall_sublist.2 fun {a b} hab =>
      htied a b (List.of_mem_filter (hab.subset (by simp : a ∈ [a, b])))
        (List.of_mem_filter (hab.subset (by simp : b ∈ [a, b])))
  -- the group is a sublist of the sorted list, and no longer than the group there
  have hsub : (l.filter q).Sublist ((l.mergeSort le).filter q) := by
    simpa [List.filter_filter] using
      (List.sublist_mergeSort trans total hgroup List.filter_sublist).filter q
  have hlen : (l.filter q).length = ((l.mergeSort le).filter q).length :=
    ((List.mergeSort_perm l le).filter q).length_eq.symm
  exact (hsub.eq_of_length hlen).symm

/-- Filtering twice is filtering once when the second filter implies the first. -/
theorem filter_filter_of_imp {p q : α → Bool} (h : ∀ a, q a → p a) (l : List α) :
    (l.filter p).filter q = l.filter q := by
  rw [List.filter_filter]
  exact List.filter_congr fun a _ => by cases hqa : q a <;> simp [hqa, h a]

/-- Filtering twice leaves nothing when the second filter excludes the first. -/
theorem filter_filter_of_disjoint {p q : α → Bool} (h : ∀ a, q a → p a = false) (l : List α) :
    (l.filter p).filter q = [] := by
  rw [List.filter_filter, List.filter_eq_nil_iff]
  intro a _
  cases hqa : q a <;> simp [hqa, h a]

end StableSort

namespace ProfilingRegistry

/-! ## Recording -/

/-- The shard of worker `i` after recording `es` into an empty enabled registry: the entries for
that worker, in recording order. -/
def shardOf (es : List ProfilingEntry) (i : Nat) : List ProfilingEntry :=
  es.filter fun e => e.workerId = i

/-- A disabled registry ignores every entry. -/
theorem record_disabled {r : ProfilingRegistry} (h : r.enabled = false) (e : ProfilingEntry) :
    r.record e = r := by
  simp [record, h]

/-- Recording one more entry into enabled shards that hold each worker's earlier entries
appends it to its own worker's shard, and to no shard for a worker the registry lacks. -/
theorem record_step (w : Nat) (es : List ProfilingEntry) (e : ProfilingEntry) :
    record ⟨true, (List.range w).map (shardOf es)⟩ e =
      ⟨true, (List.range w).map (shardOf (es ++ [e]))⟩ := by
  unfold record
  split
  · rename_i hlt
    simp only [Bool.true_and, List.length_map, List.length_range, decide_eq_true_eq] at hlt
    simp only [mk.injEq, true_and]
    apply List.ext_getElem (by simp)
    intro i h₁ h₂
    simp only [List.getElem_modify, List.getElem_map, List.getElem_range, shardOf,
      List.filter_append]
    by_cases hi : e.workerId = i <;> simp [hi]
  · rename_i hge
    simp only [Bool.true_and, List.length_map, List.length_range, decide_eq_true_eq] at hge
    simp only [mk.injEq, true_and]
    apply List.map_congr_left
    intro i hi
    -- the entry's worker is beyond every shard, so no shard gains it
    have hne : e.workerId ≠ i := by
      simp only [List.mem_range] at hi
      omega
    simp [shardOf, List.filter_append, hne]

/-- After any sequence of recordings into a new enabled registry, the shard of each worker holds
that worker's entries in recording order. -/
theorem record_run (w : Nat) (es : List ProfilingEntry) :
    es.foldl record (create w true) = ⟨true, (List.range w).map (shardOf es)⟩ := by
  induction es using List.reverseRecOn with
  | nil =>
    have hempty : shardOf [] = fun _ => [] := funext fun _ => rfl
    simp [create, hempty, List.map_const']
  | append_singleton es e ih => rw [List.foldl_append, ih, List.foldl_cons, List.foldl_nil,
      record_step]

/-- A disabled registry stays empty. -/
theorem record_run_disabled (w : Nat) (es : List ProfilingEntry) :
    es.foldl record (create w false) = create w false := by
  induction es using List.reverseRecOn with
  | nil => rfl
  | append_singleton es e ih =>
    rw [List.foldl_append, ih, List.foldl_cons, List.foldl_nil, record_disabled rfl]

/-! ## The concatenated shards -/

section Shards

variable (w : Nat) (es : List ProfilingEntry)

/-- The entries a registry for `w` workers keeps. -/
abbrev kept : List ProfilingEntry := es.filter fun e => e.workerId < w

/-- The shards one after the other. -/
abbrev merged : List ProfilingEntry := ((List.range w).map (shardOf es)).flatten

/-- A group of entries of a single worker `k`, among the entries selected by their worker, is
the whole group when `k` is selected and nothing otherwise. -/
theorem filter_worker_filter {q : ProfilingEntry → Bool} {k : Nat}
    (hq : ∀ e, q e → e.workerId = k) (P : Nat → Bool) :
    (es.filter fun e => P e.workerId).filter q = if P k then es.filter q else [] := by
  split
  · exact filter_filter_of_imp (fun e hqe => by rwa [hq e hqe]) es
  · exact filter_filter_of_disjoint (fun e hqe => by rw [hq e hqe]; exact Bool.eq_false_iff.2 ‹_›) es

/-- A group of entries of a single worker is, in the concatenated shards, exactly that group
among the kept entries, in recording order. -/
theorem merged_filter_of_worker {q : ProfilingEntry → Bool} {k : Nat}
    (hq : ∀ e, q e → e.workerId = k) : (merged w es).filter q = (kept w es).filter q := by
  induction w with
  | zero => simp
  | succ w ih =>
    simp only [merged, kept, List.range_succ, List.map_append, List.flatten_append,
      List.filter_append, List.map_cons, List.map_nil, List.flatten_cons, List.flatten_nil,
      List.append_nil, shardOf] at ih ⊢
    rw [ih, filter_worker_filter es hq (fun i => decide (i < w)),
      filter_worker_filter es hq (fun i => decide (i = w)),
      filter_worker_filter es hq (fun i => decide (i < w + 1))]
    -- the group lies among the first `w` shards, in the last one, or in none
    rcases Nat.lt_trichotomy k w with hk | rfl | hk
    · simp [hk, Nat.ne_of_lt hk, Nat.lt_succ_of_lt hk]
    · simp
    · simp [Nat.ne_of_gt hk, Nat.not_lt_of_gt hk, Nat.not_lt.2 (Nat.succ_le_of_lt hk)]

/-- The concatenated shards hold each kept entry as often as it was recorded. -/
theorem merged_perm : (merged w es).Perm (kept w es) := by
  rw [List.perm_iff_count]
  intro a
  simp only [List.count_eq_length_filter]
  rw [merged_filter_of_worker w es (k := a.workerId) (fun e he => by simp at he; rw [he])]

/-- The concatenated shards go worker by worker. -/
theorem merged_pairwise_worker :
    (merged w es).Pairwise fun a b => a.workerId ≤ b.workerId := by
  rw [List.pairwise_flatten, List.pairwise_map]
  refine ⟨?_, List.pairwise_lt_range.imp ?_⟩
  · intro shard hshard
    obtain ⟨i, _, rfl⟩ := List.mem_map.1 hshard
    exact List.pairwise_iff_forall_sublist.2 fun {a b} hab => by
      have ha := List.of_mem_filter (hab.subset (by simp : a ∈ [a, b]))
      have hb := List.of_mem_filter (hab.subset (by simp : b ∈ [a, b]))
      simp only [decide_eq_true_eq] at ha hb
      omega
  · intro i j hij a ha b hb
    have ha := List.of_mem_filter ha
    have hb := List.of_mem_filter hb
    simp only [decide_eq_true_eq] at ha hb
    omega

end Shards

/-! ## The sorted table -/

/-- The order of the clock the table is sorted by is a total preorder. -/
theorem clock_trans (a b c : ProfilingEntry) :
    decide (a.simulationNow ≤ b.simulationNow) → decide (b.simulationNow ≤ c.simulationNow) →
      decide (a.simulationNow ≤ c.simulationNow) := by
  simp only [decide_eq_true_eq]
  exact Nat.le_trans

theorem clock_total (a b : ProfilingEntry) :
    (decide (a.simulationNow ≤ b.simulationNow) || decide (b.simulationNow ≤ a.simulationNow)) =
      true := by
  simp only [Bool.or_eq_true, decide_eq_true_eq]
  exact Nat.le_total _ _

/-- Sorting by the clock keeps the entries of one clock value in the order of the shards. -/
theorem sorted_filter_of_clock (l : List ProfilingEntry) {q : ProfilingEntry → Bool} {now : Nat}
    (hq : ∀ e, q e → e.simulationNow = now) :
    (l.mergeSort fun a b => a.simulationNow ≤ b.simulationNow).filter q = l.filter q :=
  filter_mergeSort_of_tied clock_trans clock_total
    (fun a b ha hb => by simp [hq a ha, hq b hb]) l

/-- Sorting worker-major entries by the clock orders them by clock, then by worker. -/
theorem sorted_pairwise_clock_worker {l : List ProfilingEntry}
    (hl : l.Pairwise fun a b => a.workerId ≤ b.workerId) :
    (l.mergeSort fun a b => a.simulationNow ≤ b.simulationNow).Pairwise fun a b =>
      a.simulationNow < b.simulationNow ∨
        (a.simulationNow = b.simulationNow ∧ a.workerId ≤ b.workerId) := by
  have hclock := List.pairwise_mergeSort clock_trans clock_total l
  refine List.pairwise_iff_forall_sublist.2 fun {a b} hab => ?_
  have hab_clock : a.simulationNow ≤ b.simulationNow := by
    simpa using List.pairwise_pair.1 (hclock.sublist hab)
  rcases Nat.lt_or_eq_of_le hab_clock with hlt | heq
  · exact .inl hlt
  · -- equal clocks: the pair is in the group of that clock, which keeps the worker-major order
    refine .inr ⟨heq, ?_⟩
    have hgroup : [a, b].Sublist (l.filter fun e => e.simulationNow = a.simulationNow) := by
      rw [← sorted_filter_of_clock l (fun e he => by simpa using he)]
      simpa [heq] using hab.filter fun e => e.simulationNow = a.simulationNow
    have hpair := (List.Pairwise.filter _ hl).sublist hgroup
    exact List.rel_of_pairwise_cons hpair (List.mem_singleton_self b)

/-- The merged table after any sequence of recordings into a new registry for `w` workers:
exactly the entries recorded for a worker below `w` (none when profiling is off), each as often
as it was recorded; ordered by the simulation clock, entries of one clock by worker, and entries
of one clock and worker in recording order. The entry count and the number of rows the table
reports are the number of those entries. -/
theorem entriesSorted_recorded (w : Nat) (enabled : Bool) (es : List ProfilingEntry) :
    let r := es.foldl record (create w enabled)
    let recorded := es.filter fun e => enabled && decide (e.workerId < w)
    r.entriesSorted.Perm recorded ∧
    r.entriesSorted.Pairwise (fun a b => a.simulationNow < b.simulationNow ∨
      (a.simulationNow = b.simulationNow ∧ a.workerId ≤ b.workerId)) ∧
    (∀ now worker, r.entriesSorted.filter (fun e => e.simulationNow = now ∧ e.workerId = worker) =
      recorded.filter (fun e => e.simulationNow = now ∧ e.workerId = worker)) ∧
    r.len = recorded.length ∧ r.table.2 = recorded.length := by
  cases enabled with
  | false =>
    rw [record_run_disabled]
    simp [entriesSorted, len, table, create, ← List.sum_eq_foldr]
  | true =>
    simp only [record_run, Bool.true_and]
    -- the table is the concatenated shards sorted by the clock
    have hsorted : entriesSorted ⟨true, (List.range w).map (shardOf es)⟩ =
        (merged w es).mergeSort fun a b => a.simulationNow ≤ b.simulationNow := rfl
    have hperm := merged_perm w es
    refine ⟨?_, ?_, fun now worker => ?_, ?_, ?_⟩
    · rw [hsorted]
      exact (List.mergeSort_perm _ _).trans hperm
    · rw [hsorted]
      exact sorted_pairwise_clock_worker (merged_pairwise_worker w es)
    · rw [hsorted, sorted_filter_of_clock _ (fun e he => by simp at he; exact he.1)]
      exact merged_filter_of_worker w es (fun e he => by simp at he; exact he.2)
    · simp only [len, ← List.sum_eq_foldr, ← List.length_flatten]
      exact hperm.length_eq
    · simp only [table, hsorted, List.length_mergeSort]
      exact hperm.length_eq

end ProfilingRegistry

end TransitRouting
