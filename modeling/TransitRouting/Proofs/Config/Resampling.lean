import TransitRouting.Config.Server
import Mathlib.Data.List.Basic
import Mathlib.Data.List.TakeWhile
import Mathlib.Data.List.TakeDrop
import Mathlib.Data.List.Induction

/-!
# Substituting a sample rate twice

`Sample.adjust name sample` replaces every token of digits followed by `pct` in a name by the
sample rate followed by `pct`. The replacement is itself such a token, or, for a rate with a
fraction such as `0.1`, a whole part and a point followed by one (`0.` then `1pct`). This module
works out what a second substitution does to the result of a first.

The pass `replaceTokens` reads a name from the left, holding the digits seen since the last
other character. Its small laws (`replaceTokens_digits`, `replaceTokens_other`,
`replaceTokens_token`) say what one character does. The main law, `replaceTokens_replaceTokens`,
says that a second pass over the output of a first is a single pass whose replacement is what
the second pass makes of the first's. The one obstacle is a `p` that started no token in the
first pass: it could start one in the second if the first pass put out `ct` after it. A pass
whose replacement starts with a digit never does (`replaceTokens_ne_ct`).

## What this module delivers

- `adjust_adjust_whole`: after a whole-number rate, a second substitution of any rate `t` is
  the substitution of `t` alone; so substituting a whole-number rate twice is substituting it
  once.
- `adjust_adjust_fraction`: after a rate `i.f`, the fraction of every token is read as a token
  again, and the result carries the rate `i.t`.
- `fileName_adjust`: taking the file name of a path and substituting a rate commute.
- `ServerConfig.resolve_eq_ok_iff`: what resolving a configuration does, and
  `ServerConfig.resolve_resolve`: with a whole-number rate, or none, resolving twice is
  resolving once.
- `ServerConfig.resample_twice` gathers the three facts; `adjust_fraction_twice` is a name that a
  second substitution of `0.1` changes.
-/

set_option autoImplicit false

namespace TransitRouting.Sample

open Unicode

/-! ## One pass over a name -/

/-- Whether a text starts with a decimal digit. -/
def LeadingDigit (l : List Char) : Prop := ∃ d rest, l = d :: rest ∧ isDecimalDigit d = true

section Pass

variable (r : List Char) {run : List Char}

theorem replaceTokens_digit {c : Char} (hc : isDecimalDigit c = true) (run rest : List Char) :
    replaceTokens r run (c :: rest) = replaceTokens r (c :: run) rest := by
  have hp : c ≠ 'p' := by rintro rfl; exact absurd hc (by decide)
  rw [replaceTokens.eq_3 _ _ _ _ (fun _ h => absurd h hp), if_pos hc]

/-- A run of digits is gathered, latest first. -/
theorem replaceTokens_digits {ds : List Char} (hds : ∀ c ∈ ds, isDecimalDigit c = true)
    (run xs : List Char) : replaceTokens r run (ds ++ xs) = replaceTokens r (ds.reverse ++ run) xs := by
  induction ds generalizing run with
  | nil => rfl
  | cons d ds ih =>
    rw [List.cons_append, replaceTokens_digit r (hds d List.mem_cons_self),
      ih (fun c hc => hds c (List.mem_cons_of_mem d hc))]
    simp

/-- A character that is no digit and starts no `pct` ends the run. -/
theorem replaceTokens_other {c : Char} (hc : isDecimalDigit c = false)
    {xs : List Char} (hxs : ∀ rest, c = 'p' → xs = 'c' :: 't' :: rest → False) (run : List Char) :
    replaceTokens r run (c :: xs) = run.reverse ++ c :: replaceTokens r [] xs := by
  rw [replaceTokens.eq_3 _ _ _ _ hxs, if_neg (by simp [hc])]

/-- With no digits pending, a character that is no digit is copied. -/
theorem replaceTokens_nil_other {c : Char} (hc : isDecimalDigit c = false) (xs : List Char) :
    replaceTokens r [] (c :: xs) = c :: replaceTokens r [] xs := by
  by_cases h : ∃ rest, c = 'p' ∧ xs = 'c' :: 't' :: rest
  · obtain ⟨rest, rfl, rfl⟩ := h
    simp [replaceTokens]
  · simp only [not_exists, not_and] at h
    exact replaceTokens_other r hc (fun rest hp hxs => h rest hp hxs) []

/-- A `pct` after digits is a token. -/
theorem replaceTokens_token (hrun : run ≠ []) (xs : List Char) :
    replaceTokens r run ('p' :: 'c' :: 't' :: xs) = r ++ replaceTokens r [] xs := by
  simp [replaceTokens, hrun]

/-- Pending digits come out first: the output starts with a digit. -/
theorem LeadingDigit.append {l : List Char} (h : LeadingDigit l) (m : List Char) :
    LeadingDigit (l ++ m) := by
  obtain ⟨d, rest, rfl, hd⟩ := h
  exact ⟨d, rest ++ m, rfl, hd⟩

theorem leadingDigit_reverse {run : List Char} (hrun : run ≠ [])
    (hdig : ∀ c ∈ run, isDecimalDigit c = true) : LeadingDigit run.reverse := by
  obtain ⟨d, rest, hrev⟩ := List.exists_cons_of_ne_nil (List.reverse_ne_nil_iff.2 hrun)
  exact ⟨d, rest, hrev, hdig d (List.mem_reverse.1 (hrev ▸ List.mem_cons_self))⟩

theorem replaceTokens_leadingDigit (hr : LeadingDigit r) (xs : List Char)
    (hrun : run ≠ []) (hdig : ∀ c ∈ run, isDecimalDigit c = true) :
    LeadingDigit (replaceTokens r run xs) := by
  fun_induction replaceTokens r run xs with
  | case1 run => exact leadingDigit_reverse hrun hdig
  | case2 run rest hempty => exact absurd (List.isEmpty_iff.1 hempty) hrun
  | case3 run rest _ _ => exact hr.append _
  | case4 run c rest _ hc ih =>
    exact ih (List.cons_ne_nil c run) (by simpa [hc] using hdig)
  | case5 run c rest _ _ _ => exact (leadingDigit_reverse hrun hdig).append _

/-- Where a pass with a replacement that starts with a digit puts out a character that is no
digit, that character was read there. -/
theorem replaceTokens_eq_other_cons (hr : LeadingDigit r) {xs w : List Char} {c : Char}
    (hc : isDecimalDigit c = false) (h : replaceTokens r [] xs = c :: w) :
    ∃ xs', xs = c :: xs' ∧ w = replaceTokens r [] xs' := by
  cases xs with
  | nil => simp [replaceTokens] at h
  | cons x xs =>
    cases hx : isDecimalDigit x with
    | true =>
      -- a digit opens a run, and the pass puts out a digit first
      rw [replaceTokens_digit r hx] at h
      obtain ⟨d, rest, hd, hdig⟩ :=
        replaceTokens_leadingDigit r hr xs (List.cons_ne_nil x []) (by simpa using hx)
      rw [h] at hd
      obtain ⟨rfl, -⟩ := List.cons.inj hd
      simp [hdig] at hc
    | false =>
      rw [replaceTokens_nil_other r hx] at h
      obtain ⟨rfl, rfl⟩ := List.cons.inj h
      exact ⟨xs, rfl, rfl⟩

/-- A pass puts out `ct` first only where the name starts with `ct`. -/
theorem replaceTokens_ne_ct (hr : LeadingDigit r) {xs : List Char}
    (hxs : ∀ rest, xs ≠ 'c' :: 't' :: rest) (rest : List Char) :
    replaceTokens r [] xs ≠ 'c' :: 't' :: rest := by
  intro h
  obtain ⟨xs', rfl, h'⟩ := replaceTokens_eq_other_cons r hr (by decide) h
  obtain ⟨xs'', rfl, -⟩ := replaceTokens_eq_other_cons r hr (by decide) h'.symm
  exact hxs xs'' rfl

end Pass

/-! ## Two passes -/

/-- A second pass over the output of a first is one pass, when the first pass's replacement
starts with a digit and the second pass reads it, whatever follows, as `u`. -/
theorem replaceTokens_replaceTokens {s t u : List Char} (hs : LeadingDigit s)
    (hpass : ∀ z, replaceTokens t [] (s ++ z) = u ++ replaceTokens t [] z) (run xs : List Char)
    (hdig : ∀ c ∈ run, isDecimalDigit c = true) :
    replaceTokens t [] (replaceTokens s run xs) = replaceTokens u run xs := by
  fun_induction replaceTokens s run xs with
  | case1 run =>
    rw [← List.append_nil run.reverse, replaceTokens_digits t (by simpa using hdig)]
    simp [replaceTokens]
  | case2 run rest hempty ih =>
    obtain rfl := List.isEmpty_iff.1 hempty
    rw [replaceTokens_nil_other t (by decide), ih (by simp)]
    simp [replaceTokens]
  | case3 run rest hne ih =>
    rw [hpass, ih (by simp), replaceTokens_token u (by simpa using hne)]
  | case4 run c rest _ hc ih =>
    rw [ih (by simpa [hc] using hdig), replaceTokens_digit u hc]
  | case5 run c rest hnot hc ih =>
    have hc' : isDecimalDigit c = false := by simpa using hc
    rw [replaceTokens_digits t (by simpa using hdig), List.reverse_reverse, List.append_nil,
      replaceTokens_other u hc' hnot]
    -- the first pass leaves no `ct` right after a `p` that started no token
    have hnot' : ∀ rest', c = 'p' → replaceTokens s [] rest = 'c' :: 't' :: rest' → False := by
      intro rest' hp h
      exact replaceTokens_ne_ct s hs (fun r' hr' => hnot r' hp hr') rest' h
    rw [replaceTokens_other t hc' hnot', ih (by simp)]

/-! ## Sample rates -/

/-- A sample rate is a run of digits, or two runs of digits around a point. -/
theorem isRateChars_cases {cs : List Char} (h : isRateChars cs = true) :
    (cs ≠ [] ∧ ∀ c ∈ cs, isDecimalDigit c = true) ∨
      ∃ i f, i ≠ [] ∧ (∀ c ∈ i, isDecimalDigit c = true) ∧ f ≠ [] ∧
        (∀ c ∈ f, isDecimalDigit c = true) ∧ cs = i ++ '.' :: f := by
  have hsplit := List.takeWhile_append_dropWhile (p := isDecimalDigit) (l := cs)
  have hdigits : ∀ c ∈ cs.takeWhile isDecimalDigit, isDecimalDigit c = true :=
    fun c hc => List.mem_takeWhile_imp hc
  unfold isRateChars at h
  rw [List.span_eq_takeWhile_dropWhile] at h
  generalize cs.takeWhile isDecimalDigit = i at h hsplit hdigits
  generalize cs.dropWhile isDecimalDigit = rest at h hsplit
  subst hsplit
  split at h
  · cases h
  · rename_i _ hne heq
    obtain ⟨rfl, rfl⟩ := Prod.mk.inj heq
    exact .inl ⟨by simpa using hne, by simpa using hdigits⟩
  · rename_i _ f hne heq
    obtain ⟨rfl, rfl⟩ := Prod.mk.inj heq
    simp only [Bool.and_eq_true, Bool.not_eq_true', List.isEmpty_eq_false_iff, List.all_eq_true] at h
    exact .inr ⟨_, f, hne, hdigits, h.1, h.2, rfl⟩
  · cases h

section Replacement

variable (t : List Char) {d i f : List Char}

/-- A whole-number rate before `pct` is one token. -/
theorem replaceTokens_whole (hd : d ≠ []) (hdig : ∀ c ∈ d, isDecimalDigit c = true)
    (z : List Char) :
    replaceTokens t [] (d ++ ['p', 'c', 't'] ++ z) = t ++ replaceTokens t [] z := by
  rw [List.append_assoc, replaceTokens_digits t hdig, List.append_nil]
  exact replaceTokens_token t (by simpa using hd) z

/-- A rate with a fraction before `pct` is its whole part and point, copied, then a token of
its fraction. -/
theorem replaceTokens_fraction (hi : ∀ c ∈ i, isDecimalDigit c = true) (hf : f ≠ [])
    (hfdig : ∀ c ∈ f, isDecimalDigit c = true) (z : List Char) :
    replaceTokens t [] (i ++ '.' :: f ++ ['p', 'c', 't'] ++ z) =
      i ++ '.' :: t ++ replaceTokens t [] z := by
  rw [List.append_assoc, List.append_assoc, replaceTokens_digits t hi, List.append_nil,
    List.cons_append, replaceTokens_other t (by decide) (by simp), List.reverse_reverse,
    ← List.append_assoc, replaceTokens_whole t hf hfdig]
  simp

end Replacement

/-- A second substitution after a whole-number rate: every token holds that rate, so the
second rate simply replaces it. -/
theorem adjust_adjust_whole {name s : String} (hs : isRate s = true) (hdot : '.' ∉ s.toList)
    (t : String) : adjust (adjust name s) t = adjust name t := by
  obtain ⟨hne, hdig⟩ | ⟨i, f, -, -, -, -, hsplit⟩ := isRateChars_cases hs
  · obtain ⟨d, rest, hd⟩ := List.exists_cons_of_ne_nil hne
    have hlead : LeadingDigit (s.toList ++ ['p', 'c', 't']) :=
      ⟨d, rest ++ ['p', 'c', 't'], by simp [hd], hdig d (by simp [hd])⟩
    simp only [adjust, String.toList_ofList]
    rw [replaceTokens_replaceTokens hlead (replaceTokens_whole _ hne hdig) [] _ (by simp)]
  · exact absurd (hsplit ▸ List.mem_append_right _ List.mem_cons_self) hdot

/-- A second substitution after a rate with a fraction `i.f`: the fraction of every token is
read as a token again, so the result carries the rate `i.t`. -/
theorem adjust_adjust_fraction {name i f : String} (hs : isRate (i ++ "." ++ f) = true)
    (t : String) : adjust (adjust name (i ++ "." ++ f)) t = adjust name (i ++ "." ++ t) := by
  obtain ⟨hne, hdig⟩ | ⟨i', f', hi', hidig, hf', hfdig, hsplit⟩ := isRateChars_cases hs
  · exact absurd (hdig '.' (by simp [String.toList_append])) (by decide)
  · -- the point of the rate is the one between `i'` and `f'`
    have hdot : ∀ {l : List Char}, (∀ c ∈ l, isDecimalDigit c = true) → '.' ∉ l :=
      fun hl hmem => absurd (hl _ hmem) (by decide)
    simp only [String.toList_append] at hsplit
    obtain ⟨rfl, -, rfl⟩ := (List.append_cons_inj_of_notMem (hdot hidig) (hdot hfdig)).1
      (by simpa using hsplit.symm)
    obtain ⟨d, rest, hd⟩ := List.exists_cons_of_ne_nil hi'
    have hpoint : ".".toList = ['.'] := by decide
    have hlead : LeadingDigit (i.toList ++ ['.'] ++ f.toList ++ ['p', 'c', 't']) :=
      ⟨d, rest ++ '.' :: f.toList ++ ['p', 'c', 't'], by simp [hd], hidig d (by simp [hd])⟩
    have hpass : ∀ z, replaceTokens (t.toList ++ ['p', 'c', 't']) []
        (i.toList ++ ['.'] ++ f.toList ++ ['p', 'c', 't'] ++ z) =
          i.toList ++ ['.'] ++ t.toList ++ ['p', 'c', 't'] ++
            replaceTokens (t.toList ++ ['p', 'c', 't']) [] z := fun z => by
      simpa using replaceTokens_fraction (t.toList ++ ['p', 'c', 't']) hidig hf' hfdig z
    simp only [adjust, String.toList_ofList, String.toList_append, hpoint]
    rw [replaceTokens_replaceTokens hlead hpass [] _ (by simp)]

/-! ## File names -/

/-- The characters after the last `/`. -/
def lastSegment (l : List Char) : List Char := (l.reverse.takeWhile (· ≠ '/')).reverse

theorem fileName_eq (u : String) : fileName u = String.ofList (lastSegment u.toList) := rfl

theorem slash_not_mem_lastSegment (l : List Char) : '/' ∉ lastSegment l := by
  intro h
  have := List.mem_takeWhile_imp (List.mem_reverse.1 h)
  simp at this

theorem lastSegment_of_not_mem {b : List Char} (hb : '/' ∉ b) : lastSegment b = b := by
  rw [lastSegment, List.takeWhile_eq_self_iff.2, List.reverse_reverse]
  intro c hc
  have : c ≠ '/' := fun h => hb (h ▸ List.mem_reverse.1 hc)
  simpa using this

theorem lastSegment_append_slash (a : List Char) {b : List Char} (hb : '/' ∉ b) :
    lastSegment (a ++ '/' :: b) = b := by
  have hpos : ∀ c ∈ b.reverse, (!decide (c = '/')) = true := by
    intro c hc
    have : c ≠ '/' := fun h => hb (h ▸ List.mem_reverse.1 hc)
    simpa using this
  simp [lastSegment, List.reverse_append, List.takeWhile_append_of_pos hpos]

theorem lastSegment_append_singleton (l : List Char) (c : Char) :
    lastSegment (l ++ [c]) = if c = '/' then [] else lastSegment l ++ [c] := by
  by_cases hc : c = '/' <;> simp [lastSegment, hc]

/-- A path with a `/` is what comes before its last `/`, the `/`, and its last segment. -/
theorem eq_append_slash_lastSegment {l : List Char} (h : '/' ∈ l) :
    ∃ a, l = a ++ '/' :: lastSegment l := by
  induction l using List.reverseRecOn with
  | nil => simp at h
  | append_singleton l c ih =>
    rw [lastSegment_append_singleton]
    by_cases hc : c = '/'
    · subst hc
      exact ⟨l, by simp⟩
    · have hl : '/' ∈ l := by simpa [Ne.symm hc] using h
      obtain ⟨a, ha⟩ := ih hl
      refine ⟨a, ?_⟩
      rw [if_neg hc]
      calc l ++ [c] = a ++ '/' :: lastSegment l ++ [c] := by rw [← ha]
        _ = a ++ '/' :: (lastSegment l ++ [c]) := by simp

theorem fileName_fileName (u : String) : fileName (fileName u) = fileName u := by
  simp only [fileName_eq, String.toList_ofList, lastSegment_of_not_mem (slash_not_mem_lastSegment _)]

section Slash

variable (r : List Char)

/-- A `/` ends the run of digits and starts no token: a pass over a path is the pass over
what comes before a `/`, the `/`, and the pass over what comes after. -/
theorem replaceTokens_append_slash (run a b : List Char) :
    replaceTokens r run (a ++ '/' :: b) = replaceTokens r run a ++ '/' :: replaceTokens r [] b := by
  fun_induction replaceTokens r run a with
  | case1 run => simp [replaceTokens_other r (show isDecimalDigit '/' = false by decide) (by simp)]
  | case2 run rest hempty ih =>
    obtain rfl := List.isEmpty_iff.1 hempty
    simp only [List.cons_append] at ih ⊢
    simp [replaceTokens, ih]
  | case3 run rest hne ih =>
    simp only [List.cons_append]
    rw [replaceTokens_token r (by simpa using hne), ih, List.append_assoc]
  | case4 run c rest _ hc ih =>
    rw [List.cons_append, replaceTokens_digit r hc, ih]
  | case5 run c rest hnot hc ih =>
    have hc' : isDecimalDigit c = false := by simpa using hc
    -- `pct` cannot run across the `/`
    have hnot' : ∀ rest', c = 'p' → rest ++ '/' :: b = 'c' :: 't' :: rest' → False := by
      intro rest' hp h
      rcases rest with _ | ⟨x, _ | ⟨y, rest''⟩⟩
      · simp at h
      · simp at h
      · simp only [List.cons_append, List.cons.injEq] at h
        exact hnot rest'' hp (by rw [h.1, h.2.1])
    rw [List.cons_append, replaceTokens_other r hc' hnot', ih]
    simp

/-- A pass adds no character beyond those of the replacement. -/
theorem mem_replaceTokens {c : Char} (run xs : List Char) (h : c ∈ replaceTokens r run xs) :
    c ∈ r ∨ c ∈ run ∨ c ∈ xs := by
  fun_induction replaceTokens r run xs with
  | case1 run => exact .inr (.inl (by simpa using h))
  | case2 run rest _ ih =>
    rcases List.mem_cons.1 h with rfl | h
    · simp
    · grind
  | case3 run rest _ ih => grind
  | case4 run c' rest _ _ ih => grind
  | case5 run c' rest _ _ ih =>
    simp only [List.mem_append, List.mem_reverse, List.mem_cons] at h
    grind

theorem lastSegment_replaceTokens (hr : '/' ∉ r) (l : List Char) :
    lastSegment (replaceTokens r [] l) = replaceTokens r [] (lastSegment l) := by
  have hclean : ∀ b, '/' ∉ b → '/' ∉ replaceTokens r [] b := by
    intro b hb hmem
    rcases mem_replaceTokens r [] b hmem with h | h | h
    · exact hr h
    · simp at h
    · exact hb h
  by_cases hl : '/' ∈ l
  · obtain ⟨a, ha⟩ := eq_append_slash_lastSegment hl
    rw [ha, replaceTokens_append_slash, lastSegment_append_slash _ (hclean _ (slash_not_mem_lastSegment l)),
      lastSegment_append_slash _ (slash_not_mem_lastSegment l)]
  · rw [lastSegment_of_not_mem hl, lastSegment_of_not_mem (hclean l hl)]

end Slash

/-- Cutting a path down to its file name and substituting a sample rate can be done in either
order. -/
theorem fileName_adjust (u : String) {s : String} (hs : '/' ∉ s.toList) :
    fileName (adjust u s) = adjust (fileName u) s := by
  simp only [fileName_eq, adjust, String.toList_ofList]
  rw [lastSegment_replaceTokens _ (by simpa using hs)]

/-- A sample rate holds no `/`. -/
theorem slash_not_mem_of_isRate {s : String} (hs : isRate s = true) : '/' ∉ s.toList := by
  have hslash : isDecimalDigit '/' = false := by decide
  rcases isRateChars_cases hs with ⟨-, hdig⟩ | ⟨i, f, -, hidig, -, hfdig, hsplit⟩
  · exact fun h => absurd (hdig _ h) (by simp [hslash])
  · rw [show s.toList = i ++ '.' :: f from hsplit]
    simp only [List.mem_append, List.mem_cons, not_or]
    exact ⟨fun h => absurd (hidig _ h) (by simp [hslash]), by decide,
      fun h => absurd (hfdig _ h) (by simp [hslash])⟩

end TransitRouting.Sample

namespace TransitRouting.ServerConfig

open Sample

/-- The path an input is resolved to: the sample rate substituted, if there is one, then cut
down to its file name when files are local. -/
def resolvedPath (sample : Option String) (localFiles : Bool) (path : String) : String :=
  let adjusted := sample.elim path (adjust path)
  if localFiles then fileName adjusted else adjusted

theorem resolve_of_no_threads {c : ServerConfig} (h : c.threads = 0) :
    c.resolve = .error .noThreads := by
  simp only [resolve, h]
  rfl

theorem resolve_of_invalid_sample {c : ServerConfig} (hthreads : c.threads ≠ 0) {s : String}
    (hsample : c.sample = some s) (hs : isRate s = false) :
    c.resolve = .error (.invalidSample s) := by
  simp only [resolve, hthreads, hsample, hs]
  rfl

/-- With at least one worker and a well-formed sample rate, if any, resolving rewrites exactly
the two input paths. -/
theorem resolve_of_valid {c : ServerConfig} (hthreads : c.threads ≠ 0)
    (hs : ∀ s ∈ c.sample, isRate s = true) :
    c.resolve = .ok { c with scenario := resolvedPath c.sample c.localFiles c.scenario,
                             idStore := c.idStore.map (resolvedPath c.sample c.localFiles) } := by
  rw [resolve, if_neg hthreads]
  rcases c with ⟨scenario, idStore, outputDir, threads, port, profiling, sample, localFiles⟩
  -- the identifier store is rewritten through `Option.map`, so it is split as well
  cases sample with
  | none =>
    cases localFiles <;> cases idStore <;> simp [resolvedPath, pure, Except.pure, bind, Except.bind]
  | some s =>
    cases localFiles <;> cases idStore <;>
      simp [resolvedPath, hs s rfl, pure, Except.pure, bind, Except.bind]

/-- Resolving succeeds exactly with at least one worker and a well-formed sample rate, if any. -/
theorem resolve_eq_ok_iff {c c' : ServerConfig} :
    c.resolve = .ok c' ↔ c.threads ≠ 0 ∧ (∀ s ∈ c.sample, isRate s = true) ∧
      c' = { c with scenario := resolvedPath c.sample c.localFiles c.scenario,
                    idStore := c.idStore.map (resolvedPath c.sample c.localFiles) } := by
  constructor
  · intro h
    have hthreads : c.threads ≠ 0 := fun h0 => by
      rw [resolve_of_no_threads h0] at h
      cases h
    have hs : ∀ s ∈ c.sample, isRate s = true := by
      intro s hsample
      cases hrate : isRate s
      · rw [resolve_of_invalid_sample hthreads hsample hrate] at h
        cases h
      · rfl
    rw [resolve_of_valid hthreads hs] at h
    exact ⟨hthreads, hs, (Except.ok.inj h).symm⟩
  · rintro ⟨hthreads, hs, rfl⟩
    exact resolve_of_valid hthreads hs

/-- Resolving a resolved path again changes nothing, when the sample rate, if any, is a whole
number. -/
theorem resolvedPath_resolvedPath {sample : Option String}
    (hs : ∀ s ∈ sample, isRate s = true ∧ '.' ∉ s.toList) (localFiles : Bool) (path : String) :
    resolvedPath sample localFiles (resolvedPath sample localFiles path) =
      resolvedPath sample localFiles path := by
  cases sample with
  | none => cases localFiles <;> simp [resolvedPath, fileName_fileName]
  | some s =>
    obtain ⟨hrate, hdot⟩ := hs s rfl
    cases localFiles with
    | false => exact adjust_adjust_whole hrate hdot s
    | true =>
      -- the file name is taken after the substitution or before it, alike
      simp only [resolvedPath, Option.elim, if_true]
      rw [← fileName_adjust _ (slash_not_mem_of_isRate hrate), adjust_adjust_whole hrate hdot,
        fileName_fileName]

/-- Resolving a resolved configuration again gives it back, when its sample rate, if any, is a
whole number. -/
theorem resolve_resolve {c c' : ServerConfig} (h : c.resolve = .ok c')
    (hwhole : ∀ s ∈ c.sample, '.' ∉ s.toList) : c'.resolve = .ok c' := by
  obtain ⟨hthreads, hs, hc'⟩ := resolve_eq_ok_iff.1 h
  have hs' : ∀ s ∈ c.sample, isRate s = true ∧ '.' ∉ s.toList :=
    fun s hmem => ⟨hs s hmem, hwhole s hmem⟩
  -- the resolved configuration keeps the workers, the sample rate and the local-files flag
  have hthreads' : c'.threads ≠ 0 := by rw [hc']; exact hthreads
  have hsample : c'.sample = c.sample := by rw [hc']
  have hlocal : c'.localFiles = c.localFiles := by rw [hc']
  rw [resolve_of_valid hthreads' (hsample ▸ hs), hsample, hlocal]
  subst hc'
  simp [resolvedPath_resolvedPath hs', Option.map_map, Function.comp_def]

/-! ## Substituting twice -/

/-- A second substitution of the same sample rate: a whole-number rate is substituted once for
all, in a name and in a resolved configuration; a rate `i.f` with a fraction has the fraction of
each token read as a token again, which gives the rate `i.i.f`. -/
theorem resample_twice :
    (∀ name s : String, isRate s = true → '.' ∉ s.toList →
      adjust (adjust name s) s = adjust name s) ∧
    (∀ c c' : ServerConfig, c.resolve = .ok c' → (∀ s ∈ c.sample, '.' ∉ s.toList) →
      c'.resolve = .ok c') ∧
    (∀ name i f : String, isRate (i ++ "." ++ f) = true →
      adjust (adjust name (i ++ "." ++ f)) (i ++ "." ++ f) =
        adjust name (i ++ "." ++ (i ++ "." ++ f))) :=
  ⟨fun _ _ hs hdot => adjust_adjust_whole hs hdot _,
    fun _ _ h hwhole => resolve_resolve h hwhole,
    fun _ _ _ hs => adjust_adjust_fraction hs _⟩

/-- The rate `1` substituted twice into a scenario name, a configuration with that rate and
local files resolved twice, and the rate `0.1` substituted twice. -/
theorem resample_twice_berlin :
    adjust (adjust "berlin-v6.4-10pct.plans.xml.gz" "1") "1" =
        adjust "berlin-v6.4-10pct.plans.xml.gz" "1" ∧
      ({ scenario := "scenarios/berlin-10pct.json", outputDir := "out", sample := some "1",
          localFiles := true } : ServerConfig).resolve =
        .ok { scenario := "berlin-1pct.json", outputDir := "out", sample := some "1",
              localFiles := true } ∧
      ({ scenario := "berlin-1pct.json", outputDir := "out", sample := some "1",
          localFiles := true } : ServerConfig).resolve =
        .ok { scenario := "berlin-1pct.json", outputDir := "out", sample := some "1",
              localFiles := true } ∧
      adjust (adjust "a-3pct" ("0" ++ "." ++ "1")) ("0" ++ "." ++ "1") =
        adjust "a-3pct" ("0" ++ "." ++ ("0" ++ "." ++ "1")) := by
  have hresolve :
      ({ scenario := "scenarios/berlin-10pct.json", outputDir := "out", sample := some "1",
          localFiles := true } : ServerConfig).resolve =
        .ok { scenario := "berlin-1pct.json", outputDir := "out", sample := some "1",
              localFiles := true } := by
    decide
  have hwhole : ∀ s ∈ some "1", '.' ∉ s.toList := by
    intro s hs
    obtain rfl := Option.mem_some_iff.1 hs
    decide
  exact ⟨resample_twice.1 _ _ (by decide) (by decide), hresolve,
    resample_twice.2.1 _ _ hresolve hwhole, resample_twice.2.2 _ _ _ (by decide)⟩

/-- Substituting `0.1` into a name it produced changes the name again. -/
theorem adjust_fraction_twice :
    isRate "0.1" = true ∧ adjust (adjust "a-3pct" "0.1") "0.1" ≠ adjust "a-3pct" "0.1" := by
  decide

end TransitRouting.ServerConfig
