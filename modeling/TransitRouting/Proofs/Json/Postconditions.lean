import TransitRouting.Json.Decode
import Mathlib.Tactic.SplitIfs

/-!
# What a reader returns

A reader runs over the bytes of a document with the index as its state, and stops at the first
error. `Yields r P` says that every value `r` returns satisfies `P`, on every input and from every
index: it is a postcondition that ignores failures, so a property of a document's values follows
from one of each reader that builds them. Failing steps yield anything, a step whose value is
bound passes its postcondition on to the rest (`Yields.bind`), and loops keep an invariant of
what they gather.

## What this module delivers

- `Json.Yields` and its rules for `pure`, `bind`, `map`, `throw` and `tryCatch`.
- The same for the typed readers of a document: `typed`, `closing`, `readRecord`, `element`,
  `required`, `need`, `readSeq` (through `itemsLoop`), `readDraft` (through
  `fieldsLoop`, with an invariant of the draft) and `setOnce`.
- `Yields.runOn`: what a reader yields holds of a document it reads.
-/

set_option autoImplicit false

namespace TransitRouting.Json

/-- Every value `r` returns satisfies `P`, whatever the input and the index it starts at. -/
def Yields {α : Type} (r : Reader α) (P : α → Prop) : Prop :=
  ∀ input pos a, (Id.run ((r.run input).run.run pos)).1 = .ok a → P a

namespace Yields

variable {α β : Type} {P : α → Prop}

theorem pure {a : α} (h : P a) : Yields (Pure.pure a) P := by
  intro input pos b hb
  cases hb
  exact h

/-- Every reader yields values of its type. -/
theorem trivial (r : Reader α) : Yields r fun _ => True :=
  fun _ _ _ _ => True.intro

theorem bind {Q : β → Prop} {r : Reader β} {f : β → Reader α} (hr : Yields r Q)
    (hf : ∀ b, Q b → Yields (f b) P) : Yields (r >>= f) P := by
  intro input pos a ha
  simp only [ReaderT.run_bind, ExceptT.run_bind, StateT.run_bind, Id.run_bind] at ha
  have hQ := hr input pos
  generalize StateT.run (ReaderT.run r input).run pos = p at ha hQ
  obtain ⟨_ | b, pos'⟩ := p
  · cases ha
  · exact hf b (hQ b rfl) input pos' a ha

/-- A step whose value is not looked at. -/
theorem bind_right {r : Reader β} {f : β → Reader α} (hf : ∀ b, Yields (f b) P) :
    Yields (r >>= f) P :=
  bind (trivial r) fun b _ => hf b

theorem map {Q : β → Prop} {r : Reader β} {f : β → α} (hr : Yields r Q)
    (hf : ∀ b, Q b → P (f b)) : Yields (f <$> r) P := by
  rw [map_eq_pure_bind]
  exact bind hr fun b hb => pure (hf b hb)

theorem throw {e : Error} : Yields (MonadExcept.throw e : Reader α) P := by
  intro input pos a ha
  cases ha

theorem tryCatch {r : Reader α} {h : Error → Reader α} (hr : Yields r P)
    (hh : ∀ e, Yields (h e) P) : Yields (MonadExcept.tryCatch r h) P := by
  intro input pos a ha
  simp only [MonadExcept.tryCatch, MonadExceptOf.tryCatch, tryCatchThe, ExceptT.tryCatch,
    ExceptT.mk, ExceptT.run, ReaderT.run, StateT.run_bind, Id.run_bind] at ha
  have hr' := hr input pos
  simp only [ExceptT.run, ReaderT.run] at hr'
  generalize StateT.run (r input) pos = p at ha hr'
  obtain ⟨_ | b, pos'⟩ := p
  · exact hh _ input pos' a ha
  · change Except.ok b = Except.ok a at ha
    cases ha
    exact hr' _ rfl

/-! ## Steps that only fail -/

theorem failHere {p : Problem} : Yields (Json.failHere p : Reader α) P := by
  unfold Json.failHere
  exact bind_right fun _ => bind_right fun _ => throw

theorem failAhead {p : Problem} : Yields (Json.failAhead p : Reader α) P := by
  unfold Json.failAhead
  exact bind_right fun _ => bind_right fun _ => throw

theorem peekInvalidType {expected : String} : Yields (Json.peekInvalidType expected : Reader α) P := by
  unfold Json.peekInvalidType
  refine bind_right fun b => ?_
  dsimp only
  -- every branch reads what it found, names it and throws
  split_ifs <;> repeat (first | exact throw | refine bind_right fun _ => ?_)

/-! ## Typed reads -/

/-- A typed read returns what the reader chosen for the next byte returns. -/
theorem typed {expected : String} {choose : UInt8 → Option (Reader α)}
    (h : ∀ b r, choose b = some r → Yields r P) : Yields (Json.typed expected choose) P := by
  unfold Json.typed locating
  refine tryCatch (bind_right fun next => ?_) fun _ => bind_right fun _ => throw
  split
  · exact failAhead
  · split
    · rename_i r hr
      exact h _ r hr
    · exact peekInvalidType

/-- Closing a bracket after a read keeps what the read returned. -/
theorem closing {close : Reader Unit} {inner : Reader α} (h : Yields inner P) :
    Yields (Json.closing close inner) P := by
  unfold Json.closing
  refine bind (Q := fun res => ∀ v, res = .ok v → P v)
    (tryCatch (map h fun v hv w hw => ?_) fun _ => pure fun v hv => ?_) fun res hres => ?_
  · cases hw
    exact hv
  · cases hv
  · refine bind_right fun closed => ?_
    split
    · exact pure (hres _ rfl)
    · exact throw
    · exact throw

theorem readRecord {name : String} {fromSeq fromMap : Reader α} (hs : Yields fromSeq P)
    (hm : Yields fromMap P) : Yields (Json.readRecord name fromSeq fromMap) P := by
  unfold Json.readRecord
  refine typed fun b r hr => ?_
  split_ifs at hr <;> cases hr
  · exact bind_right fun _ => closing hs
  · exact bind_right fun _ => closing hm

theorem element {first : Bool} {item : Reader α} (h : Yields item P) :
    Yields (Json.element first item) fun o => ∀ v ∈ o, P v := by
  unfold Json.element
  refine bind_right fun more => ?_
  split
  · exact map h fun v hv w hw => by cases hw; exact hv
  · exact pure fun v hv => by cases hv

theorem required {index : Nat} {expected : String} {o : Option α} (h : ∀ v ∈ o, P v) :
    Yields (Json.required index expected o) P := by
  cases o with
  | none => exact throw
  | some v => exact pure (h v rfl)

theorem need {name : String} {o : Option α} (h : ∀ v ∈ o, P v) : Yields (Json.need name o) P := by
  cases o with
  | none => exact throw
  | some v => exact pure (h v rfl)

/-- Every item an array loop gathers was returned by the item reader. -/
theorem itemsLoop {item : Reader α} (h : Yields item P) :
    ∀ (fuel : Nat) (first : Bool) (acc : List α), (∀ v ∈ acc, P v) →
      Yields (Json.itemsLoop item fuel first acc) fun l => ∀ v ∈ l, P v
  | 0, _, acc, hacc => pure fun v hv => hacc v (List.mem_reverse.1 hv)
  | fuel + 1, first, acc, hacc => by
    unfold Json.itemsLoop
    refine bind_right fun more => ?_
    split
    · refine bind h fun v hv => itemsLoop h fuel false (v :: acc) ?_
      simpa [hv] using hacc
    · exact pure fun v hv => hacc v (List.mem_reverse.1 hv)

theorem readSeq {item : Reader α} (h : Yields item P) :
    Yields (Json.readSeq item) fun l => ∀ v ∈ l, P v := by
  unfold Json.readSeq
  refine typed fun b r hr => ?_
  split_ifs at hr
  cases hr
  exact bind_right fun _ => closing (bind_right fun _ => itemsLoop h _ true [] nofun)

/-- An invariant of the drafts that every key's step keeps holds of the draft an object loop
leaves. -/
theorem fieldsLoop {σ : Type} {step : σ → String → Reader σ} {inv : σ → Prop}
    (hstep : ∀ s k, inv s → Yields (step s k) inv) :
    ∀ (fuel : Nat) (first : Bool) (s : σ), inv s → Yields (Json.fieldsLoop step fuel first s) inv
  | 0, _, s, hs => pure hs
  | fuel + 1, first, s, hs => by
    unfold Json.fieldsLoop
    refine bind_right fun more => ?_
    split
    · exact bind_right fun k => bind (hstep s k hs) fun s' hs' => fieldsLoop hstep fuel false s' hs'
    · exact pure hs

theorem readDraft {σ : Type} {step : σ → String → Reader σ} {inv : σ → Prop} {init : σ}
    (hstep : ∀ s k, inv s → Yields (step s k) inv) (hinit : inv init) :
    Yields (Json.readDraft step init) inv := by
  unfold Json.readDraft
  exact bind_right fun _ => fieldsLoop hstep _ true init hinit

theorem setOnce {name : String} {current : Option α} {r : Reader α} (h : Yields r P) :
    Yields (Json.setOnce name current r) P := by
  unfold Json.setOnce fieldValue
  dsimp only
  split
  · exact bind_right fun _ => bind_right fun _ => h
  · exact bind_right fun _ => h

end Yields

/-- What a reader yields holds of a document it reads. -/
theorem Yields.runOn {α : Type} {P : α → Prop} {r : Reader α} (h : Yields r P) {text : String}
    {a : α} (hrun : runOn r text = .ok a) : P a :=
  h _ 0 a hrun

end TransitRouting.Json
