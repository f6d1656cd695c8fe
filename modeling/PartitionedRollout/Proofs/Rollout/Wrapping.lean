/-
# PartitionedRollout.Proofs.Rollout.Wrapping -- wrappers around errors are transparent

An error is wrapped on its way out: with the ordinal that was being handled, unless it names one
already, and with the set that was being rolled out. Nothing that a caller asks about it gets lost.
`Conveys` says so of an error and one that was made from it: both have the same root and the same
kind, and the texts of the causes of the one end the texts of the causes of the other. One wrapping
conveys the error, so any row of wrappings does; of the ordinals that come together in a row the
first one stays.
-/

import PartitionedRollout.Rollout.Error

namespace PartitionedRollout.RolloutError

variable {e e' e'' : RolloutError}

/-! ## Roots -/

/-- The error is another one with something added. -/
def isWrapper : RolloutError → Bool
  | .atOrdinal _ _ => true
  | .strategy _ _ => true
  | _ => false

/-- A root is not a wrapper, however many there are around it. -/
theorem isWrapper_root (e : RolloutError) : e.root.isWrapper = false := by
  induction e with
  | atOrdinal _ _ ih => exact ih
  | strategy _ _ ih => exact ih
  | _ => rfl

theorem root_of_not_isWrapper (h : e.isWrapper = false) : e.root = e := by
  cases e with
  | atOrdinal | strategy => cases h
  | _ => rfl

@[simp]
theorem root_root (e : RolloutError) : e.root.root = e.root :=
  root_of_not_isWrapper e.isWrapper_root

/-! ## One wrapping -/

theorem addOrdinal_of_some {q : UInt32} (h : e.ordinal = some q) (p : UInt32) :
    e.addOrdinal p = e := by
  simp [addOrdinal, h]

theorem addOrdinal_of_none (h : e.ordinal = none) (p : UInt32) :
    e.addOrdinal p = .atOrdinal p e := by
  simp [addOrdinal, h]

/-- An error keeps the ordinal that it names; the one that is added is for the others. -/
theorem ordinal_addOrdinal_eq (e : RolloutError) (p : UInt32) :
    (e.addOrdinal p).ordinal = some (e.ordinal.getD p) := by
  cases h : e.ordinal with
  | none =>
    rw [addOrdinal_of_none h]
    rfl
  | some q => rw [addOrdinal_of_some h, h, Option.getD_some]

/-- Once an ordinal has been added, a further one is not. -/
theorem addOrdinal_addOrdinal (e : RolloutError) (p q : UInt32) :
    (e.addOrdinal p).addOrdinal q = e.addOrdinal p :=
  addOrdinal_of_some (e.ordinal_addOrdinal_eq p) q

/-- An error that gets an ordinal becomes the first cause below it. -/
theorem causes_addOrdinal (e : RolloutError) (p : UInt32) :
    (e.addOrdinal p).causes = if e.ordinal.isSome then e.causes else e.message :: e.causes := by
  cases h : e.ordinal with
  | none =>
    rw [addOrdinal_of_none h]
    rfl
  | some q => rw [addOrdinal_of_some h, Option.isSome_some, if_pos rfl]

/-! ## What is conveyed -/

/-- An error conveys another one. -/
structure Conveys (e' e : RolloutError) : Prop where
  /-- It has the same root. -/
  root : e'.root = e.root
  /-- It is of the same kind. -/
  kind : e'.kind = e.kind
  /-- Its causes end with all those of the other one. -/
  causes : e.causes <:+ e'.causes

theorem Conveys.refl (e : RolloutError) : Conveys e e :=
  ⟨rfl, rfl, List.suffix_refl _⟩

theorem Conveys.trans (h : Conveys e'' e') (h' : Conveys e' e) : Conveys e'' e :=
  ⟨h.root.trans h'.root, h.kind.trans h'.kind, h'.causes.trans h.causes⟩

theorem conveys_atOrdinal (p : UInt32) (e : RolloutError) : Conveys (.atOrdinal p e) e :=
  ⟨rfl, rfl, List.suffix_cons _ _⟩

theorem conveys_inStrategy (e : RolloutError) (id : WorkloadId) : Conveys (e.inStrategy id) e :=
  ⟨rfl, rfl, List.suffix_cons _ _⟩

theorem conveys_addOrdinal (e : RolloutError) (p : UInt32) : Conveys (e.addOrdinal p) e := by
  cases h : e.ordinal with
  | none =>
    rw [addOrdinal_of_none h]
    exact conveys_atOrdinal p e
  | some q =>
    rw [addOrdinal_of_some h]
    exact .refl e

/-- Every error conveys its root. -/
theorem conveys_root (e : RolloutError) : Conveys e e.root := by
  induction e with
  | atOrdinal p e ih => exact (conveys_atOrdinal p e).trans ih
  | strategy id e ih => exact (e.conveys_inStrategy id).trans ih
  | _ => exact .refl _

/-! ## Rows of wrappings -/

/-- What is added to an error on its way out. -/
inductive Wrapping where
  /-- The ordinal that was being handled. -/
  | ordinal (p : UInt32)
  /-- The set that was being rolled out. -/
  | strategy (id : WorkloadId)

/-- The ordinal that is added, if it is one. -/
def Wrapping.ordinal? : Wrapping → Option UInt32
  | .ordinal p => some p
  | .strategy _ => none

/-- The error with something added. -/
def wrap (e : RolloutError) : Wrapping → RolloutError
  | .ordinal p => e.addOrdinal p
  | .strategy id => e.inStrategy id

/-- The error with all of a row added, one after the other. -/
def wrapAll (e : RolloutError) (ws : List Wrapping) : RolloutError :=
  ws.foldl wrap e

theorem conveys_wrap (e : RolloutError) (w : Wrapping) : Conveys (e.wrap w) e := by
  cases w with
  | ordinal p => exact e.conveys_addOrdinal p
  | strategy id => exact e.conveys_inStrategy id

theorem ordinal_wrap (e : RolloutError) (w : Wrapping) :
    (e.wrap w).ordinal = e.ordinal.or w.ordinal? := by
  cases w with
  | ordinal p =>
    rw [wrap, ordinal_addOrdinal_eq, Wrapping.ordinal?]
    cases e.ordinal <;> rfl
  | strategy id => exact Option.or_none.symm

theorem conveys_wrapAll (e : RolloutError) (ws : List Wrapping) : Conveys (e.wrapAll ws) e := by
  induction ws generalizing e with
  | nil => exact .refl e
  | cons w ws ih => exact (ih (e.wrap w)).trans (e.conveys_wrap w)

/-- The ordinal of a wrapped error is the first one that came up. -/
theorem ordinal_wrapAll (e : RolloutError) (ws : List Wrapping) :
    (e.wrapAll ws).ordinal = e.ordinal.or (ws.findSome? Wrapping.ordinal?) := by
  induction ws generalizing e with
  | nil => exact Option.or_none.symm
  | cons w ws ih =>
    have hfirst : (w :: ws).findSome? Wrapping.ordinal? =
        w.ordinal?.or (ws.findSome? Wrapping.ordinal?) := by
      rw [List.findSome?_cons]
      cases w.ordinal? <;> rfl
    calc (e.wrapAll (w :: ws)).ordinal
      _ = (e.wrap w).ordinal.or (ws.findSome? Wrapping.ordinal?) := ih (e.wrap w)
      _ = e.ordinal.or ((w :: ws).findSome? Wrapping.ordinal?) := by
        rw [ordinal_wrap, Option.or_assoc, hfirst]

/-- **Wrappers are transparent.** The root of an error is never a wrapper, is its own root and
decides the kind, and its causes come last, however many wrappers there are around it. Wrapping an
error keeps the root and the kind, and the causes below the wrapper end with all causes of the
error. An ordinal is added only if none is named yet, so never twice. For wrappings in a row all
this holds as well, and the first ordinal that comes up is the one that is named. -/
theorem wrapping_transparent (e : RolloutError) (p q : UInt32) (id : WorkloadId) :
    (e.root.isWrapper = false ∧ e.root.root = e.root ∧ e.kind = e.root.kind ∧
      e.root.causes <:+ e.causes) ∧
    (Conveys (e.addOrdinal p) e ∧ (e.addOrdinal p).ordinal = some (e.ordinal.getD p) ∧
      (e.addOrdinal p).addOrdinal q = e.addOrdinal p ∧
      (e.addOrdinal p).causes =
        if e.ordinal.isSome then e.causes else e.message :: e.causes) ∧
    (Conveys (e.inStrategy id) e ∧ (e.inStrategy id).ordinal = e.ordinal ∧
      (e.inStrategy id).causes = e.message :: e.causes) ∧
    ∀ ws, Conveys (e.wrapAll ws) e ∧
      (e.wrapAll ws).ordinal = e.ordinal.or (ws.findSome? Wrapping.ordinal?) := by
  have hroot := e.conveys_root
  refine ⟨⟨e.isWrapper_root, e.root_root, hroot.kind, hroot.causes⟩, ?_, ?_, ?_⟩
  · exact ⟨e.conveys_addOrdinal p, e.ordinal_addOrdinal_eq p, e.addOrdinal_addOrdinal p q,
      e.causes_addOrdinal p⟩
  · exact ⟨e.conveys_inStrategy id, rfl, rfl⟩
  · intro ws
    exact ⟨e.conveys_wrapAll ws, e.ordinal_wrapAll ws⟩

end PartitionedRollout.RolloutError
