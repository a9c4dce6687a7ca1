import Mathlib.Data.List.Basic

/-!
# Labelled runs

A run takes the labels of a list one after the other, each by one step of a transition
relation. An invariant of a run may speak of the labels taken so far, so that what a state
holds can be tied to the history that led to it.

## Main definitions

* `LabelledRun step s ks t`: the labels `ks`, taken in order, lead from `s` to `t`

## Main results

* `LabelledRun.cons`: a step before a run
* `LabelledRun.invariant`: a property of the history and the state, kept by every step,
  holds along every run
* `LabelledRun.invariant_state`: the same for a property of the state alone
* `LabelledRun.exists_step`: every label of a run was taken
-/

variable {σ κ : Type*}

/-- The labels `ks`, taken in order by `step`, lead from `s` to the last state. -/
inductive LabelledRun (step : σ → κ → σ → Prop) (s : σ) : List κ → σ → Prop
  | nil : LabelledRun step s [] s
  | snoc {ks : List κ} {t u : σ} {k : κ} :
      LabelledRun step s ks t → step t k u → LabelledRun step s (ks ++ [k]) u

namespace LabelledRun

variable {step : σ → κ → σ → Prop} {s t : σ} {ks : List κ}

/-- A step before a run. -/
theorem cons {u : σ} {k : κ} (hstep : step s k t) (h : LabelledRun step t ks u) :
    LabelledRun step s (k :: ks) u := by
  induction h with
  | nil => exact .snoc .nil hstep
  | snoc _ hlast ih => exact .snoc ih hlast

/-- A property of the labels taken so far and of the state they led to holds along every run
when it holds at the start and every step keeps it. -/
theorem invariant {I : List κ → σ → Prop} (h : LabelledRun step s ks t) (hinit : I [] s)
    (hstep : ∀ ks t k u, I ks t → step t k u → I (ks ++ [k]) u) : I ks t := by
  induction h with
  | nil => exact hinit
  | snoc _ hk ih => exact hstep _ _ _ _ ih hk

/-- Every label of a run was taken by a step. -/
theorem exists_step {k : κ} (h : LabelledRun step s ks t) (hk : k ∈ ks) : ∃ u v, step u k v := by
  induction h with
  | nil => exact absurd hk List.not_mem_nil
  | snoc _ hstep ih =>
    rcases List.mem_append.mp hk with hk | hk
    · exact ih hk
    · rw [List.mem_singleton.mp hk]
      exact ⟨_, _, hstep⟩

/-- A property of states kept by every step holds at the end of every run. -/
theorem invariant_state {I : σ → Prop} (h : LabelledRun step s ks t) (hinit : I s)
    (hstep : ∀ t k u, I t → step t k u → I u) : I t :=
  h.invariant (I := fun _ => I) hinit fun _ t k u => hstep t k u

end LabelledRun
