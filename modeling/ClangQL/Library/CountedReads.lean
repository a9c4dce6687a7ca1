import Mathlib.Data.List.Nodup
import Mathlib.Data.List.Range
import ClangQL.Library.ExceptBind

/-!
# Counted reads

A decoder takes its arguments one after the other: each of its steps either leaves the state as
it is or reads the argument at a counter kept in the state and moves the counter on. A step that
fails ends the decoding. Whether it ends early or not, the positions read follow one another, so
none is read twice, and there are no more of them than steps that read.

## Main definitions

* `ReadStep σ ε`: a step, and whether it reads
* `ReadStep.Advances counter`: the counter moves on by one for each read
* `ReadStep.positions`: the positions read until the steps end or one fails

## Main results

* `ReadStep.positions_eq_range'`: the positions read are consecutive
* `ReadStep.log_eq_positions`: a log of the reads holds the positions read
* `ReadStep.exists_mem_positions_of_error`: an error comes from a position read
* `ReadStep.foldlM_eq_error`: a bad argument ends the decoding
-/

universe u

/-- A step of a decoder, with whether it reads an argument. -/
structure ReadStep (σ ε : Type*) where
  reads : Bool
  run : σ → Except ε σ

namespace ReadStep

variable {σ : Type u} {ε : Type*} (counter : σ → ℕ)

/-- The number of arguments the steps read when none fails. -/
def count (steps : List (ReadStep σ ε)) : ℕ := steps.countP reads

/-- The counter moves on by one for a read, and stays otherwise. -/
def Advances (step : ReadStep σ ε) : Prop :=
  ∀ s s', step.run s = .ok s' → counter s' = counter s + if step.reads then 1 else 0

/-- The positions read from a state on, until the steps end or one of them fails. -/
def positions : List (ReadStep σ ε) → σ → List ℕ
  | [], _ => []
  | step :: steps, s =>
    (if step.reads then [counter s] else []) ++
      match step.run s with
      | .ok s' => positions steps s'
      | .error _ => []

variable {counter} {steps : List (ReadStep σ ε)}

/-- **The positions read are consecutive**, from the counter on. -/
theorem positions_eq_range' (h : ∀ step ∈ steps, step.Advances counter) (s : σ) :
    ∃ n ≤ count steps, positions counter steps s = List.range' (counter s) n := by
  induction steps generalizing s with
  | nil => exact ⟨0, le_rfl, rfl⟩
  | cons step steps ih =>
    obtain ⟨n, hn, hrest⟩ : ∃ n ≤ count steps,
        (match step.run s with
          | .ok s' => positions counter steps s'
          | .error _ => []) = List.range' (counter s + if step.reads then 1 else 0) n := by
      cases hrun : step.run s with
      | error e => exact ⟨0, Nat.zero_le _, rfl⟩
      | ok s' =>
        obtain ⟨n, hn, hs'⟩ := ih (fun step hstep => h step (List.mem_cons_of_mem _ hstep)) s'
        rw [h step List.mem_cons_self s s' hrun] at hs'
        exact ⟨n, hn, hs'⟩
    rw [positions, hrest]
    unfold count at hn ⊢
    cases hreads : step.reads with
    | true =>
      rw [List.countP_cons_of_pos hreads]
      exact ⟨n + 1, by omega, List.range'_succ.symm⟩
    | false =>
      rw [List.countP_cons_of_neg (by simp [hreads])]
      exact ⟨n, hn, rfl⟩

/-- No position is read twice. -/
theorem nodup_positions (h : ∀ step ∈ steps, step.Advances counter) (s : σ) :
    (positions counter steps s).Nodup := by
  obtain ⟨n, -, hn⟩ := positions_eq_range' h s
  rw [hn]
  exact List.nodup_range'

/-- The positions read are below the counter plus the number of reads. -/
theorem lt_of_mem_positions (h : ∀ step ∈ steps, step.Advances counter) {s : σ} {p : ℕ}
    (hp : p ∈ positions counter steps s) : p < counter s + count steps := by
  obtain ⟨n, hle, hn⟩ := positions_eq_range' h s
  rw [hn, List.mem_range'_1] at hp
  omega

/-- A log that every step keeps holds the positions read, when no step fails. -/
theorem log_eq_positions (log : σ → List ℕ) (h : ∀ step ∈ steps, ∀ s s', step.run s = .ok s' →
      log s' = log s ++ if step.reads then [counter s] else [])
    {s s' : σ} (hrun : steps.foldlM (fun s step => step.run s) s = .ok s') :
    log s' = log s ++ positions counter steps s := by
  induction steps generalizing s with
  | nil =>
    obtain rfl := Except.ok.inj hrun
    exact (List.append_nil _).symm
  | cons step steps ih =>
    rw [List.foldlM_cons] at hrun
    obtain ⟨t, hstep, hrest⟩ := Except.bind_eq_ok.mp hrun
    rw [ih (fun step hstep => h step (List.mem_cons_of_mem _ hstep)) hrest,
      h step List.mem_cons_self s t hstep, positions, hstep, List.append_assoc]

/-- **An error comes from a position read**: if the steps end in an error only on a bad argument
they read, a decoding that ends in it has read a bad argument. -/
theorem exists_mem_positions_of_error (counter : σ → ℕ) (bad : ℕ → Prop) {e : ε}
    (hfail : ∀ step ∈ steps, ∀ s, step.run s = .error e → step.reads = true ∧ bad (counter s))
    {s : σ} (h : steps.foldlM (fun s step => step.run s) s = .error e) :
    ∃ p ∈ positions counter steps s, bad p := by
  induction steps generalizing s with
  | nil => exact absurd h (by simp [pure, Except.pure])
  | cons step steps ih =>
    rw [List.foldlM_cons] at h
    rcases Except.bind_eq_error.mp h with hrun | ⟨s', hrun, hrest⟩
    · obtain ⟨hreads, hbad⟩ := hfail step List.mem_cons_self s hrun
      refine ⟨counter s, ?_, hbad⟩
      rw [positions, if_pos hreads]
      exact List.mem_append_left _ (List.mem_singleton_self _)
    · obtain ⟨p, hp, hbad⟩ :=
        ih (fun step hstep => hfail step (List.mem_cons_of_mem _ hstep)) hrest
      refine ⟨p, ?_, hbad⟩
      rw [positions, hrun]
      exact List.mem_append_right _ hp

/-- **A bad argument ends the decoding** with its error, when the steps fail in no other way up
to it. -/
theorem foldlM_eq_error (counter : σ → ℕ) (bad : ℕ → Prop) {e : ε} {p : ℕ}
    (h : ∀ step ∈ steps, step.Advances counter)
    (hbad : ∀ step ∈ steps, step.reads = true → ∀ s, bad (counter s) → step.run s = .error e)
    (hother : ∀ step ∈ steps, ∀ s, counter s ≤ p →
      step.run s = .error e ∨ ∃ s', step.run s = .ok s')
    {s : σ} (hp : bad p) (hle : counter s ≤ p) (hlt : p < counter s + count steps) :
    steps.foldlM (fun s step => step.run s) s = .error e := by
  induction steps generalizing s with
  | nil => exact absurd hlt (not_lt.mpr hle)
  | cons step steps ih =>
    rw [List.foldlM_cons]
    rcases hother step List.mem_cons_self s hle with hrun | ⟨s', hrun⟩
    · rw [hrun]
      rfl
    · rw [hrun]
      have hnext := h step List.mem_cons_self s s' hrun
      have hle' : counter s' ≤ p ∧ p < counter s' + count steps := by
        rw [hnext]
        cases hreads : step.reads with
        | true =>
          have hne : counter s ≠ p := by
            rintro rfl
            exact absurd ((hbad step List.mem_cons_self hreads s hp).symm.trans hrun) (by simp)
          rw [count, List.countP_cons_of_pos hreads] at hlt
          unfold count
          simp only [if_true]
          omega
        | false =>
          rw [count, List.countP_cons_of_neg (by simp [hreads])] at hlt
          simpa [count] using ⟨hle, hlt⟩
      exact ih (fun step hstep => h step (List.mem_cons_of_mem _ hstep))
        (fun step hstep => hbad step (List.mem_cons_of_mem _ hstep))
        (fun step hstep => hother step (List.mem_cons_of_mem _ hstep)) hle'.1 hle'.2

end ReadStep
