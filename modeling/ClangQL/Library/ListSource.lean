import Mathlib.Data.List.Basic

/-!
# Sources that read out a list

A source is a state with an end test, an item and a step to the next state. It yields a list
when its end test, its items and its steps are those of a walk over that list: this is the
refinement of a stateful reader to the plain list it stands for. Draining a source is the
loop that tests, takes the item and steps.

## Main definitions

* `ListSource σ α`: an end test, a partial item and a partial step
* `ListSource.Yields S l s`: from the state `s`, the source `S` is a walk over `l`
* `ListSource.drain S n s`: the items the loop takes, within `n` tests
* `ListSource.Walks S l s t`: the walk over `l` from `s` ends in the state `t`
* `ListSource.observe S n s`: what `n` rounds of the loop see, test by test

## Main results

* `ListSource.Yields.drain_eq`: a source that yields `l` drains to `l`, with `l.length + 1`
  tests
* `ListSource.yields_of_drain`: conversely, a completed loop took the list the source yields
* `ListSource.Yields.unique`: a source yields at most one list
* `ListSource.Yields.map`: reading the items of a source through a function
-/

variable {σ α β : Type*}

/-- A reader of items: an end test, the item at hand and the step to the next one. -/
structure ListSource (σ α : Type*) where
  /-- The end test. -/
  done : σ → Bool
  /-- The item at hand, when there is one. -/
  item : σ → Option α
  /-- The step to the next item, when it can be taken. -/
  next : σ → Option σ

namespace ListSource

/-- From this state the source walks over the list: it is done exactly at the end, its items
are those of the list in order, and each step moves by one. -/
def Yields (S : ListSource σ α) : List α → σ → Prop
  | [], s => S.done s = true
  | a :: l, s => S.done s = false ∧ S.item s = some a ∧ ∃ t, S.next s = some t ∧ S.Yields l t

/-- The loop that takes the items of a source up to its end, within `n` end tests. -/
def drain (S : ListSource σ α) : ℕ → σ → Option (List α)
  | 0, _ => none
  | n + 1, s =>
    if S.done s then some []
    else (S.item s).bind fun a => (S.next s).bind fun t => (S.drain n t).map (a :: ·)

variable {S : ListSource σ α} {l l' : List α} {s : σ}

@[simp] theorem yields_nil : S.Yields [] s ↔ S.done s = true := Iff.rfl

/-- The end test of a source tells whether the list it still yields is empty. -/
theorem Yields.done_eq (h : S.Yields l s) : S.done s = l.isEmpty := by
  cases l with
  | nil => simpa using h
  | cons a l => simpa using h.1

theorem Yields.unique (h : S.Yields l s) (h' : S.Yields l' s) : l = l' := by
  induction l generalizing l' s with
  | nil =>
    cases l' with
    | nil => rfl
    | cons b l' => exact absurd (h.symm.trans h'.1) (by simp)
  | cons a l ih =>
    obtain ⟨hd, ha, t, ht, hl⟩ := h
    cases l' with
    | nil => exact absurd (hd.symm.trans h') (by simp)
    | cons b l' =>
      obtain ⟨-, hb, u, hu, hl'⟩ := h'
      obtain rfl : a = b := Option.some.inj (ha.symm.trans hb)
      obtain rfl : t = u := Option.some.inj (ht.symm.trans hu)
      rw [ih hl hl']

/-- **The loop reads the list out**: one end test per item and one at the end suffice. -/
theorem Yields.drain_eq (h : S.Yields l s) {n : ℕ} (hn : l.length < n) :
    S.drain n s = some l := by
  induction l generalizing n s with
  | nil =>
    obtain ⟨m, rfl⟩ : ∃ m, n = m + 1 := Nat.exists_eq_succ_of_ne_zero (by omega)
    simp only [drain, yields_nil.mp h, if_true]
  | cons a l ih =>
    obtain ⟨hd, ha, t, ht, hl⟩ := h
    obtain ⟨m, rfl⟩ : ∃ m, n = m + 1 := Nat.exists_eq_succ_of_ne_zero (by omega)
    have hm : S.drain m t = some l := ih hl (by simpa using hn)
    simp [drain, hd, ha, ht, hm]

/-- A completed loop took exactly the list the source yields. -/
theorem yields_of_drain {n : ℕ} (h : S.drain n s = some l) : S.Yields l s := by
  induction n generalizing l s with
  | zero => simp [drain] at h
  | succ n ih =>
    unfold drain at h
    split_ifs at h with hd
    · obtain rfl : [] = l := Option.some.inj h
      exact hd
    · obtain ⟨a, ha, h⟩ := Option.bind_eq_some_iff.mp h
      obtain ⟨t, ht, h⟩ := Option.bind_eq_some_iff.mp h
      obtain ⟨m, hm, rfl⟩ := Option.map_eq_some_iff.mp h
      exact ⟨by simpa using hd, ha, t, ht, ih hm⟩

/-- A list is drained, with some number of tests, exactly when the source yields it. -/
theorem exists_drain_iff : (∃ n, S.drain n s = some l) ↔ S.Yields l s :=
  ⟨fun ⟨_, h⟩ => yields_of_drain h, fun h => ⟨_, h.drain_eq (Nat.lt_succ_self _)⟩⟩

/-- A source that walks along with `S`, and shows `f a` wherever `S` shows `a`, yields the
images. -/
theorem Yields.map {T : ListSource σ β} (f : α → β) (hdone : ∀ s, T.done s = S.done s)
    (hitem : ∀ s a, S.item s = some a → T.item s = some (f a))
    (hnext : ∀ s, T.next s = S.next s) (h : S.Yields l s) : T.Yields (l.map f) s := by
  induction l generalizing s with
  | nil => exact (hdone s).trans h
  | cons a l ih =>
    obtain ⟨hd, ha, t, ht, hl⟩ := h
    exact ⟨(hdone s).trans hd, hitem s a ha, t, (hnext s).trans ht, ih hl⟩

/-- From the state `s` the source walks over the list, to the state `t` where it is done. -/
def Walks (S : ListSource σ α) : List α → σ → σ → Prop
  | [], s, t => S.done s = true ∧ t = s
  | a :: l, s, t => S.done s = false ∧ S.item s = some a ∧ ∃ u, S.next s = some u ∧ S.Walks l u t

/-- A source yields the list it walks over. -/
theorem exists_walks_iff : (∃ t, S.Walks l s t) ↔ S.Yields l s := by
  induction l generalizing s with
  | nil => exact ⟨fun ⟨_, h, _⟩ => h, fun h => ⟨s, h, rfl⟩⟩
  | cons a l ih =>
    constructor
    · rintro ⟨t, hd, ha, u, hu, hl⟩
      exact ⟨hd, ha, u, hu, ih.mp ⟨t, hl⟩⟩
    · rintro ⟨hd, ha, u, hu, hl⟩
      obtain ⟨t, ht⟩ := ih.mpr hl
      exact ⟨t, hd, ha, u, hu, ht⟩

/-- What `n` rounds of the loop see: the result of each end test and the item after it. -/
def observe (S : ListSource σ α) : ℕ → σ → List (Bool × Option α)
  | 0, _ => []
  | n + 1, s =>
    if S.done s then [(true, none)]
    else (false, S.item s) :: (S.next s).elim [] (S.observe n)

theorem observe_of_done {t : σ} (hs : S.done s = true) (ht : S.done t = true) (n : ℕ) :
    S.observe n s = S.observe n t := by
  cases n with
  | zero => rfl
  | succ n => simp [observe, hs, ht]

end ListSource
