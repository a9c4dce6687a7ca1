import Mathlib.Data.List.Flatten
import Mathlib.Data.List.Perm.Subperm

/-!
# Nested loops

A nested loop enumerates the items of its first level and, for each of them, runs the levels
below, which may look at the items above them. Every level has a state that it keeps between its
runs. When each run of a level enumerates the items of its base that pass its test, in any order,
and leaves its invariant as it was, the loop enumerates the tuples of the product of the bases
that pass all tests.

## Main definitions

* `Level α`: a level, with what it owes
* `ForEach`: a loop over items, with the state threaded through its body
* `Level.NestedLoop`: the nested loop over some levels
* `Level.product`, `Level.passes`: the tuples of some levels, and those that pass all tests
* `Level.comprehension`: these tuples, level by level
* `Level.Meets`, `Level.AllMeet`: a level, and all levels, enumerate what they owe
* `Level.Bounded`, `Level.AllBounded`: a level, and all levels, enumerate no more than that

## Main results

* `ForEach.perm`, `ForEach.subperm`, `ForEach.exists_of_forall`: the loop over a body that meets
  its specification
* `Level.comprehension_eq_filter`: the comprehension is the filtered product
* `Level.nestedLoop_subperm`: a nested loop over bounded levels enumerates no more than that
* `Level.nestedLoop_perm`: the nested loop enumerates it
-/

/-! ## Loops -/

section ForEach

variable {σ α β : Type*} {body : α → σ → List β → σ → Prop} {I : σ → Prop} {f : α → List β}
  {items items' : List α} {s t : σ} {out : List β}

/-- The loop over the items: the outputs of the body in sequence, each run of it from the state
the one before has left. -/
inductive ForEach (body : α → σ → List β → σ → Prop) : List α → σ → List β → σ → Prop
  | nil {s : σ} : ForEach body [] s [] s
  | cons {a : α} {items : List α} {s t u : σ} {out out' : List β} :
      body a s out t → ForEach body items t out' u → ForEach body (a :: items) s (out ++ out') u

/-- A loop whose body keeps `I` and outputs `f a`, up to order, outputs all of them. -/
theorem ForEach.perm (h : ForEach body items s out t) (hs : I s)
    (hbody : ∀ a ∈ items, ∀ s, I s → ∀ out t, body a s out t → out.Perm (f a) ∧ I t) :
    out.Perm (items.flatMap f) ∧ I t := by
  induction h with
  | nil => exact ⟨.refl _, hs⟩
  | @cons a items s t u out out' hrun hrest ih =>
    obtain ⟨hout, ht⟩ := hbody a List.mem_cons_self s hs out t hrun
    obtain ⟨hout', hu⟩ := ih ht fun b hb => hbody b (List.mem_cons_of_mem a hb)
    rw [List.flatMap_cons]
    exact ⟨hout.append hout', hu⟩

/-- A loop over some of the items, whose body keeps `I` and outputs no more than `f a`, outputs no
more than all of them. -/
theorem ForEach.subperm (h : ForEach body items s out t) (hs : I s)
    (hbody : ∀ a ∈ items, ∀ s, I s → ∀ out t, body a s out t → out.Subperm (f a) ∧ I t) :
    out.Subperm (items.flatMap f) ∧ I t := by
  induction h with
  | nil => exact ⟨.refl _, hs⟩
  | @cons a items s t u out out' hrun hrest ih =>
    obtain ⟨hout, ht⟩ := hbody a List.mem_cons_self s hs out t hrun
    obtain ⟨hout', hu⟩ := ih ht fun b hb => hbody b (List.mem_cons_of_mem a hb)
    rw [List.flatMap_cons]
    exact ⟨hout.append hout', hu⟩

theorem subperm_flatMap (h : items.Subperm items') (f : α → List β) :
    (items.flatMap f).Subperm (items'.flatMap f) := by
  obtain ⟨l, hperm, hsub⟩ := h
  exact (hperm.flatMap_right f).symm.subperm.trans (hsub.flatMap f).subperm

/-- A loop whose body keeps `I` and always ends, ends. -/
theorem ForEach.exists_of_forall (items : List α) (hs : I s)
    (hend : ∀ a ∈ items, ∀ s, I s → ∃ out t, body a s out t)
    (hkeep : ∀ a ∈ items, ∀ s, I s → ∀ out t, body a s out t → I t) :
    ∃ out t, ForEach body items s out t := by
  induction items generalizing s with
  | nil => exact ⟨[], s, .nil⟩
  | cons a items ih =>
    obtain ⟨out, t, hrun⟩ := hend a List.mem_cons_self s hs
    have ht := hkeep a List.mem_cons_self s hs out t hrun
    obtain ⟨out', u, hrest⟩ := ih ht (fun b hb => hend b (List.mem_cons_of_mem a hb))
      fun b hb => hkeep b (List.mem_cons_of_mem a hb)
    exact ⟨out ++ out', u, .cons hrun hrest⟩

end ForEach

/-! ## Levels -/

/-- One level of a nested loop: its runs, each for the items of the levels above, from a state
to another; the invariant of its states; and its base with the test of an item of it below the
items above. -/
structure Level (α : Type*) where
  State : Type
  Enumerates : List α → State → List α → State → Prop
  Inv : State → Prop
  base : List α
  test : List α → α → Bool

namespace Level

variable {α : Type*}

/-- The states of some levels. -/
def States : List (Level α) → Type
  | [] => Unit
  | l :: levels => l.State × States levels

/-- The nested loop, below the items `outer`: it enumerates tuples of one item for each level. -/
def NestedLoop : (levels : List (Level α)) → List α → States levels → List (List α) →
    States levels → Prop
  | [], outer, _, out, _ => out = [outer]
  | l :: levels, outer, s, out, t => ∃ items, l.Enumerates outer s.1 items t.1 ∧
      ForEach (fun a => NestedLoop levels (outer ++ [a])) items s.2 out t.2

/-- The items that a level owes, below the items `outer`. -/
def items (l : Level α) (outer : List α) : List α := l.base.filter (l.test outer)

/-- The tuples of one item of each base. -/
def product : List (Level α) → List (List α)
  | [] => [[]]
  | l :: levels => l.base.flatMap fun a => (product levels).map (a :: ·)

/-- Whether every item of a tuple passes the test of its level, below the items `outer`. -/
def passes : List (Level α) → List α → List α → Bool
  | l :: levels, outer, a :: tuple => l.test outer a && passes levels (outer ++ [a]) tuple
  | _, _, _ => true

/-- The tuples that the levels owe, below the items `outer`. -/
def comprehension : List (Level α) → List α → List (List α)
  | [], outer => [outer]
  | l :: levels, outer => (l.items outer).flatMap fun a => comprehension levels (outer ++ [a])

/-- The states of all levels satisfy their invariants. -/
def Ready : (levels : List (Level α)) → States levels → Prop
  | [], _ => True
  | l :: levels, s => l.Inv s.1 ∧ Ready levels s.2

/-- Every run of the level, below the items `outer`, ends, enumerates the items owed and keeps
the invariant. -/
structure Meets (l : Level α) (outer : List α) : Prop where
  ends : ∀ s, l.Inv s → ∃ items t, l.Enumerates outer s items t
  perm : ∀ {s items t}, l.Inv s → l.Enumerates outer s items t → items.Perm (l.items outer)
  keeps : ∀ {s items t}, l.Inv s → l.Enumerates outer s items t → l.Inv t

/-- Every run of the level, below the items `outer`, ends, enumerates no more than the items owed
and keeps the invariant. -/
structure Bounded (l : Level α) (outer : List α) : Prop where
  ends : ∀ s, l.Inv s → ∃ items t, l.Enumerates outer s items t
  subperm : ∀ {s items t}, l.Inv s → l.Enumerates outer s items t →
    items.Subperm (l.items outer)
  keeps : ∀ {s items t}, l.Inv s → l.Enumerates outer s items t → l.Inv t

theorem Meets.bounded {l : Level α} {outer : List α} (h : l.Meets outer) : l.Bounded outer :=
  ⟨h.ends, fun hs hrun => (h.perm hs hrun).subperm, h.keeps⟩

/-- Every level meets its specification below the items the levels above it owe. -/
def AllMeet : List (Level α) → List α → Prop
  | [], _ => True
  | l :: levels, outer => l.Meets outer ∧ ∀ a ∈ l.items outer, AllMeet levels (outer ++ [a])

/-- Every level is bounded below the items the levels above it owe. -/
def AllBounded : List (Level α) → List α → Prop
  | [], _ => True
  | l :: levels, outer => l.Bounded outer ∧ ∀ a ∈ l.items outer, AllBounded levels (outer ++ [a])

variable {levels : List (Level α)} {outer : List α}

theorem AllMeet.allBounded (h : AllMeet levels outer) : AllBounded levels outer := by
  induction levels generalizing outer with
  | nil => trivial
  | cons l levels ih => exact ⟨h.1.bounded, fun a ha => ih (h.2 a ha)⟩

theorem flatMap_filter {β : Type*} (l : List α) (p : α → Bool) (f : α → List β) :
    (l.filter p).flatMap f = l.flatMap fun a => if p a then f a else [] := by
  induction l with
  | nil => rfl
  | cons a l ih =>
    rw [List.flatMap_cons, ← ih, List.filter_cons]
    cases p a <;> simp

/-- **The comprehension is the filtered product.** -/
theorem comprehension_eq_filter (levels : List (Level α)) (outer : List α) :
    comprehension levels outer =
      ((product levels).filter (passes levels outer)).map (outer ++ ·) := by
  induction levels generalizing outer with
  | nil => simp [comprehension, product, passes]
  | cons l levels ih =>
    rw [comprehension, items, flatMap_filter, product, List.filter_flatMap, List.map_flatMap]
    refine List.flatMap_congr fun a _ => ?_
    rw [List.filter_map, List.map_map, ih]
    cases h : l.test outer a with
    | true => simp [Function.comp_def, passes, h]
    | false => simp [Function.comp_def, passes, h]

/-- **A nested loop over bounded levels** ends, outputs no tuple more often than the comprehension
has it, and leaves its states ready for another run. -/
theorem nestedLoop_subperm (h : AllBounded levels outer) {s : States levels}
    (hs : Ready levels s) :
    (∃ out t, NestedLoop levels outer s out t) ∧ ∀ out t, NestedLoop levels outer s out t →
      out.Subperm (comprehension levels outer) ∧ Ready levels t := by
  induction levels generalizing outer with
  | nil =>
    refine ⟨⟨[outer], s, rfl⟩, ?_⟩
    rintro out t rfl
    exact ⟨.refl _, trivial⟩
  | cons l levels ih =>
    obtain ⟨hbounded, hbelow⟩ := h
    obtain ⟨hinv, hready⟩ := hs
    have hbody : ∀ a ∈ l.items outer, ∀ s, Ready levels s →
        (∃ out t, NestedLoop levels (outer ++ [a]) s out t) ∧
          ∀ out t, NestedLoop levels (outer ++ [a]) s out t →
            out.Subperm (comprehension levels (outer ++ [a])) ∧ Ready levels t :=
      fun a ha s hs => ih (hbelow a ha) hs
    constructor
    · obtain ⟨items, t, hrun⟩ := hbounded.ends s.1 hinv
      have hmem : ∀ a ∈ items, a ∈ l.items outer := fun a ha =>
        (hbounded.subperm hinv hrun).subset ha
      obtain ⟨out, u, hloop⟩ := ForEach.exists_of_forall items hready
        (fun a ha s hs => (hbody a (hmem a ha) s hs).1)
        fun a ha s hs out t hrun => ((hbody a (hmem a ha) s hs).2 out t hrun).2
      exact ⟨out, (t, u), items, hrun, hloop⟩
    · rintro out t ⟨items, hrun, hloop⟩
      have hsub := hbounded.subperm hinv hrun
      obtain ⟨hout, hready'⟩ := hloop.subperm hready fun a ha s hs =>
        (hbody a (hsub.subset ha) s hs).2
      exact ⟨hout.trans (subperm_flatMap hsub _), hbounded.keeps hinv hrun, hready'⟩

/-- **A nested loop enumerates the comprehension** over what its levels owe: it ends, it outputs
each tuple as often as the comprehension has it, and leaves its states ready for another run. -/
theorem nestedLoop_perm (h : AllMeet levels outer) {s : States levels} (hs : Ready levels s) :
    (∃ out t, NestedLoop levels outer s out t) ∧ ∀ out t, NestedLoop levels outer s out t →
      out.Perm (comprehension levels outer) ∧ Ready levels t := by
  refine ⟨(nestedLoop_subperm h.allBounded hs).1, ?_⟩
  intro out t hrun
  refine ⟨?_, ((nestedLoop_subperm h.allBounded hs).2 out t hrun).2⟩
  induction levels generalizing outer out with
  | nil =>
    obtain rfl := hrun
    exact .refl _
  | cons l levels ih =>
    obtain ⟨hmeets, hbelow⟩ := h
    obtain ⟨items, hrun, hloop⟩ := hrun
    have hperm := hmeets.perm hs.1 hrun
    obtain ⟨hout, -⟩ := hloop.perm hs.2 fun a ha s hs out t hrun =>
      have ha' := hbelow a (hperm.mem_iff.mp ha)
      ⟨ih ha' hs out t hrun, ((nestedLoop_subperm ha'.allBounded hs).2 out t hrun).2⟩
    exact hout.trans (hperm.flatMap_right _)

end Level
