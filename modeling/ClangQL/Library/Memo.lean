import Mathlib.Data.List.AList

/-!
# Memo tables

A memo table makes the object of a key when the key is first asked for, and answers every later
request for the key with the same object. The objects are numbered in the order they are made,
so that two objects made for one key would differ.

## Main definitions

* `Made κ`: an object, with the key it was made for and its number
* `Memo κ`: the objects made so far, one for each key asked for
* `Memo.get`: the object of a key, made if need be
* `Memo.Extends`: a later table of the same objects

## Main results

* `Memo.get_extends`, `Memo.find_get`: a request keeps the objects there are, and leaves its own
* `Memo.mem_keys_get`: the keys are those asked for
* `Memo.eq_iff_key_eq`: the objects of a table are told apart by their keys
-/

/-- An object made for a key: the key, and the number of objects made before. -/
structure Made (κ : Type*) where
  key : κ
  serial : ℕ
  deriving DecidableEq

/-- The objects made so far. -/
structure Memo (κ : Type*) [DecidableEq κ] where
  /-- The object of each key asked for. -/
  objects : AList fun _ : κ => Made κ
  /-- The number of objects made. -/
  count : ℕ
  count_eq : count = objects.keys.length
  key_eq : ∀ {k : κ} {o : Made κ}, objects.lookup k = some o → o.key = k

namespace Memo

variable {κ : Type*} [DecidableEq κ]

/-- No object has been made. -/
def empty : Memo κ where
  objects := ∅
  count := 0
  count_eq := rfl
  key_eq h := absurd h (by simp)

/-- The object of a key, if it has been made. -/
def find (m : Memo κ) (k : κ) : Option (Made κ) := m.objects.lookup k

/-- The keys asked for. -/
def keys (m : Memo κ) : List κ := m.objects.keys

@[simp] theorem find_empty (k : κ) : (empty : Memo κ).find k = none := AList.lookup_empty k

@[simp] theorem keys_empty : (empty : Memo κ).keys = [] := rfl

theorem nodup_keys (m : Memo κ) : m.keys.Nodup := m.objects.keys_nodup

theorem count_eq_length (m : Memo κ) : m.count = m.keys.length := m.count_eq

theorem find_eq_none_iff {m : Memo κ} {k : κ} : m.find k = none ↔ k ∉ m.keys := by
  rw [find, AList.lookup_eq_none, AList.mem_keys, keys]

theorem key_of_find {m : Memo κ} {k : κ} {o : Made κ} (h : m.find k = some o) : o.key = k :=
  m.key_eq h

/-- A new object for a key that has none. -/
def make (m : Memo κ) (k : κ) (h : m.find k = none) : Memo κ where
  objects := m.objects.insert k ⟨k, m.count⟩
  count := m.count + 1
  count_eq := by
    have hk : k ∉ m.objects.keys := find_eq_none_iff.mp h
    rw [AList.keys_insert, List.erase_of_not_mem hk, List.length_cons, m.count_eq]
  key_eq {k' o} h' := by
    by_cases hk : k' = k
    · subst hk
      rw [AList.lookup_insert] at h'
      rw [← Option.some.inj h']
    · rw [AList.lookup_insert_ne hk] at h'
      exact m.key_eq h'

/-- The object of a key: the one made before, or a new one. -/
def get (m : Memo κ) (k : κ) : Made κ × Memo κ :=
  match h : m.find k with
  | some o => (o, m)
  | none => (⟨k, m.count⟩, m.make k h)

/-- A later table: it has all objects of the earlier one. -/
def Extends (m' m : Memo κ) : Prop := ∀ k o, m.find k = some o → m'.find k = some o

theorem Extends.refl (m : Memo κ) : m.Extends m := fun _ _ h => h

theorem Extends.trans {m m' m'' : Memo κ} (h : m''.Extends m') (h' : m'.Extends m) :
    m''.Extends m := fun k o ho => h k o (h' k o ho)

variable {m : Memo κ} {k k' : κ} {o : Made κ}

theorem get_of_find (h : m.find k = some o) : m.get k = (o, m) := by
  unfold get
  split
  · next o' ho' =>
    rw [Option.some.inj (ho'.symm.trans h)]
  · next hnone => exact absurd (hnone.symm.trans h) (by simp)

theorem get_of_find_none (h : m.find k = none) : m.get k = (⟨k, m.count⟩, m.make k h) := by
  unfold get
  split
  · next o ho => exact absurd (ho.symm.trans h) (by simp)
  · rfl

theorem find_make_self (h : m.find k = none) : (m.make k h).find k = some ⟨k, m.count⟩ :=
  AList.lookup_insert m.objects

theorem find_make_of_ne (h : m.find k = none) (hne : k' ≠ k) :
    (m.make k h).find k' = m.find k' := AList.lookup_insert_ne hne

/-- **A request leaves the object it answered with.** -/
theorem find_get (m : Memo κ) (k : κ) : (m.get k).2.find k = some (m.get k).1 := by
  cases h : m.find k with
  | some o => rw [get_of_find h, h]
  | none => rw [get_of_find_none h, find_make_self h]

/-- **A request keeps the objects there are.** -/
theorem get_extends (m : Memo κ) (k : κ) : (m.get k).2.Extends m := by
  cases h : m.find k with
  | some o =>
    rw [get_of_find h]
    exact Extends.refl m
  | none =>
    rw [get_of_find_none h]
    intro k' o' ho'
    have hne : k' ≠ k := by
      rintro rfl
      exact absurd (h.symm.trans ho') (by simp)
    rw [find_make_of_ne h hne, ho']

@[simp] theorem key_get (m : Memo κ) (k : κ) : (m.get k).1.key = k :=
  key_of_find (find_get m k)

/-- The keys of a table are those asked for. -/
theorem mem_keys_get : k' ∈ (m.get k).2.keys ↔ k' = k ∨ k' ∈ m.keys := by
  cases h : m.find k with
  | some o =>
    have hk : k ∈ m.keys := by
      by_contra hk
      exact absurd (h.symm.trans (find_eq_none_iff.mpr hk)) (by simp)
    rw [get_of_find h]
    constructor
    · exact Or.inr
    · rintro (rfl | hk')
      · exact hk
      · exact hk'
  | none =>
    rw [get_of_find_none h, keys, make, keys, ← AList.mem_keys, ← AList.mem_keys,
      AList.mem_insert]

/-- **Objects are told apart by their keys.** -/
theorem eq_iff_key_eq {o o' : Made κ} (h : m.find o.key = some o) (h' : m.find o'.key = some o') :
    o = o' ↔ o.key = o'.key := by
  constructor
  · rintro rfl
    rfl
  · intro hkey
    rw [hkey] at h
    exact Option.some.inj (h.symm.trans h')

end Memo
