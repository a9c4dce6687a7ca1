import Mathlib.Data.List.Basic

/-!
# The first match of a search loop

A loop over an array that skips the entries it does not want and breaks at the first one it
wants computes the position and the value of the first match.

## Main definitions

* `firstMatch p l`: the first entry of `l` that `p` accepts, with its position

## Main results

* `firstMatch_eq_some_iff`, `firstMatch_eq_none_iff`: a first match is an accepted entry with
  no accepted entry before it, and is missing exactly when nothing is accepted
* `firstMatch_map`: searching the images searches the preimages
* `map_snd_firstMatch`: without its position, a first match is `List.find?`
* `map_fst_firstMatch`: its position is `List.findIdx?`
* `find?_of_nodup`: a search by a key that no two entries share finds the entry
-/

variable {α β : Type*}

/-- The first entry of a list that `p` accepts, with its position. -/
def firstMatch (p : α → Bool) : List α → Option (ℕ × α)
  | [] => none
  | a :: l => if p a then some (0, a) else (firstMatch p l).map fun m => (m.1 + 1, m.2)

variable {p : α → Bool} {l : List α} {i : ℕ} {a : α}

theorem firstMatch_eq_some_iff : firstMatch p l = some (i, a) ↔
    l[i]? = some a ∧ p a = true ∧ ∀ j < i, ∀ b, l[j]? = some b → p b = false := by
  induction l generalizing i with
  | nil => simp [firstMatch]
  | cons b l ih =>
    unfold firstMatch
    by_cases hb : p b = true
    · rw [if_pos hb]
      constructor
      · rintro h
        obtain ⟨rfl, rfl⟩ : 0 = i ∧ b = a := by simpa using h
        exact ⟨rfl, hb, fun j hj => absurd hj (Nat.not_lt_zero j)⟩
      · rintro ⟨hi, -, hfirst⟩
        cases i with
        | zero => simpa using hi
        | succ i => exact absurd (hfirst 0 (by omega) b rfl) (by simp [hb])
    · rw [if_neg hb, Option.map_eq_some_iff]
      constructor
      · rintro ⟨⟨k, c⟩, hm, he⟩
        obtain ⟨rfl, rfl⟩ : k + 1 = i ∧ c = a := by simpa using he
        obtain ⟨hk, hc, hfirst⟩ := ih.mp hm
        refine ⟨by simpa using hk, hc, fun j hj d hd => ?_⟩
        cases j with
        | zero => obtain rfl : b = d := by simpa using hd
                  simpa using hb
        | succ j => exact hfirst j (by omega) d (by simpa using hd)
      · rintro ⟨hi, ha, hfirst⟩
        cases i with
        | zero =>
          obtain rfl : b = a := by simpa using hi
          exact absurd ha hb
        | succ i =>
          refine ⟨(i, a), ih.mpr ⟨by simpa using hi, ha, fun j hj d hd => ?_⟩, rfl⟩
          exact hfirst (j + 1) (by omega) d (by simpa using hd)

theorem firstMatch_eq_none_iff : firstMatch p l = none ↔ ∀ a ∈ l, p a = false := by
  induction l with
  | nil => simp [firstMatch]
  | cons b l ih =>
    by_cases hb : p b = true
    · simp [firstMatch, hb]
    · simp [firstMatch, hb, ih]

theorem firstMatch_map (f : β → α) (l : List β) :
    firstMatch p (l.map f) = (firstMatch (p ∘ f) l).map fun m => (m.1, f m.2) := by
  induction l with
  | nil => rfl
  | cons b l ih =>
    by_cases hb : p (f b) = true
    · simp [firstMatch, hb]
    · simp [firstMatch, hb, ih, Function.comp_def]

theorem map_snd_firstMatch (p : α → Bool) (l : List α) :
    (firstMatch p l).map Prod.snd = l.find? p := by
  induction l with
  | nil => rfl
  | cons b l ih =>
    by_cases hb : p b = true
    · simp [firstMatch, hb]
    · simp [firstMatch, hb, ← ih, Function.comp_def]

theorem map_fst_firstMatch (p : α → Bool) (l : List α) :
    (firstMatch p l).map Prod.fst = l.findIdx? p := by
  induction l with
  | nil => rfl
  | cons b l ih =>
    by_cases hb : p b = true
    · simp [firstMatch, List.findIdx?_cons, hb]
    · simp [firstMatch, List.findIdx?_cons, hb, ← ih, Function.comp_def]

theorem firstMatch_getElem? (h : firstMatch p l = some (i, a)) : l[i]? = some a :=
  (firstMatch_eq_some_iff.mp h).1

theorem firstMatch_lt (h : firstMatch p l = some (i, a)) : i < l.length :=
  (List.getElem?_eq_some_iff.mp (firstMatch_getElem? h)).1

theorem firstMatch_accepts (h : firstMatch p l = some (i, a)) : p a = true :=
  (firstMatch_eq_some_iff.mp h).2.1

/-- An entry is found by its key when no other has it. -/
theorem find?_of_nodup {κ : Type*} [BEq κ] [LawfulBEq κ] (key : α → κ) (h : (l.map key).Nodup)
    (ha : a ∈ l) : (l.find? fun b => key b == key a) = some a := by
  induction l with
  | nil => cases ha
  | cons b l ih =>
    rw [List.map_cons, List.nodup_cons] at h
    rcases List.mem_cons.mp ha with rfl | ha
    · exact List.find?_cons_of_pos (by simp)
    · have hne : ¬ (key b == key a) = true := by
        intro he
        exact h.1 (eq_of_beq he ▸ List.mem_map_of_mem ha)
      exact (List.find?_cons_of_neg (p := fun c => key c == key a) hne).trans (ih h.2 ha)
