import Mathlib.Data.Bool.AllAny
import Mathlib.Data.List.TakeWhile
import Mathlib.Data.Nat.Digits.Lemmas

/-!
# Hexadecimal numerals

The value of a string of hexadecimal digits, and the C function `strtoll` in base 16, which
reads such a string off the start of a C string into a signed 64-bit integer.

## Main definitions

* `hexDigit`: the value of a hexadecimal digit
* `hexValue`: the value of a string of digits
* `lowerHexDigits`: the digits with lower-case letters
* `strtoll16`: the value `strtoll(s, nullptr, 16)` returns, and whether it sets `errno` to
  `ERANGE`

## Main results

* `hexValue_injective`: strings of lower-case digits of one length have different values
* `strtoll16_eq_saturate`: on digits, `strtoll` returns the value, or the upper bound and
  `ERANGE`
-/

/-! ## Digits and their value -/

/-- The value of a hexadecimal digit, of either case. -/
def hexDigit (c : Char) : Option ℕ :=
  if '0' ≤ c ∧ c ≤ '9' then some (c.toNat - '0'.toNat)
  else if 'a' ≤ c ∧ c ≤ 'f' then some (c.toNat - 'a'.toNat + 10)
  else if 'A' ≤ c ∧ c ≤ 'F' then some (c.toNat - 'A'.toNat + 10)
  else none

/-- The value of a string of hexadecimal digits. -/
def hexValue (s : List Char) : ℕ := s.foldl (fun n c => (hexDigit c).getD 0 + 16 * n) 0

/-- The hexadecimal digits with lower-case letters. -/
def lowerHexDigits : List Char :=
  ['0', '1', '2', '3', '4', '5', '6', '7', '8', '9', 'a', 'b', 'c', 'd', 'e', 'f']

/-- The value of a digit is its position. -/
theorem hexDigit_eq_idxOf :
    ∀ c ∈ lowerHexDigits, hexDigit c = some (lowerHexDigits.idxOf c) :=
  List.all_iff_forall_prop.mp (by decide)

theorem hexDigit_lt {c : Char} (hc : c ∈ lowerHexDigits) : (hexDigit c).getD 0 < 16 := by
  rw [hexDigit_eq_idxOf c hc]
  exact List.idxOf_lt_length_iff.mpr hc

theorem isSome_hexDigit {c : Char} (hc : c ∈ lowerHexDigits) : (hexDigit c).isSome := by
  rw [hexDigit_eq_idxOf c hc]
  rfl

theorem hexDigit_injective {c d : Char} (hc : c ∈ lowerHexDigits) (hd : d ∈ lowerHexDigits)
    (h : (hexDigit c).getD 0 = (hexDigit d).getD 0) : c = d := by
  rw [hexDigit_eq_idxOf c hc, hexDigit_eq_idxOf d hd] at h
  exact (List.idxOf_inj hc).mp h

theorem hexValue_eq_ofDigits (s : List Char) :
    hexValue s = Nat.ofDigits 16 (s.map fun c => (hexDigit c).getD 0).reverse := by
  rw [Nat.ofDigits_eq_foldr, List.foldr_reverse, List.foldl_map]
  rfl

variable {s t : List Char}

/-- Strings of lower-case digits of one length have different values. -/
theorem hexValue_injective (hs : ∀ c ∈ s, c ∈ lowerHexDigits) (ht : ∀ c ∈ t, c ∈ lowerHexDigits)
    (hlen : s.length = t.length) (h : hexValue s = hexValue t) : s = t := by
  rw [hexValue_eq_ofDigits, hexValue_eq_ofDigits] at h
  have hdigits : ∀ u : List Char, (∀ c ∈ u, c ∈ lowerHexDigits) →
      ∀ d ∈ (u.map fun c => (hexDigit c).getD 0).reverse, d < 16 := by
    intro u hu d hd
    obtain ⟨c, hc, rfl⟩ := List.mem_map.mp (List.mem_reverse.mp hd)
    exact hexDigit_lt (hu c hc)
  have hrev := Nat.ofDigits_inj_of_len_eq (by decide) (by simpa using hlen) (hdigits s hs)
    (hdigits t ht) h
  have hmap := List.reverse_injective hrev
  refine List.ext_getElem hlen fun i hi hi' => ?_
  refine hexDigit_injective (hs _ (List.getElem_mem hi)) (ht _ (List.getElem_mem hi')) ?_
  have hget := congrArg (fun l : List ℕ => l[i]?) hmap
  simpa [hi, hi'] using hget

/-! ## `strtoll` -/

/-- `isspace`, in the C locale. -/
def isSpaceChar (c : Char) : Bool :=
  c = ' ' || ('\t' ≤ c && c ≤ '\r')

/-- The value and whether it is out of range: a value beyond the signed 64-bit integers is
replaced by the nearest bound. -/
def saturate (v : Int) : Int × Bool :=
  if v < -2 ^ 63 then (-2 ^ 63, true)
  else if 2 ^ 63 ≤ v then (2 ^ 63 - 1, true)
  else (v, false)

/-- Drops `0x` or `0X` before a digit. -/
def dropHexPrefix : List Char → List Char
  | '0' :: x :: d :: s =>
    if (x = 'x' || x = 'X') && (hexDigit d).isSome then d :: s else '0' :: x :: d :: s
  | s => s

/-- `strtoll(s, nullptr, 16)`: white space, a sign and a prefix `0x` are skipped, and the
digits up to the first other character are read. The flag tells whether `errno` is set to
`ERANGE`; without digits the value is 0. -/
def strtoll16 (s : List Char) : Int × Bool :=
  match s.dropWhile isSpaceChar with
  | '-' :: s => saturate (-hexValue ((dropHexPrefix s).takeWhile fun c => (hexDigit c).isSome))
  | '+' :: s => saturate (hexValue ((dropHexPrefix s).takeWhile fun c => (hexDigit c).isSome))
  | s => saturate (hexValue ((dropHexPrefix s).takeWhile fun c => (hexDigit c).isSome))

theorem saturate_of_lt {n : ℕ} (h : n < 2 ^ 63) : saturate n = ((n : Int), false) := by
  rw [saturate, if_neg (by omega), if_neg (by omega)]

theorem saturate_of_le {n : ℕ} (h : 2 ^ 63 ≤ n) : saturate n = (2 ^ 63 - 1, true) := by
  rw [saturate, if_neg (by omega), if_pos (by omega)]

/-- The value as a number: beyond the bound it is the bound. -/
theorem saturate_natCast (n : ℕ) : (saturate n).1 = (min n (2 ^ 63 - 1) : ℕ) := by
  rcases lt_or_ge n (2 ^ 63) with hlt | hle
  · rw [saturate_of_lt hlt, min_eq_left (by omega)]
  · rw [saturate_of_le hle, min_eq_right (by omega)]
    rfl

/-- What comes before the digit `0` is no digit. -/
theorem hexDigit_eq_none_of_lt {c : Char} (hc : c.toNat < '0'.toNat) : hexDigit c = none := by
  have hnot : ∀ d : Char, '0'.toNat ≤ d.toNat → ¬ d ≤ c := fun d hd hle =>
    absurd (hd.trans (Char.le_def.mp hle)) (not_le.mpr hc)
  rw [hexDigit, if_neg fun h => hnot '0' le_rfl h.1, if_neg fun h => hnot 'a' (by decide) h.1,
    if_neg fun h => hnot 'A' (by decide) h.1]

/-- A digit is not skipped: it is no space, no sign and no `x`. -/
theorem hexDigit_plain {c : Char} (hc : (hexDigit c).isSome) :
    isSpaceChar c = false ∧ c ≠ '-' ∧ c ≠ '+' ∧ c ≠ 'x' ∧ c ≠ 'X' := by
  refine ⟨?_, ?_, ?_, ?_, ?_⟩
  · by_contra hspace
    rw [Bool.not_eq_false, isSpaceChar, Bool.or_eq_true, Bool.and_eq_true, decide_eq_true_eq,
      decide_eq_true_eq, decide_eq_true_eq] at hspace
    have hle : c.toNat ≤ ' '.toNat := by
      rcases hspace with rfl | ⟨-, hle⟩
      · exact le_rfl
      · exact (Char.le_def.mp hle).trans (by decide)
    rw [hexDigit_eq_none_of_lt (hle.trans_lt (by decide))] at hc
    exact absurd hc (by decide)
  all_goals
    rintro rfl
    exact absurd hc (by decide)

theorem dropHexPrefix_of_hex (hs : ∀ c ∈ s, (hexDigit c).isSome) : dropHexPrefix s = s := by
  unfold dropHexPrefix
  split
  · next x d u =>
    obtain ⟨-, -, -, hx, hX⟩ := hexDigit_plain (hs x (by simp))
    rw [if_neg (by simp [hx, hX])]
  · rfl

/-- **On hexadecimal digits** `strtoll` returns the value, or the upper bound and `ERANGE`. -/
theorem strtoll16_eq_saturate (hs : ∀ c ∈ s, (hexDigit c).isSome) :
    strtoll16 s = saturate (hexValue s) := by
  have htake : s.takeWhile (fun c => (hexDigit c).isSome) = s :=
    List.takeWhile_eq_self_iff.mpr hs
  have hdrop : s.dropWhile isSpaceChar = s := by
    cases s with
    | nil => rfl
    | cons c s => simp [(hexDigit_plain (hs c List.mem_cons_self)).1]
  unfold strtoll16
  rw [hdrop]
  split
  · next u => exact absurd rfl (hexDigit_plain (hs '-' List.mem_cons_self)).2.1
  · next u => exact absurd rfl (hexDigit_plain (hs '+' List.mem_cons_self)).2.2.1
  · rw [dropHexPrefix_of_hex hs, htake]
