import Mathlib.Algebra.Order.Ring.Nat

/-!
# Base-128 varints

A number is written in groups of seven bits, the lowest first, one in each byte. The high bit of
a byte says that another follows. A reader gives up after a number of bytes.

## Main definitions

* `Varint.write k n`: the varint of `n`, in at most `k + 1` bytes
* `Varint.read k bytes`: the number at the start of `bytes`, in at most `k + 1` bytes, and the rest

## Main results

* `Varint.read_write`: a number that is small enough for the reader is read back
* `Varint.read_append`: the bytes after a varint do not matter
-/

namespace Varint

/-- The varint of `n`, for `n` below `128 ^ (k + 1)`. -/
def write : ℕ → ℕ → List UInt8
  | 0, n => [UInt8.ofNat n]
  | k + 1, n =>
    if n < 128 then [UInt8.ofNat n] else UInt8.ofNat (n % 128 + 128) :: write k (n / 128)

/-- The number at the start of `bytes`, and the bytes after it. The last of `k + 1` bytes may not
announce another. -/
def read : ℕ → List UInt8 → Option (ℕ × List UInt8)
  | _, [] => none
  | 0, b :: bytes => if b.toNat < 128 then some (b.toNat, bytes) else none
  | k + 1, b :: bytes =>
    if b.toNat < 128 then some (b.toNat, bytes)
    else (read k bytes).map fun p => (b.toNat - 128 + 128 * p.1, p.2)

theorem write_of_lt (k : ℕ) {n : ℕ} (h : n < 128) : write k n = [UInt8.ofNat n] := by
  cases k with
  | zero => rfl
  | succ k => exact if_pos h

theorem length_write_two {k n : ℕ} (h : 128 ≤ n) (h' : n < 16384) :
    (write (k + 1) n).length = 2 := by
  have hdiv : n / 128 < 128 := by omega
  rw [write, if_neg (by omega), List.length_cons, write_of_lt k hdiv, List.length_singleton]

theorem toNat_ofNat {n : ℕ} (h : n < 256) : (UInt8.ofNat n).toNat = n := by
  rw [UInt8.toNat_ofNat']
  exact Nat.mod_eq_of_lt h

/-- **A number is read back**, whatever follows, by a reader that allows it enough bytes. -/
theorem read_write {j k n : ℕ} (hjk : j ≤ k) (h : n < 128 ^ (j + 1)) (bytes : List UInt8) :
    read j (write k n ++ bytes) = some (n, bytes) := by
  induction j generalizing k n with
  | zero =>
    have hn : n < 128 := by simpa using h
    rw [write_of_lt k hn, List.singleton_append, read, toNat_ofNat (by omega), if_pos hn]
  | succ j ih =>
    obtain ⟨k, rfl⟩ : ∃ i, k = i + 1 := ⟨k - 1, by omega⟩
    by_cases hn : n < 128
    · rw [write_of_lt _ hn, List.singleton_append, read, toNat_ofNat (by omega), if_pos hn]
    · have hdiv : n / 128 < 128 ^ (j + 1) := by
        apply Nat.div_lt_of_lt_mul
        rwa [pow_succ, Nat.mul_comm] at h
      rw [write, if_neg hn, List.cons_append, read, toNat_ofNat (by omega), if_neg (by omega),
        ih (by omega) hdiv, Option.map_some]
      congr 2
      omega

theorem read_length {k n : ℕ} {bytes rest : List UInt8} (h : read k bytes = some (n, rest)) :
    rest.length < bytes.length := by
  induction k generalizing bytes n with
  | zero =>
    rcases bytes with _ | ⟨b, bytes⟩
    · cases h
    · rw [read] at h
      split at h
      · cases h
        exact Nat.lt_succ_self _
      · cases h
  | succ k ih =>
    rcases bytes with _ | ⟨b, bytes⟩
    · cases h
    · rw [read] at h
      split at h
      · cases h
        exact Nat.lt_succ_self _
      · obtain ⟨⟨m, tail⟩, hm, hp⟩ := Option.map_eq_some_iff.mp h
        cases hp
        exact Nat.lt_succ_of_lt (ih hm)

/-- **The bytes after a varint do not matter.** -/
theorem read_append {k n : ℕ} {bytes rest : List UInt8} (h : read k bytes = some (n, rest))
    (more : List UInt8) : read k (bytes ++ more) = some (n, rest ++ more) := by
  induction k generalizing bytes n with
  | zero =>
    rcases bytes with _ | ⟨b, bytes⟩
    · cases h
    · rw [read] at h
      rw [List.cons_append, read]
      split at h
      · next hb =>
        cases h
        exact if_pos hb
      · cases h
  | succ k ih =>
    rcases bytes with _ | ⟨b, bytes⟩
    · cases h
    · rw [read] at h
      rw [List.cons_append, read]
      split at h
      · next hb =>
        cases h
        exact if_pos hb
      · next hb =>
        obtain ⟨⟨m, tail⟩, hm, hp⟩ := Option.map_eq_some_iff.mp h
        cases hp
        rw [if_neg hb, ih hm]
        rfl

end Varint
