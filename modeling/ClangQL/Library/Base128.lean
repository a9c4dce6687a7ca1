import ClangQL.Library.Varint
import ClangQL.Library.WireFormat

/-!
# The base-128 runtime

A runtime library that writes numbers, tags and sizes as base-128 varints. The low three bits of a
tag are the type of the value: a varint, four or eight bytes, or bytes behind their size. A group
is refused.

## Main definitions

* `Runtime.base128`: the runtime
-/

namespace WireFormat

namespace Reader

/-- Reads nothing. -/
def fail {α : Type} : Reader α where
  run _ := none
  shorter h := by cases h
  append h := by cases h

/-- Reads `n + 1` bytes. -/
def fixed (n : ℕ) : Reader Bytes where
  run bytes := if n < bytes.length then some (bytes.take (n + 1), bytes.drop (n + 1)) else none
  shorter h := by
    split at h
    · cases h
      rw [List.length_drop]
      omega
    · cases h
  append h more := by
    split at h
    · next hlt =>
      cases h
      rw [if_pos (by rw [List.length_append]; omega), List.take_append_of_le_length hlt,
        List.drop_append_of_le_length hlt]
    · cases h

/-- A varint of at most `k + 1` bytes. -/
def varint (k : ℕ) : Reader ℕ := ⟨Varint.read k, Varint.read_length, Varint.read_append⟩

/-- A value, if it has the property. -/
def guard {α : Type} (p : α → Bool) (read : Reader α) : Reader α where
  run bytes := (read.run bytes).filter fun q => p q.1
  shorter h := read.shorter (Option.filter_eq_some_iff.mp h).1
  append h more := by
    obtain ⟨hread, hp⟩ := Option.filter_eq_some_iff.mp h
    rw [read.append hread]
    exact Option.filter_some_pos hp

end Reader

namespace Runtime

/-- The largest size: `INT_MAX` without the 16 bytes of slop behind a buffer. -/
def base128MaxSize : ℕ := 2 ^ 31 - 17

/-- A size, in at most five bytes. -/
def base128Size : Reader ℕ := (Reader.varint 4).guard (· ≤ base128MaxSize)

/-- The value of an unknown field, by the low bits of its tag, as the bytes it is written as. -/
def base128Value : ℕ → Reader Bytes
  | 0 => (Reader.varint 9).map fun n => Varint.write 9 (n % 2 ^ 64)
  | 1 => .fixed 7
  | 2 => (Reader.delimited base128Size).map fun bytes => Varint.write 9 bytes.length ++ bytes
  | 5 => .fixed 3
  | _ => .fail

/-- The field with the tag `tag`, as the bytes it is written as. -/
def base128Unknown (tag : ℕ) : Reader Bytes :=
  if tag / 8 = 0 then .fail else (base128Value (tag % 8)).map (Varint.write 9 tag ++ ·)

theorem read_write_tag {tag : ℕ} (h : tag < 2 ^ 32) (rest : Bytes) :
    ((Reader.varint 4).map (· % 2 ^ 32)).run (Varint.write 9 tag ++ rest) = some (tag, rest) := by
  show (Varint.read 4 _).map _ = _
  rw [Varint.read_write (by decide) (h.trans (by decide))]
  exact congrArg (fun n => some (n, rest)) (Nat.mod_eq_of_lt h)

theorem read_write_varint {n : ℕ} (h : n < 2 ^ 64) (rest : Bytes) :
    (Reader.varint 9).run (Varint.write 9 n ++ rest) = some (n, rest) :=
  Varint.read_write (Nat.le_refl 9) (h.trans (by decide)) rest

theorem read_write_size {n : ℕ} (h : n ≤ base128MaxSize) (rest : Bytes) :
    base128Size.run (Varint.write 9 n ++ rest) = some (n, rest) := by
  show (Varint.read 4 _).filter _ = _
  rw [Varint.read_write (by decide) (Nat.lt_of_le_of_lt h (by decide))]
  exact Option.filter_some_pos (decide_eq_true h)

theorem fixed_again {n : ℕ} {bytes u rest : Bytes}
    (h : (Reader.fixed n).run bytes = some (u, rest)) :
    (Reader.fixed n).run u = some (u, []) := by
  rw [Reader.fixed] at h ⊢
  dsimp only at h ⊢
  split at h
  · cases h
    have hlen : (bytes.take (n + 1)).length = n + 1 := List.length_take_of_le (by omega)
    rw [if_pos (by omega), List.take_of_length_le hlen.le, List.drop_of_length_le hlen.le]
  · cases h

/-- The value of an unknown field is read as itself. -/
theorem base128Value_again {wireType : ℕ} {bytes u rest : Bytes}
    (h : (base128Value wireType).run bytes = some (u, rest)) :
    (base128Value wireType).run u = some (u, []) := by
  unfold base128Value at h ⊢
  split at h
  · obtain ⟨⟨n, tail⟩, -, hp⟩ := Option.map_eq_some_iff.mp h
    cases hp
    have hread := read_write_varint (Nat.mod_lt n (by decide : 0 < 2 ^ 64)) []
    rw [List.append_nil] at hread
    show ((Reader.varint 9).run _).map _ = _
    rw [hread]
    exact congrArg (fun k => some (Varint.write 9 k, [])) (Nat.mod_mod n _)
  · exact fixed_again h
  · obtain ⟨⟨value, tail⟩, hv, hp⟩ := Option.map_eq_some_iff.mp h
    cases hp
    obtain ⟨⟨n, more⟩, hn, hv⟩ := Option.bind_eq_some_iff.mp hv
    have hle : n ≤ base128MaxSize := of_decide_eq_true (Option.filter_eq_some_iff.mp hn).2
    split at hv
    · next hlen =>
      cases hv
      have hvalue : (more.take n).length ≤ base128MaxSize := (List.length_take_le n more).trans hle
      have hread : (Reader.delimited base128Size).run _ = some (more.take n, []) :=
        Reader.delimited_run (read_write_size hvalue (more.take n ++ []))
      rw [List.append_nil] at hread
      show ((Reader.delimited base128Size).run _).map _ = _
      rw [hread]
      rfl
    · cases hv
  · exact fixed_again h
  · cases h

/-- **The base-128 runtime.** -/
def base128 : Runtime where
  maxSize := base128MaxSize
  varint := Varint.write 9
  varintSize n := (Varint.write 9 n).length
  readTag := (Reader.varint 4).map (· % 2 ^ 32)
  readVarint := (Reader.varint 9).map (· % 2 ^ 64)
  readSize := base128Size
  parseUnknown := base128Unknown
  maxSize_lt := by decide
  length_varint _ := rfl
  varint_small := Varint.write_of_lt 9
  varintSize_two := Varint.length_write_two
  readTag_lt h := by
    obtain ⟨p, -, hp⟩ := Option.map_eq_some_iff.mp h
    cases hp
    exact Nat.mod_lt _ (by decide)
  readTag_varint h rest := read_write_tag h rest
  readVarint_varint h rest := by
    show ((Reader.varint 9).run _).map _ = _
    rw [read_write_varint h]
    exact congrArg (fun n => some (n, rest)) (Nat.mod_eq_of_lt h)
  readSize_varint h rest := read_write_size h rest
  unknown_again {tag} _ _ _ _ h := by
    unfold base128Unknown at h ⊢
    split at h
    · cases h
    · next htag =>
      obtain ⟨⟨value, rest⟩, hv, hp⟩ := Option.map_eq_some_iff.mp h
      cases hp
      refine ⟨value, rfl, ?_⟩
      rw [if_neg htag]
      show ((base128Value _).run value).map _ = _
      rw [base128Value_again hv]
      rfl

end Runtime

end WireFormat
