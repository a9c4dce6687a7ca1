import Mathlib.Data.List.Pairwise

/-!
# Optional fields of nested records

A field of a message may be absent, and so may each message on the path to it. Such a field is
read and written through the messages around it: it is absent when a message on the path is, and
setting it makes the path present. Two fields are independent when writing one leaves the other
as it is.

## Main definitions

* `OptionalField σ α`: a field that may be absent, with how it is read and written
* `OptionalField.comp`: a field of a field
* `OptionalField.Independent`: writing one field leaves the other as it is

## Main results

* `OptionalField.Independent.comp_left`, `OptionalField.Independent.comp`: the fields of
  independent fields are independent
* `OptionalField.Independent.within`: so are independent fields of one field
-/

/-- A field that may be absent: `put (some a)` sets it, and `put none` clears it. The default
record has no field. -/
structure OptionalField (σ α : Type*) [Inhabited σ] where
  get : σ → Option α
  put : Option α → σ → σ
  get_put : ∀ a s, get (put a s) = a
  get_default : get default = none

namespace OptionalField

variable {σ τ υ α β : Type*} [Inhabited σ] [Inhabited τ] [Inhabited υ]

/-- The field `g` of the field `f`. Setting it makes `f` present, clearing it does not. -/
def comp (f : OptionalField σ τ) (g : OptionalField τ α) : OptionalField σ α where
  get s := (f.get s).bind g.get
  put a s :=
    match a, f.get s with
    | none, none => s
    | a, t => f.put (some (g.put a (t.getD default))) s
  get_put a s := by
    split
    · next hf => rw [hf]; rfl
    · rw [f.get_put]
      exact g.get_put _ _
  get_default := by rw [f.get_default]; rfl

/-- Writing a field of a field leaves the record, or writes the outer field. -/
theorem comp_put (f : OptionalField σ τ) (g : OptionalField τ α) (a : Option α) (s : σ) :
    (a = none ∧ f.get s = none ∧ (f.comp g).put a s = s) ∨
      (f.comp g).put a s = f.put (some (g.put a ((f.get s).getD default))) s := by
  cases hf : f.get s with
  | none =>
    cases a with
    | none => exact Or.inl ⟨rfl, rfl, by simp [comp, hf]⟩
    | some a => exact Or.inr (by simp [comp, hf])
  | some t => exact Or.inr (by simp [comp, hf])

/-- Writing one of the fields leaves the other as it is. -/
structure Independent (f : OptionalField σ α) (g : OptionalField σ β) : Prop where
  left : ∀ a s, g.get (f.put a s) = g.get s
  right : ∀ b s, f.get (g.put b s) = f.get s

namespace Independent

theorem symm {f : OptionalField σ α} {g : OptionalField σ β} (h : Independent f g) :
    Independent g f := ⟨h.right, h.left⟩

/-- A field of `f` is independent of what `f` is independent of. -/
theorem comp_left {f : OptionalField σ τ} {g : OptionalField σ β} (h : Independent f g)
    (f' : OptionalField τ α) : Independent (f.comp f') g where
  left a s := by
    rcases comp_put f f' a s with ⟨-, -, hput⟩ | hput
    · rw [hput]
    · rw [hput, h.left]
  right b s := by
    show (f.get (g.put b s)).bind f'.get = (f.get s).bind f'.get
    rw [h.right]

/-- **The fields of independent fields** are independent. -/
theorem comp {f : OptionalField σ τ} {g : OptionalField σ υ} (h : Independent f g)
    (f' : OptionalField τ α) (g' : OptionalField υ β) : Independent (f.comp f') (g.comp g') :=
  ((h.comp_left f').symm.comp_left g').symm

theorem get_within {g : OptionalField τ α} {g' : OptionalField τ β}
    (h : ∀ a t, g'.get (g.put a t) = g'.get t) (f : OptionalField σ τ) (a : Option α) (s : σ) :
    (f.comp g').get ((f.comp g).put a s) = (f.comp g').get s := by
  rcases comp_put f g a s with ⟨-, -, hput⟩ | hput
  · rw [hput]
  · rw [hput]
    show (f.get (f.put _ s)).bind g'.get = (f.get s).bind g'.get
    rw [f.get_put, Option.bind_some, h]
    cases f.get s with
    | none => exact g'.get_default
    | some t => rfl

/-- **Independent fields of one field** are independent. -/
theorem within {g : OptionalField τ α} {g' : OptionalField τ β} (h : Independent g g')
    (f : OptionalField σ τ) : Independent (f.comp g) (f.comp g') :=
  ⟨get_within h.left f, get_within h.right f⟩

end Independent

end OptionalField
