import Mathlib.Data.Finset.Card
import Mathlib.Data.Finset.SDiff

/-!
# Ledgers of resources

A ledger holds the resources that are live and, of these, the ones an outside party owns and
will give back. A resource that is live and owned by nobody is lost: nothing gives it back any
more. The lost resources are counted by the entries that lose one.

## Main definitions

* `Ledger α`: the live and the owned resources
* `Ledger.Entry α`: what happens to one resource
* `Ledger.Fits`, `Ledger.post`: the entries a ledger admits, and the ledger after one
* `Ledger.lost`: the resources that are live and not owned

## Main results

* `Ledger.owned_subset_post`: every owned resource stays live
* `Ledger.card_lost_post`: the lost resources grow by one with each loss, and with nothing else
* `Ledger.live_post_eq_iff`: the live resources change with every entry but `pass`
* `Ledger.balanced_iff`: a ledger balances exactly when nothing is lost
-/

/-- The resources that are live, and those an outside party owns. -/
structure Ledger (α : Type*) where
  live : Finset α
  owned : Finset α

namespace Ledger

variable {α : Type*}

/-- What happens to one resource: it is allocated and handed over, given back and freed, or
allocated and lost; or nothing happens. -/
inductive Entry (α : Type*)
  | acquire (a : α)
  | release (a : α)
  | lose (a : α)
  | pass

/-- Whether an entry loses a resource. -/
def Entry.loses : Entry α → Bool
  | lose _ => true
  | _ => false

/-- A new resource is not live yet, and only an owned one is given back. -/
def Fits (l : Ledger α) : Entry α → Prop
  | .acquire a => a ∉ l.live
  | .release a => a ∈ l.owned
  | .lose a => a ∉ l.live
  | .pass => True

variable [DecidableEq α]

/-- The ledger after an entry. -/
def post (l : Ledger α) : Entry α → Ledger α
  | .acquire a => ⟨insert a l.live, insert a l.owned⟩
  | .release a => ⟨l.live.erase a, l.owned.erase a⟩
  | .lose a => ⟨insert a l.live, l.owned⟩
  | .pass => l

/-- The resources that are live and owned by nobody. -/
def lost (l : Ledger α) : Finset α := l.live \ l.owned

variable {l : Ledger α} {e : Entry α}

theorem owned_subset_post (h : l.owned ⊆ l.live) : (l.post e).owned ⊆ (l.post e).live := by
  cases e with
  | acquire a => exact Finset.insert_subset_insert a h
  | release a => exact Finset.erase_subset_erase a h
  | lose a => exact h.trans (Finset.subset_insert a l.live)
  | pass => exact h

/-- **Losses are counted**: an entry adds to the lost resources exactly when it loses one. -/
theorem card_lost_post (h : l.owned ⊆ l.live) (hfits : l.Fits e) :
    (l.post e).lost.card = l.lost.card + if e.loses then 1 else 0 := by
  cases e with
  | acquire a =>
    have hlost : (l.post (.acquire a)).lost = l.lost := by
      ext b
      simp only [post, lost, Finset.mem_sdiff, Finset.mem_insert, not_or]
      constructor
      · rintro ⟨rfl | hb, hne, hb'⟩
        · exact absurd rfl hne
        · exact ⟨hb, hb'⟩
      · rintro ⟨hb, hb'⟩
        exact ⟨Or.inr hb, fun hba => hfits (hba ▸ hb), hb'⟩
    rw [hlost]
    rfl
  | release a =>
    have hlost : (l.post (.release a)).lost = l.lost := by
      ext b
      simp only [post, lost, Finset.mem_sdiff, Finset.mem_erase, not_and]
      constructor
      · rintro ⟨⟨hne, hb⟩, hb'⟩
        exact ⟨hb, hb' hne⟩
      · rintro ⟨hb, hb'⟩
        exact ⟨⟨fun hba => hb' (hba ▸ hfits), hb⟩, fun _ => hb'⟩
    rw [hlost]
    rfl
  | lose a =>
    have hlost : (l.post (.lose a)).lost = insert a l.lost :=
      Finset.insert_sdiff_of_notMem l.live fun ha => hfits (h ha)
    have hnew : a ∉ l.lost := fun ha => hfits (Finset.mem_sdiff.mp ha).1
    rw [hlost, Finset.card_insert_of_notMem hnew]
    rfl
  | pass => rfl

/-- Only `pass` leaves the live resources as they are. -/
theorem live_post_eq_iff (h : l.owned ⊆ l.live) (hfits : l.Fits e) :
    (l.post e).live = l.live ↔ e = .pass := by
  cases e with
  | acquire a => exact iff_of_false (fun heq => hfits (Finset.insert_eq_self.mp heq)) (by simp)
  | release a =>
    exact iff_of_false (fun heq => Finset.erase_eq_self.mp heq (h hfits)) (by simp)
  | lose a => exact iff_of_false (fun heq => hfits (Finset.insert_eq_self.mp heq)) (by simp)
  | pass => exact iff_of_true rfl rfl

/-- **A ledger balances** exactly when nothing is lost. -/
theorem balanced_iff (h : l.owned ⊆ l.live) : l.live = l.owned ↔ l.lost.card = 0 := by
  rw [Finset.card_eq_zero, lost, Finset.sdiff_eq_empty_iff_subset]
  constructor
  · intro heq
    exact heq.subset
  · intro hsub
    exact hsub.antisymm h

end Ledger
