import ClangQL.Library.LabelledRun
import ClangQL.Library.Ledger
import ClangQL.Module.Create

/-!
# Ownership of tables and cursors

SQLite owns the objects it receives from `module_create` and `module_open` and gives each back
once, through `module_destroy` and `module_close`. Both functions allocate the object before
the call that may throw, and undo the allocation in one of their handlers only. A sequence of
calls is a ledger of objects, and the handlers that forget are its losses.

## Main definitions

* `moduleOpen`, `moduleClose`, `moduleDestroy`: the other functions that own objects
* `ModuleCall`: a call of SQLite, with what the call meets
* `ModuleCall.leaks`: the call meets an exception other than `std::bad_alloc`
* `Ownership`: the objects allocated, and those SQLite owns
* `Ownership.Run`: the sequences of calls SQLite may make

## Main results

* `Ownership.after_eq_post`: a call is an entry of the ledger
* `Ownership.run_balanced_iff`: the objects allocated are those SQLite owns exactly while no
  call leaks
-/

namespace ClangQL

variable {Addr : Type}

/-! ## The functions -/

section Functions

variable [DecidableEq Addr]

/-- `module_open`, as `moduleCreate`; `open` is the result of `table->tab->Open()`. -/
def moduleOpen {α : Type} (new : Option Addr) («open» : Except Exception α)
    (heap : Finset (Object Addr)) : Ending Addr × Finset (Object Addr) :=
  match new with
  | none => (.returned { code := sqliteNomem }, heap)
  | some cur =>
    let heap := insert (.cursor cur) heap
    match «open» with
    | .ok _ => (.returned { code := sqliteOk, object := some cur }, heap)
    | .error .badAlloc => (.returned { code := sqliteNomem }, heap.erase (.cursor cur))
    | .error _ => (.returned { code := sqliteError }, heap)

/-- `module_close`. -/
def moduleClose (cur : Addr) (heap : Finset (Object Addr)) :
    Ending Addr × Finset (Object Addr) :=
  (.returned { code := sqliteOk }, heap.erase (.cursor cur))

/-- `module_destroy`. -/
def moduleDestroy (vtab : Addr) (heap : Finset (Object Addr)) :
    Ending Addr × Finset (Object Addr) :=
  (.returned { code := sqliteOk }, heap.erase (.vtab vtab))

end Functions

/-! ## Calls -/

/-- A call of SQLite, with the results of the allocations and of the method it meets. -/
inductive ModuleCall (Addr : Type)
  | create (new : Option Addr) (create : Except Exception Table) (malloc : Bool)
  | «open» (table : Addr) (new : Option Addr) («open» : Except Exception Unit)
  | close (cur : Addr)
  | destroy (vtab : Addr)

/-- The method threw something `module_create` and `module_open` do not undo the allocation
for. -/
def throwsOther {α : Type} : Except Exception α → Bool
  | .ok _ => false
  | .error .badAlloc => false
  | .error _ => true

/-- The call allocates an object and then meets an exception other than `std::bad_alloc`. -/
def ModuleCall.leaks : ModuleCall Addr → Bool
  | .create new result _ => new.isSome && throwsOther result
  | .open _ new result => new.isSome && throwsOther result
  | .close _ => false
  | .destroy _ => false

/-- The objects allocated and not deleted, as the live resources of a ledger, and the objects
SQLite received with `SQLITE_OK` and has not given back, as the owned ones. -/
abbrev Ownership (Addr : Type) := Ledger (Object Addr)

namespace Ownership

section Steps

variable [DecidableEq Addr]

/-- The ending of a call, and the objects allocated after it. -/
def perform (heap : Finset (Object Addr)) :
    ModuleCall Addr → Ending Addr × Finset (Object Addr)
  | .create new create malloc => moduleCreate new create malloc heap
  | .open _ new «open» => moduleOpen new «open» heap
  | .close cur => moduleClose cur heap
  | .destroy vtab => moduleDestroy vtab heap

/-- The objects SQLite owns after a call: it takes what it gets with `SQLITE_OK`, and no longer
has what it gave back. -/
def handed (owned : Finset (Object Addr)) (e : Ending Addr) :
    ModuleCall Addr → Finset (Object Addr)
  | .create .. =>
    match e with
    | .returned ⟨code, some p, _⟩ => if code = sqliteOk then insert (.vtab p) owned else owned
    | _ => owned
  | .open .. =>
    match e with
    | .returned ⟨code, some p, _⟩ => if code = sqliteOk then insert (.cursor p) owned else owned
    | _ => owned
  | .close cur => owned.erase (.cursor cur)
  | .destroy vtab => owned.erase (.vtab vtab)

/-- The calls SQLite may make: it opens the tables it owns, and gives back what it owns. An
address `new` gives is not in use. -/
def Allowed (s : Ownership Addr) : ModuleCall Addr → Prop
  | .create new _ _ => ∀ p ∈ new, .vtab p ∉ s.live
  | .open table new _ => .vtab table ∈ s.owned ∧ ∀ p ∈ new, .cursor p ∉ s.live
  | .close cur => .cursor cur ∈ s.owned
  | .destroy vtab => .vtab vtab ∈ s.owned

/-- The state after a call. -/
def after (s : Ownership Addr) (call : ModuleCall Addr) : Ownership Addr :=
  ⟨(perform s.live call).2, handed s.owned (perform s.live call).1 call⟩

/-- A call that SQLite may make. -/
def Step (s : Ownership Addr) (call : ModuleCall Addr) (t : Ownership Addr) : Prop :=
  Allowed s call ∧ t = after s call

/-- Calls of SQLite, from a connection without tables. -/
abbrev Run (calls : List (ModuleCall Addr)) (s : Ownership Addr) : Prop :=
  LabelledRun Step ⟨∅, ∅⟩ calls s

/-- The call returns an error. -/
def Fails (s : Ownership Addr) (call : ModuleCall Addr) : Prop :=
  ∃ answer, (perform s.live call).1 = .returned answer ∧ answer.code ≠ sqliteOk

end Steps

/-! ## A call is an entry -/

/-- What becomes of an object allocated before the method is called. -/
def allocation {α : Type} (new : Option (Object Addr)) (method : Except Exception α) :
    Ledger.Entry (Object Addr) :=
  match new, method with
  | none, _ => .pass
  | some o, .ok _ => .acquire o
  | some _, .error .badAlloc => .pass
  | some o, .error _ => .lose o

/-- The entry of the ledger that a call makes. -/
def entry : ModuleCall Addr → Ledger.Entry (Object Addr)
  | .create new create _ => allocation (new.map .vtab) create
  | .open _ new «open» => allocation (new.map .cursor) «open»
  | .close cur => .release (.cursor cur)
  | .destroy vtab => .release (.vtab vtab)

variable {s t : Ownership Addr} {call : ModuleCall Addr} {calls : List (ModuleCall Addr)}

section Allocation

variable {α : Type} {new : Option Addr} (object : Addr → Object Addr) (method : Except Exception α)

theorem loses_allocation : (allocation (new.map object) method).loses =
    (new.isSome && throwsOther method) := by
  rcases new with _ | p
  · rfl
  · rcases method with (_ | _ | _) | _ <;> rfl

theorem fits_allocation (h : ∀ p ∈ new, object p ∉ s.live) :
    s.Fits (allocation (new.map object) method) := by
  rcases new with _ | p
  · trivial
  · rcases method with (_ | _ | _) | _
    · trivial
    all_goals exact h p rfl

/-- An allocation that is not handed over passes, unless it is lost. -/
theorem allocation_eq_pass (h : ∀ p ∈ new, ∀ t, method ≠ .ok t) :
    allocation (new.map object) method = .pass ↔ (new.isSome && throwsOther method) = false := by
  rcases new with _ | p
  · exact iff_of_true rfl rfl
  · rcases method with (_ | err | _) | t
    · exact iff_of_true rfl rfl
    · exact iff_of_false (by simp [allocation]) (by simp [throwsOther])
    · exact iff_of_false (by simp [allocation]) (by simp [throwsOther])
    · exact absurd rfl (h p rfl t)

end Allocation

/-- The entries that lose an object are the calls that leak. -/
theorem loses_entry (call : ModuleCall Addr) : (entry call).loses = call.leaks := by
  cases call with
  | create new create malloc => exact loses_allocation .vtab create
  | «open» table new «open» => exact loses_allocation .cursor «open»
  | close cur => rfl
  | destroy vtab => rfl

theorem fits_entry [DecidableEq Addr] (h : Allowed s call) : s.Fits (entry call) := by
  cases call with
  | create new create malloc => exact fits_allocation .vtab create h
  | «open» table new «open» => exact fits_allocation .cursor «open» h.2
  | close cur => exact h
  | destroy vtab => exact h

variable [DecidableEq Addr]

/-- **A call is an entry of the ledger.** -/
theorem after_eq_post (h : Allowed s call) : after s call = s.post (entry call) := by
  cases call with
  | create new create malloc =>
    cases new with
    | none => rfl
    | some p =>
      rcases create with (_ | err | _) | table
      · -- the handler of `std::bad_alloc` deletes the new object
        have hlive := Finset.erase_insert (h p rfl)
        simp only [after, perform, moduleCreate, handed, entry, Option.map_some, allocation,
          Ledger.post, hlive]
      · cases malloc <;> rfl
      · rfl
      · rfl
  | «open» table new «open» =>
    cases new with
    | none => rfl
    | some p =>
      rcases «open» with (_ | err | _) | cursor
      · have hlive := Finset.erase_insert (h.2 p rfl)
        simp only [after, perform, moduleOpen, handed, entry, Option.map_some, allocation,
          Ledger.post, hlive]
      · rfl
      · rfl
      · rfl
  | close cur => rfl
  | destroy vtab => rfl

/-! ## Runs -/

/-- The invariant of runs: what SQLite owns is allocated, and each leaking call has lost one
object. -/
def Counted (calls : List (ModuleCall Addr)) (s : Ownership Addr) : Prop :=
  s.owned ⊆ s.live ∧ s.lost.card = calls.countP (·.leaks)

theorem counted_step (h : Counted calls s) (hstep : Step s call t) :
    Counted (calls ++ [call]) t := by
  obtain ⟨hallowed, rfl⟩ := hstep
  have hfits := fits_entry hallowed
  rw [Counted, after_eq_post hallowed, List.countP_append, List.countP_singleton, ← h.2,
    ← loses_entry]
  exact ⟨Ledger.owned_subset_post h.1, Ledger.card_lost_post h.1 hfits⟩

theorem Run.counted (h : Run calls s) : Counted calls s :=
  h.invariant ⟨Finset.empty_subset _, rfl⟩ fun _ _ _ _ => counted_step

/-- A call that returns an error passes, unless it leaks. -/
theorem entry_eq_pass (h : Fails s call) : entry call = .pass ↔ call.leaks = false := by
  obtain ⟨answer, hanswer, hcode⟩ := h
  cases call with
  | create new create malloc =>
    refine allocation_eq_pass .vtab create ?_
    rintro p rfl t rfl
    obtain rfl := Ending.returned.inj hanswer
    exact hcode rfl
  | «open» table new «open» =>
    refine allocation_eq_pass .cursor «open» ?_
    rintro p rfl t rfl
    obtain rfl := Ending.returned.inj hanswer
    exact hcode rfl
  | close cur =>
    obtain rfl := Ending.returned.inj hanswer
    exact absurd rfl hcode
  | destroy vtab =>
    obtain rfl := Ending.returned.inj hanswer
    exact absurd rfl hcode

/-- **Ownership balances while no call leaks**: the objects allocated are those SQLite owns
exactly when no call so far has leaked, and a call that returns an error leaves them unchanged
exactly when it does not leak itself. -/
theorem run_balanced_iff (hrun : Run calls s) :
    (s.live = s.owned ↔ ∀ call ∈ calls, call.leaks = false) ∧
      ∀ call, Allowed s call → Fails s call →
        ((after s call).live = s.live ↔ call.leaks = false) := by
  obtain ⟨hsub, hcard⟩ := Run.counted hrun
  constructor
  · rw [Ledger.balanced_iff hsub, hcard, List.countP_eq_zero]
    simp
  · intro call hallowed hfails
    rw [after_eq_post hallowed, Ledger.live_post_eq_iff hsub (fits_entry hallowed),
      entry_eq_pass hfails]

/-- A table is created, and then the server's address is left out of a second one. -/
theorem run_balanced_iff_create :
    let calls : List (ModuleCall ℕ) := [.create (some 1) (.ok .symbols) true]
    let s : Ownership ℕ := ⟨{.vtab 1}, {.vtab 1}⟩
    let call : ModuleCall ℕ :=
      .create (some 2) (.error (.runtimeError "Invalid number of arguments".toList)) true
    Run calls s ∧ Allowed s call ∧ Fails s call ∧
      (s.live = s.owned ↔ ∀ call ∈ calls, call.leaks = false) ∧
      ((after s call).live = s.live ↔ call.leaks = false) := by
  intro calls s call
  have hrun : Run calls s :=
    LabelledRun.nil.snoc ⟨fun p _ => Finset.notMem_empty _, rfl⟩
  have hallowed : Allowed s call := by simp [s, call, Allowed]
  have hfails : Fails s call := ⟨_, rfl, by decide⟩
  exact ⟨hrun, hallowed, hfails, (run_balanced_iff hrun).1,
    (run_balanced_iff hrun).2 call hallowed hfails⟩

/-- `CREATE VIRTUAL TABLE t USING clangql(symbol, localhost:50051)`: there is no such table, and
the object stays allocated. -/
theorem not_balanced_unknown_table :
    let argv := ["clangql".toList, "main".toList, "t".toList, "symbol".toList,
      "localhost:50051".toList]
    let call : ModuleCall ℕ := .create (some 1) (ClangQLModule.create rejecting argv) true
    ∃ s, Run [call] s ∧ s.live ≠ s.owned := by
  intro argv call
  refine ⟨_, LabelledRun.nil.snoc ⟨fun p _ => Finset.notMem_empty _, rfl⟩, ?_⟩
  decide

end Ownership

end ClangQL
