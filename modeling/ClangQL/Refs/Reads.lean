import ClangQL.Library.CountedReads
import ClangQL.Refs.Encoding

/-!
# The arguments the refs cursor reads

`RefsCursor::Filter` decodes its arguments in five counted steps. Two searches of `BestIndex`
share a bit of the plan number, so a plan may have one argument more than steps that read, but
never one less.

## Main definitions

* `RefsCursor.steps`: the five steps
* `RefsCursor.ReadOnce`: what a step does to the counter and to the record
* `RefsCursor.positionsRead`: the positions of `argv` that `Filter` reads

## Main results

* `RefsCursor.decode_eq_foldlM`: the decoding is the five steps in order
* `RefsCursor.reads_eq_positionsRead`: the positions read are those the decoding records
* `RefsCursor.count_steps_le`: the steps read no more arguments than the plan has
-/

namespace ClangQL

namespace RefsCursor

open RefsTable

variable {sql : Sqlite} {idxNum : Int32} {argv : List Value} {terms : List Term}

section Steps

variable (sql : Sqlite) (idxNum : Int32) (argv : List Value)

/-- The steps of the decoding: each reads when its flag is set. -/
def steps : List (ReadStep Decoding Stop) :=
  ⟨idxNum &&& constrId != 0, readId sql idxNum argv⟩ ::
    flagFields.map fun f => ⟨idxNum &&& f.1 != 0, RefsCursor.readFlag sql idxNum argv f.1 f.2⟩

/-- The positions of `argv` that `Filter` reads, until it completes or fails. -/
def positionsRead : List ℕ :=
  if idxNum ≠ 0 then ReadStep.positions (·.argvIndex) (steps sql idxNum argv) {} else []

/-- **The decoding** is its steps in order. -/
theorem decode_eq_foldlM : decode sql idxNum argv =
    (steps sql idxNum argv).foldlM (fun d step => step.run d) {} := by
  simp only [steps, flagFields, List.map_cons, List.map_nil, List.foldlM_cons, List.foldlM_nil,
    bind_pure]
  rfl

end Steps

/-! ## One step -/

variable {flag : Int32} {bit : UInt32} {d d' : Decoding}

/-- A step that completes has read the argument at the counter, or nothing. -/
structure ReadOnce (reads : Bool) (d d' : Decoding) : Prop where
  argvIndex : d'.argvIndex = d.argvIndex + if reads then 1 else 0
  reads : d'.reads.map Prod.fst = d.reads.map Prod.fst ++ if reads then [d.argvIndex] else []

/-- A step whose flag is set reads the argument at the counter. -/
theorem ReadOnce.of_read (hflag : idxNum &&& flag ≠ 0) (hindex : d'.argvIndex = d.argvIndex + 1)
    (hreads : d'.reads.map Prod.fst = d.reads.map Prod.fst ++ [d.argvIndex]) :
    ReadOnce (idxNum &&& flag != 0) d d' := by
  rw [bne_iff_ne.mpr hflag]
  exact ⟨hindex, hreads⟩

/-- A step whose flag is not set does nothing. -/
theorem ReadOnce.of_skip (hflag : ¬ idxNum &&& flag ≠ 0) : ReadOnce (idxNum &&& flag != 0) d d := by
  rw [Bool.eq_false_iff.mpr (mt bne_iff_ne.mp hflag)]
  exact ⟨rfl, (List.append_nil _).symm⟩

theorem readId_readOnce (h : readId sql idxNum argv d = .ok d') :
    ReadOnce (idxNum &&& constrId != 0) d d' := by
  unfold readId at h
  by_cases hflag : idxNum &&& constrId ≠ 0
  · rw [if_pos hflag] at h
    obtain ⟨v, -, h⟩ := Except.bind_eq_ok.mp h
    obtain ⟨s, -, h⟩ := Except.bind_eq_ok.mp h
    obtain rfl := Except.ok.inj h
    exact .of_read hflag rfl List.map_append
  · rw [if_neg hflag] at h
    obtain rfl := Except.ok.inj h
    exact .of_skip hflag

theorem readFlag_readOnce (h : RefsCursor.readFlag sql idxNum argv flag bit d = .ok d') :
    ReadOnce (idxNum &&& flag != 0) d d' := by
  unfold RefsCursor.readFlag at h
  by_cases hflag : idxNum &&& flag ≠ 0
  · rw [if_pos hflag] at h
    obtain ⟨v, -, h⟩ := Except.bind_eq_ok.mp h
    obtain rfl := Except.ok.inj h
    exact .of_read hflag rfl List.map_append
  · rw [if_neg hflag] at h
    obtain rfl := Except.ok.inj h
    exact .of_skip hflag

theorem readId_argvBounds (h : readId sql idxNum argv d = .error (.undefined .argvBounds)) :
    (idxNum &&& constrId != 0) = true ∧ argv.length ≤ d.argvIndex := by
  unfold readId at h
  by_cases hflag : idxNum &&& constrId ≠ 0
  · rw [if_pos hflag] at h
    exact ⟨bne_iff_ne.mpr hflag,
      length_le_of_bind_textOf_argAt (fun _ => by simp [pure, Except.pure]) h⟩
  · rw [if_neg hflag] at h
    exact absurd h (by simp [pure, Except.pure])

theorem readFlag_argvBounds
    (h : RefsCursor.readFlag sql idxNum argv flag bit d = .error (.undefined .argvBounds)) :
    (idxNum &&& flag != 0) = true ∧ argv.length ≤ d.argvIndex := by
  unfold RefsCursor.readFlag at h
  by_cases hflag : idxNum &&& flag ≠ 0
  · rw [if_pos hflag] at h
    refine ⟨bne_iff_ne.mpr hflag, ?_⟩
    by_contra hlt
    rw [argAt_eq_ok.mpr (List.getElem?_eq_getElem (not_le.mp hlt))] at h
    exact absurd h (by simp [pure, Except.pure, Bind.bind, Except.bind])
  · rw [if_neg hflag] at h
    exact absurd h (by simp [pure, Except.pure])

/-! ## All steps -/

theorem readOnce_of_mem_steps {step : ReadStep Decoding Stop}
    (hstep : step ∈ steps sql idxNum argv) (h : step.run d = .ok d') :
    ReadOnce step.reads d d' := by
  rcases List.mem_cons.mp hstep with rfl | hstep
  · exact readId_readOnce h
  · obtain ⟨f, -, rfl⟩ := List.mem_map.mp hstep
    exact readFlag_readOnce h

theorem steps_advance : ∀ step ∈ steps sql idxNum argv, step.Advances (·.argvIndex) :=
  fun _ hstep _ _ h => (readOnce_of_mem_steps hstep h).argvIndex

/-- The positions read are those the decoding records. -/
theorem reads_eq_positionsRead (hidx : idxNum ≠ 0) (h : decode sql idxNum argv = .ok d) :
    d.reads.map Prod.fst = positionsRead sql idxNum argv := by
  rw [decode_eq_foldlM] at h
  rw [positionsRead, if_pos hidx]
  exact ReadStep.log_eq_positions (·.reads.map Prod.fst)
    (fun step hstep d d' hd => (readOnce_of_mem_steps hstep hd).reads) h

/-- **There are enough arguments** for the steps that read, under any plan. -/
theorem count_steps_le (sql : Sqlite) (terms : List Term) (argv : List Value) :
    ReadStep.count (steps sql (idxNumOf terms) argv) ≤ (arguments terms).length := by
  have hflags : ReadStep.count ((flagFields.map fun f : Int32 × UInt32 =>
      (⟨idxNumOf terms &&& f.1 != 0,
        RefsCursor.readFlag sql (idxNumOf terms) argv f.1 f.2⟩ : ReadStep Decoding Stop))) =
      (bitsOf (idxNumOf terms) flagFields).length := by
    rw [ReadStep.count, List.countP_map, bitsOf, List.length_map, List.countP_eq_length_filter]
    congr 1
    exact List.filter_congr fun f _ => Bool.eq_iff_iff.mpr (by simp)
  have hle := length_bitsOf_le terms
  have hid := idxNumOf_and_constrId terms
  rw [steps, arguments, List.length_append]
  unfold ReadStep.count at hflags ⊢
  rw [List.countP_cons, hflags]
  dsimp only
  simp only [bne_iff_ne, hid]
  cases h : chosen terms 0 with
  | none => simpa using hle
  | some v =>
    rw [Option.toList_some, List.length_singleton, Option.isSome_some, if_pos rfl]
    omega

/-- **The arguments of a plan are read in bounds**, and none of them twice. -/
theorem positionsRead_plan (sql : Sqlite) (terms : List Term) {argv : List Value}
    (hlen : argv.length = (arguments terms).length) :
    (positionsRead sql (idxNumOf terms) argv).Nodup ∧
      ∀ p ∈ positionsRead sql (idxNumOf terms) argv, p < argv.length := by
  unfold positionsRead
  split_ifs
  · refine ⟨ReadStep.nodup_positions steps_advance _, fun p hp => ?_⟩
    have hlt := ReadStep.lt_of_mem_positions steps_advance hp
    have hle := count_steps_le sql terms argv
    simp only [Nat.zero_add] at hlt
    omega
  · exact ⟨List.nodup_nil, fun p hp => absurd hp List.not_mem_nil⟩

/-- The decoding reads no argument beyond `argc`. -/
theorem decode_ne_argvBounds (terms : List Term) {argv : List Value}
    (hlen : argv.length = (arguments terms).length) (hidx : idxNumOf terms ≠ 0) :
    decode sql (idxNumOf terms) argv ≠ .error (.undefined .argvBounds) := by
  intro h
  have hread := (positionsRead_plan sql terms hlen).2
  rw [positionsRead, if_pos hidx] at hread
  rw [decode_eq_foldlM] at h
  obtain ⟨p, hp, hbad⟩ := ReadStep.exists_mem_positions_of_error (·.argvIndex)
    (argv.length ≤ ·) (fun step hstep d hd => by
      rcases List.mem_cons.mp hstep with rfl | hstep
      · exact readId_argvBounds hd
      · obtain ⟨f, -, rfl⟩ := List.mem_map.mp hstep
        exact readFlag_argvBounds hd) h
  exact absurd (hread p hp) (not_lt.mpr hbad)

/-- `Filter` reads no argument beyond `argc`. -/
theorem filter_ne_argvBounds (terms : List Term) {argv : List Value}
    (hlen : argv.length = (arguments terms).length) (server : RefsRequest → List (Reply Ref))
    (c : RefsCursor) :
    filter sql server (idxNumOf terms) argv c ≠ .error (.undefined .argvBounds) := by
  unfold filter
  intro h
  split_ifs at h with hidx
  · rcases Except.bind_eq_error.mp h with h | ⟨d, -, h⟩
    · exact decode_ne_argvBounds _ hlen hidx h
    · exact absurd h (by simp [next, pure, Except.pure, Bind.bind, Except.bind])
  · exact absurd h (by simp [pure, Except.pure])

end RefsCursor

end ClangQL
