import ClangQL.Library.CountedReads
import ClangQL.Symbols.Cursor

/-!
# The arguments the symbols cursor reads

For a `FuzzyFind`, `SymbolsCursor::Filter` decodes its arguments in three counted steps. Under
a plan of `BestIndex` there is one argument for each step that reads.

## Main definitions

* `SymbolsCursor.steps`: the three steps
* `SymbolsCursor.positionsRead`: the positions of `argv` that `Filter` reads

## Main results

* `SymbolsCursor.decode_eq_foldlM`: the decoding is the three steps in order
* `SymbolsCursor.reads_eq_positionsRead`: the positions read are those the decoding records
* `SymbolsCursor.count_steps`: the steps read as many arguments as the plan has
* `SymbolsCursor.request_null`: with NULL among the arguments, a string is built from a null
  pointer
-/

namespace ClangQL

namespace SymbolsCursor

open SymbolsTable

variable {sql : Sqlite} {idxNum : Int32} {argv : List Value} {terms : List Term}

section Steps

variable (sql : Sqlite) (idxNum : Int32) (argv : List Value)

/-- The steps of the decoding: each reads when its flag is set. -/
def steps : List (ReadStep Decoding Stop) :=
  [⟨idxNum &&& searchFuzzyName != 0, readName sql idxNum argv⟩,
    ⟨idxNum &&& searchScope != 0, readScope sql idxNum argv⟩,
    ⟨idxNum &&& searchPath != 0, readPath sql idxNum argv⟩]

/-- The positions of `argv` that `Filter` reads, until it completes or fails. -/
def positionsRead : List ℕ :=
  if idxNum = searchId then [0]
  else ReadStep.positions (·.argIndex) (steps sql idxNum argv) {}

/-- **The decoding** is its steps in order. -/
theorem decode_eq_foldlM : decode sql idxNum argv =
    (do let d ← (steps sql idxNum argv).foldlM (fun d step => step.run d) {}
        return setExactScope idxNum d) := by
  simp only [decode, steps, List.foldlM_cons, List.foldlM_nil, bind_pure, bind_assoc]

end Steps

/-! ## One step -/

variable {flag : Int32} {set : FuzzyFindRequest → Str → FuzzyFindRequest} {d d' : Decoding}

/-- A step that completes has read the argument at the counter, or nothing. -/
theorem readText_eq_ok (h : readText sql idxNum argv flag set d = .ok d') :
    d'.argIndex = d.argIndex + (if (idxNum &&& flag != 0) = true then 1 else 0) ∧
      d'.reads = d.reads ++ if (idxNum &&& flag != 0) = true then [d.argIndex] else [] := by
  unfold readText at h
  by_cases hflag : idxNum &&& flag ≠ 0
  · rw [if_pos hflag] at h
    obtain ⟨v, -, h⟩ := Except.bind_eq_ok.mp h
    obtain ⟨s, -, h⟩ := Except.bind_eq_ok.mp h
    obtain rfl := Except.ok.inj h
    rw [if_pos (bne_iff_ne.mpr hflag), if_pos (bne_iff_ne.mpr hflag)]
    exact ⟨rfl, rfl⟩
  · rw [if_neg hflag] at h
    obtain rfl := Except.ok.inj h
    have hclear : ¬ (idxNum &&& flag != 0) = true := mt bne_iff_ne.mp hflag
    rw [if_neg hclear, if_neg hclear, Nat.add_zero, List.append_nil]
    exact ⟨rfl, rfl⟩

theorem readText_argvBounds
    (h : readText sql idxNum argv flag set d = .error (.undefined .argvBounds)) :
    (idxNum &&& flag != 0) = true ∧ argv.length ≤ d.argIndex := by
  unfold readText at h
  by_cases hflag : idxNum &&& flag ≠ 0
  · rw [if_pos hflag] at h
    exact ⟨bne_iff_ne.mpr hflag,
      length_le_of_bind_textOf_argAt (fun _ => by simp [pure, Except.pure]) h⟩
  · rw [if_neg hflag] at h
    exact absurd h (by simp [pure, Except.pure])

theorem readText_null (hflag : (idxNum &&& flag != 0) = true)
    (hget : argv[d.argIndex]? = some .null) :
    readText sql idxNum argv flag set d = .error (.undefined .nullString) := by
  unfold readText
  rw [if_pos (bne_iff_ne.mp hflag)]
  exact bind_textOf_argAt_null hget

theorem readText_of_lt (hlt : d.argIndex < argv.length) :
    readText sql idxNum argv flag set d = .error (.undefined .nullString) ∨
      ∃ d', readText sql idxNum argv flag set d = .ok d' := by
  unfold readText
  split_ifs
  · exact (bind_textOf_argAt_of_lt hlt).imp_right fun ⟨_, hs⟩ => ⟨_, hs⟩
  · exact Or.inr ⟨d, rfl⟩

/-! ## All steps -/

/-- Each step is one of `readText`. -/
theorem exists_readText {step : ReadStep Decoding Stop} (h : step ∈ steps sql idxNum argv) :
    ∃ flag set, step = ⟨idxNum &&& flag != 0, readText sql idxNum argv flag set⟩ := by
  simp only [steps, List.mem_cons, List.not_mem_nil, or_false] at h
  rcases h with rfl | rfl | rfl
  · exact ⟨_, _, rfl⟩
  · exact ⟨_, _, rfl⟩
  · exact ⟨_, _, rfl⟩

theorem steps_advance : ∀ step ∈ steps sql idxNum argv, step.Advances (·.argIndex) := by
  intro step hstep d d' h
  obtain ⟨flag, set, rfl⟩ := exists_readText hstep
  exact (readText_eq_ok h).1

/-- The positions read are those the decoding records. -/
theorem reads_eq_positionsRead (hidx : idxNum ≠ searchId) (h : decode sql idxNum argv = .ok d) :
    d.reads = positionsRead sql idxNum argv := by
  rw [decode_eq_foldlM] at h
  obtain ⟨d₀, h₀, h⟩ := Except.bind_eq_ok.mp h
  obtain rfl := Except.ok.inj h
  rw [setExactScope_reads, positionsRead, if_neg hidx]
  refine ReadStep.log_eq_positions (·.reads) (fun step hstep d d' hd => ?_) h₀
  obtain ⟨flag, set, rfl⟩ := exists_readText hstep
  exact (readText_eq_ok hd).2

/-- **There is an argument for each step that reads**, under a plan without an id. -/
theorem count_steps (hid : firstTerm isId terms = none) (argv : List Value) :
    ReadStep.count (steps sql (idxNumOf terms) argv) = (arguments terms).length := by
  obtain ⟨-, hname, hscope, hpath, -⟩ := idxNumOf_bits hid
  simp only [ReadStep.count, steps, List.countP_cons, List.countP_nil, bne_iff_ne, hname, hscope,
    hpath, arguments, hid, List.length_append]
  cases firstTerm isName terms <;> cases firstTerm isScope terms <;>
    cases firstTerm isPath terms <;> rfl

/-- **The arguments of a plan are read in bounds**, and none of them twice. -/
theorem positionsRead_plan (sql : Sqlite) (terms : List Term) {argv : List Value}
    (hlen : argv.length = (arguments terms).length) :
    (positionsRead sql (idxNumOf terms) argv).Nodup ∧
      ∀ p ∈ positionsRead sql (idxNumOf terms) argv, p < argv.length := by
  unfold positionsRead
  cases hid : firstTerm isId terms with
  | some t =>
    have hidx : idxNumOf terms = searchId := by rw [idxNumOf, hid]
    rw [if_pos hidx, hlen, arguments, hid]
    simp
  | none =>
    rw [if_neg (idxNumOf_bits hid).1]
    refine ⟨ReadStep.nodup_positions steps_advance _, fun p hp => ?_⟩
    have hlt := ReadStep.lt_of_mem_positions steps_advance hp
    rw [count_steps hid] at hlt
    simpa [hlen] using hlt

/-- The request is made from no argument beyond `argc`. -/
theorem request_ne_argvBounds (terms : List Term) {argv : List Value}
    (hlen : argv.length = (arguments terms).length) :
    request sql (idxNumOf terms) argv ≠ .error (.undefined .argvBounds) := by
  intro h
  have hread := (positionsRead_plan sql terms hlen).2
  unfold positionsRead at hread
  unfold request at h
  by_cases hidx : idxNumOf terms = searchId
  · rw [if_pos hidx] at h hread
    have hlen' := length_le_of_bind_textOf_argAt (fun _ => by simp [pure, Except.pure]) h
    have hpos := hread 0 List.mem_cons_self
    omega
  · rw [if_neg hidx] at h hread
    rw [decode_eq_foldlM] at h
    rcases Except.bind_eq_error.mp h with h | ⟨d, -, h⟩
    · rcases Except.bind_eq_error.mp h with h | ⟨d, -, h⟩
      · obtain ⟨p, hp, hbad⟩ := ReadStep.exists_mem_positions_of_error
          (·.argIndex) (argv.length ≤ ·) (fun step hstep d hd => by
            obtain ⟨flag, set, rfl⟩ := exists_readText hstep
            exact readText_argvBounds hd) h
        exact absurd (hread p hp) (not_lt.mpr hbad)
      · exact absurd h (by simp [pure, Except.pure])
    · exact absurd h (by simp [pure, Except.pure])

/-- `Filter` reads no argument beyond `argc`. -/
theorem filter_ne_argvBounds (terms : List Term) {argv : List Value}
    (hlen : argv.length = (arguments terms).length)
    (server : SymbolsRequest → List (Reply Symbol)) (c : SymbolsCursor) :
    filter sql server (idxNumOf terms) argv c ≠ .error (.undefined .argvBounds) := by
  unfold filter
  intro h
  rcases Except.bind_eq_error.mp h with h | ⟨req, -, h⟩
  · exact request_ne_argvBounds _ hlen h
  · exact absurd h (by simp [next, pure, Except.pure, Bind.bind, Except.bind])

/-- **With NULL among the arguments of a plan** a string is built from a null pointer. -/
theorem request_null (h : .null ∈ arguments terms) :
    request sql (idxNumOf terms) (arguments terms) = .error (.undefined .nullString) := by
  obtain ⟨p, hp, hnull⟩ := List.getElem_of_mem h
  have hget : (arguments terms)[p]? = some .null := by rw [List.getElem?_eq_getElem hp, hnull]
  unfold request
  cases hid : firstTerm isId terms with
  | some t =>
    have hidx : idxNumOf terms = searchId := by rw [idxNumOf, hid]
    have hzero : p = 0 := by
      rw [arguments, hid] at hp
      simpa using hp
    rw [if_pos hidx]
    exact bind_textOf_argAt_null (hzero ▸ hget)
  | none =>
    have hfold : (steps sql (idxNumOf terms) (arguments terms)).foldlM
        (fun d step => step.run d) {} = .error (.undefined .nullString) := by
      refine ReadStep.foldlM_eq_error (·.argIndex) (fun p => (arguments terms)[p]? = some .null)
        steps_advance ?_ ?_ hget (Nat.zero_le p) ?_
      · intro step hstep hreads d hd
        obtain ⟨flag, set, rfl⟩ := exists_readText hstep
        exact readText_null hreads hd
      · intro step hstep d hd
        obtain ⟨flag, set, rfl⟩ := exists_readText hstep
        exact readText_of_lt (lt_of_le_of_lt hd hp)
      · rw [count_steps hid]
        simpa using hp
    rw [if_neg (idxNumOf_bits hid).1, decode_eq_foldlM, hfold]
    rfl

end SymbolsCursor

end ClangQL
