import ClangQL.Refs.Cursor

/-!
# The argument encoding of the refs table

`RefsTable::BestIndex` encodes the chosen constraints in the bits of the plan number and the
order of the arguments; `RefsCursor::Filter` decodes them with a counter of its own. Both loops
for `Declaration` and `Definition` set the bit that `Filter` reads as `Definition`, so
no plan with an equality on `Declaration` is decoded as it was meant. The id is cut at a NUL, and
a flag 0 takes every kind out of the mask and not its own only.

## Main definitions

* `valueReadFor`: the argument the decoding read for a use
* `Serves`, `EncodingAgrees`: every argument is read once, for the column of its constraint, and
  the id and the mask that are sent are those of the chosen values
* `readFlags`: the flag arguments that are read under a plan

## Main results

* `decode_plan`: the decoding under the plan of a query
* `encodingAgrees_iff`: the encodings agree exactly without an equality on `Declaration`, a NUL
  in the id and a flag 0
-/

namespace ClangQL

open RefsTable RefsCursor

variable {sql : Sqlite} {terms : List Term}

/-! ## The plan, decoded -/

theorem idxNumOf_and_constrId (terms : List Term) :
    idxNumOf terms &&& constrId ≠ 0 ↔ (chosen terms 0).isSome := by
  unfold idxNumOf
  generalize (chosen terms 0).isSome = b₀, (chosen terms 1).isSome = b₁,
    (chosen terms 2).isSome = b₂, (chosen terms 3).isSome = b₃, (chosen terms 4).isSome = b₄
  revert b₀ b₁ b₂ b₃ b₄
  decide

/-- The kind bits decoded from a plan number: the bit of `Definition` stands for both loops
that set it, and that of `Declaration` is never set. -/
theorem bitsOf_idxNumOf (terms : List Term) :
    bitsOf (idxNumOf terms) flagFields =
      (if (chosen terms 1).isSome || (chosen terms 2).isSome then [kindDefinition] else []) ++
        (if (chosen terms 3).isSome then [kindReference] else []) ++
          if (chosen terms 4).isSome then [kindSpelled] else [] := by
  unfold idxNumOf
  generalize (chosen terms 0).isSome = b₀, (chosen terms 1).isSome = b₁,
    (chosen terms 2).isSome = b₂, (chosen terms 3).isSome = b₃, (chosen terms 4).isSome = b₄
  revert b₀ b₁ b₂ b₃ b₄
  decide

/-- The flag arguments that are read: one is left over when two loops set the same bit. -/
def readFlags (terms : List Term) : List Value :=
  if (chosen terms 1).isSome && (chosen terms 2).isSome then (flagArguments terms).dropLast
  else flagArguments terms

theorem take_flagArguments (terms : List Term) :
    (flagArguments terms).take (bitsOf (idxNumOf terms) flagFields).length = readFlags terms := by
  rw [bitsOf_idxNumOf, readFlags, flagArguments]
  cases chosen terms 1 <;> cases chosen terms 2 <;> cases chosen terms 3 <;>
    cases chosen terms 4 <;> rfl

theorem length_bitsOf_le (terms : List Term) :
    (bitsOf (idxNumOf terms) flagFields).length ≤ (flagArguments terms).length := by
  rw [bitsOf_idxNumOf, flagArguments]
  cases chosen terms 1 <;> cases chosen terms 2 <;> cases chosen terms 3 <;>
    cases chosen terms 4 <;> simp

@[simp] theorem refsTable_idxNum : ((refsTable sql).plan terms).idxNum = idxNumOf terms :=
  bestIndex_idxNum terms

@[simp] theorem refsTable_args : (refsTable sql).args terms = arguments terms :=
  bestIndex_args terms

/-- The ids of the request, for the chosen equality on `SymbolId`. -/
def idsOf (sql : Sqlite) (terms : List Term) : List Str :=
  ((chosen terms 0).map (keyText sql)).toList

/-- The decoding after `if (idxNum & CONSTR_ID)`: the chosen id, if there is one, is read. -/
theorem readId_plan (sql : Sqlite) (hid : chosen terms 0 ≠ some .null) :
    ∃ d₀, readId sql (idxNumOf terms) (arguments terms) {} = .ok d₀ ∧ d₀.kind = kindAll ∧
      d₀.ids = idsOf sql terms ∧ d₀.argvIndex = (chosen terms 0).toList.length ∧
      d₀.reads = ((chosen terms 0).map fun _ => (0, ArgUse.id)).toList := by
  have hbit := idxNumOf_and_constrId terms
  unfold readId idsOf arguments
  cases h : chosen terms 0 with
  | none =>
    rw [h] at hbit
    rw [if_neg (by simpa using hbit)]
    exact ⟨{}, rfl, rfl, rfl, rfl, rfl⟩
  | some w =>
    rw [h] at hbit
    rw [if_pos (by simpa using hbit)]
    refine ⟨⟨[keyText sql w], kindAll, 1, [(0, .id)]⟩, ?_, rfl, rfl, rfl, rfl⟩
    exact bind_textOf_argAt rfl fun hw => hid (by rw [h, hw])

/-- **The decoding under the plan of a query** whose chosen id is not NULL: the id goes into
the request, and the flag arguments are read in order, for the bits of the plan number. -/
theorem decode_plan (sql : Sqlite) (hid : chosen terms 0 ≠ some .null) :
    ∃ d, decode sql (idxNumOf terms) (arguments terms) = .ok d ∧ d.ids = idsOf sql terms ∧
      d.kind = kindAfter sql (readFlags terms) ∧
      d.reads = ((chosen terms 0).map fun _ => (0, ArgUse.id)).toList ++
        (List.range' (chosen terms 0).toList.length
          (bitsOf (idxNumOf terms) flagFields).length).zip
            ((bitsOf (idxNumOf terms) flagFields).map .kind) := by
  have hlen := length_bitsOf_le terms
  obtain ⟨d₀, h₀, hkind, hids, hindex, hreads⟩ := readId_plan sql hid
  have hdrop : (arguments terms).drop d₀.argvIndex = flagArguments terms := by
    rw [hindex, arguments, List.drop_left]
  have hargs : d₀.argvIndex + (bitsOf (idxNumOf terms) flagFields).length ≤
      (arguments terms).length := by
    rw [hindex, arguments, List.length_append]
    omega
  obtain ⟨d, hd, h⟩ := decode_of_readId h₀ hkind hargs
  refine ⟨d, hd, h.ids.trans hids, ?_, ?_⟩
  · rw [h.kind, hdrop, take_flagArguments]
  · rw [h.reads, hreads, hindex]

/-- With NULL for the id, the request is built from a null pointer. -/
theorem decode_plan_null (hid : chosen terms 0 = some .null) :
    decode sql (idxNumOf terms) (arguments terms) = .error (.undefined .nullString) := by
  have hbit := (idxNumOf_and_constrId terms).mpr (by rw [hid]; rfl)
  have hget : (arguments terms)[0]? = some .null := by simp [arguments, hid]
  unfold decode readId
  rw [if_pos hbit, bind_textOf_argAt_null hget]
  rfl

/-- Without an equality on `Declaration` there is one bit for each flag argument. -/
theorem length_bitsOf (hdecl : chosen terms 1 = none) :
    (bitsOf (idxNumOf terms) flagFields).length = (flagArguments terms).length := by
  rw [bitsOf_idxNumOf, flagArguments, hdecl]
  cases chosen terms 2 <;> cases chosen terms 3 <;> cases chosen terms 4 <;> rfl

/-- **The positions read** are the first ones in order: that of the id, if there is one, and the
ones after it. -/
theorem map_fst_reads {id : Option Value} {bits : List UInt32} :
    ((id.map fun _ => (0, ArgUse.id)).toList ++
      (List.range' id.toList.length bits.length).zip (bits.map ArgUse.kind)).map Prod.fst =
        List.range (id.toList.length + bits.length) := by
  rw [List.map_append, List.map_fst_zip (by simp), List.range_eq_range',
    ← List.range'_append_1, Nat.zero_add]
  cases id <;> rfl

/-! ## Agreement of the encodings -/

/-- The argument read for a use. -/
def valueReadFor (d : Decoding) (argv : List Value) (use : ArgUse) : Option Value :=
  (d.reads.find? fun r => r.2 = use).bind fun r => argv[r.1]?

/-- The kind bits with the schema columns they stand for. -/
def schemaBits : List (UInt32 × Int) :=
  [(kindDeclaration, 1), (kindDefinition, 2), (kindReference, 3), (kindSpelled, 4)]

/-- What a decoding owes to the chosen equalities of a query. Its ids and its mask are those of
the request that `Filter` sends. -/
structure Serves (sql : Sqlite) (terms : List Term) (d : Decoding) : Prop where
  /-- Every argument of the plan is read once. -/
  reads_once : (d.reads.map Prod.fst).Perm (List.range ((refsTable sql).args terms).length)
  sends : ((refsTable sql).plan terms).idxNum ≠ 0 → ∀ server c, ∃ c',
    (refsTable sql).cursor.filter server ((refsTable sql).plan terms).idxNum
      ((refsTable sql).args terms) c = .ok (sqliteOk, some ⟨d.ids, some d.kind⟩, c')
  id_read : valueReadFor d ((refsTable sql).args terms) .id = chosen terms 0
  /-- The id sent is the whole text of the chosen one. -/
  ids : d.ids = ((chosen terms 0).bind sql.valueText).toList
  kind_read : ∀ b ∈ schemaBits,
    valueReadFor d ((refsTable sql).args terms) (.kind b.1) = chosen terms b.2
  /-- A kind bit is sent, unless the value chosen for its column is 0. -/
  kind_sent : ∀ b ∈ schemaBits,
    d.kind &&& b.1 ≠ 0 ↔ ∀ v, chosen terms b.2 = some v → sql.valueInt v ≠ 0

/-- **The encodings agree** on a query: `Filter` decodes its plan, reads each argument once, and
sends the text of the chosen id and the mask that the values of the chosen flags ask for. -/
def EncodingAgrees (sql : Sqlite) (terms : List Term) : Prop :=
  ∃ d, decode sql ((refsTable sql).plan terms).idxNum ((refsTable sql).args terms) = .ok d ∧
    Serves sql terms d

/-- No argument is read for the bit of `Declaration`. -/
theorem valueReadFor_declaration {d : Decoding} {argv : List Value}
    (h : decode sql (idxNumOf terms) (arguments terms) = .ok d) :
    valueReadFor d argv (.kind kindDeclaration) = none := by
  have hid : chosen terms 0 ≠ some .null := fun hn =>
    absurd (h.symm.trans (decode_plan_null hn)) (by simp)
  obtain ⟨d', hd', -, -, hreads⟩ := decode_plan sql hid
  obtain rfl : d = d' := Except.ok.inj (h.symm.trans hd')
  -- the bits read never include that of `Declaration`, as no loop sets `CONSTR_DECL`
  rw [valueReadFor, hreads, bitsOf_idxNumOf]
  generalize (chosen terms 1).isSome = b₁, (chosen terms 2).isSome = b₂,
    (chosen terms 3).isSome = b₃, (chosen terms 4).isSome = b₄
  cases chosen terms 0 <;> cases b₁ <;> cases b₂ <;> cases b₃ <;> cases b₄ <;> rfl

theorem chosen_eq_none_iff {column : Int} : chosen terms column = none ↔
    ∀ t ∈ terms, t.constraint.usable = true → isEqualityOn column t.constraint = false := by
  simp [chosen, firstTerm, List.find?_eq_none]

/-- Without an equality on `Declaration` every chosen flag is read. -/
theorem forall_mem_readFlags {P : Value → Prop} (hdecl : chosen terms 1 = none) :
    (∀ v ∈ readFlags terms, P v) ↔
      ∀ column ∈ ([2, 3, 4] : List Int), ∀ v, chosen terms column = some v → P v := by
  have hread : readFlags terms = (chosen terms 2).toList ++ (chosen terms 3).toList ++
      (chosen terms 4).toList := by
    rw [readFlags, flagArguments, hdecl]
    rfl
  simp only [hread, List.forall_mem_append, List.forall_mem_cons, List.not_mem_nil, false_imp_iff,
    implies_true, and_true, Option.mem_toList, and_assoc]

/-- The mask keeps a kind bit exactly when no value read is 0. -/
theorem kindAfter_and_ne_zero {vs : List Value} {b : UInt32 × Int} (hb : b ∈ schemaBits) :
    kindAfter sql vs &&& b.1 ≠ 0 ↔ ∀ v ∈ vs, sql.valueInt v ≠ 0 := by
  have hall : ∀ b ∈ schemaBits, kindAll &&& b.1 ≠ 0 := by decide
  unfold kindAfter
  split_ifs with h
  · exact iff_of_true (hall b hb) (by simpa using h)
  · exact iff_of_false (by simp) (by simpa using h)

/-- The id sent is the text of the chosen one exactly when there is no NUL in it. -/
theorem idsOf_eq_iff (hid : chosen terms 0 ≠ some .null) :
    idsOf sql terms = ((chosen terms 0).bind sql.valueText).toList ↔
      ∀ v, chosen terms 0 = some v → ∃ s, sql.valueText v = some s ∧ NulFree s := by
  unfold idsOf
  cases h : chosen terms 0 with
  | none => simp
  | some v =>
    have hv : v ≠ .null := fun hv => hid (by rw [h, hv])
    obtain ⟨s, hs⟩ := sql.exists_valueText hv
    have hcut : cStr s = s ↔ NulFree s := ⟨fun he => he ▸ nulFree_cStr s, cStr_eq_self⟩
    simpa [keyText, hs] using hcut

/-- Without an equality on `Declaration`, each value is read for its own use: every search that
found a constraint gave one argument, in the order of the bits. -/
theorem valueReadFor_plan {d : Decoding} (hdecl : chosen terms 1 = none)
    (hreads : d.reads = ((chosen terms 0).map fun _ => (0, ArgUse.id)).toList ++
      (List.range' (chosen terms 0).toList.length (bitsOf (idxNumOf terms) flagFields).length).zip
        ((bitsOf (idxNumOf terms) flagFields).map .kind)) :
    valueReadFor d (arguments terms) .id = chosen terms 0 ∧
      ∀ b ∈ schemaBits, valueReadFor d (arguments terms) (.kind b.1) = chosen terms b.2 := by
  rw [bitsOf_idxNumOf, hdecl] at hreads
  constructor
  · rw [valueReadFor, hreads, arguments, flagArguments, hdecl]
    cases chosen terms 0 <;> cases chosen terms 2 <;> cases chosen terms 3 <;>
      cases chosen terms 4 <;> rfl
  · rw [schemaBits]
    simp only [List.forall_mem_cons, List.not_mem_nil, false_imp_iff, implies_true, and_true]
    unfold valueReadFor
    rw [hreads, arguments, flagArguments, hdecl]
    cases chosen terms 0 <;> cases chosen terms 2 <;> cases chosen terms 3 <;>
      cases chosen terms 4 <;> exact ⟨rfl, rfl, rfl, rfl⟩

/-- The encodings agree on a query without an equality on `Declaration`, a NUL in the id and a
flag 0. -/
theorem encodingAgrees_of_chosen (hdecl : chosen terms 1 = none)
    (htext : ∀ v, chosen terms 0 = some v → ∃ s, sql.valueText v = some s ∧ NulFree s)
    (hflags : ∀ column ∈ ([2, 3, 4] : List Int), ∀ v, chosen terms column = some v →
      sql.valueInt v ≠ 0) : EncodingAgrees sql terms := by
  have hid : chosen terms 0 ≠ some .null := by
    intro hn
    obtain ⟨s, hs, -⟩ := htext .null hn
    exact absurd (sql.valueText_null.symm.trans hs) (by simp)
  obtain ⟨d, hd, hids, hkind, hreads⟩ := decode_plan sql hid
  have hread : ∀ v ∈ readFlags terms, sql.valueInt v ≠ 0 := (forall_mem_readFlags hdecl).mpr hflags
  have hvalue : ∀ b ∈ schemaBits, ∀ v, chosen terms b.2 = some v → sql.valueInt v ≠ 0 := by
    simp only [schemaBits, List.forall_mem_cons, List.not_mem_nil, false_imp_iff, implies_true,
      and_true] at hflags ⊢
    exact ⟨fun v hv => absurd (hdecl.symm.trans hv) (by simp), hflags⟩
  have hpositions : d.reads.map Prod.fst = List.range (arguments terms).length := by
    rw [hreads, map_fst_reads, length_bitsOf hdecl, arguments, List.length_append]
  obtain ⟨hreadId, hreadKind⟩ := valueReadFor_plan hdecl hreads
  rw [EncodingAgrees, refsTable_idxNum, refsTable_args]
  refine ⟨d, hd, ?_, ?_, ?_, hids.trans ((idsOf_eq_iff hid).mpr htext), ?_, fun b hb => ?_⟩
  · rw [refsTable_args]
    exact .of_eq hpositions
  · intro hidx server c
    rw [refsTable_idxNum] at hidx ⊢
    rw [refsTable_args]
    exact ⟨_, filter_of_decode hidx hd⟩
  · rw [refsTable_args]
    exact hreadId
  · rw [refsTable_args]
    exact hreadKind
  · rw [hkind, kindAfter_and_ne_zero hb]
    exact iff_of_true hread (hvalue b hb)

/-- **The encodings agree exactly** on the queries without a usable equality on `Declaration`,
whose chosen id, if there is one, is a text without NUL, and of whose chosen flags none is 0. -/
theorem encodingAgrees_iff (sql : Sqlite) (terms : List Term) :
    EncodingAgrees sql terms ↔
      (∀ t ∈ terms, t.constraint.usable = true → isEqualityOn 1 t.constraint = false) ∧
        (∀ v, chosen terms 0 = some v → ∃ s, sql.valueText v = some s ∧ NulFree s) ∧
        ∀ column ∈ ([2, 3, 4] : List Int), ∀ v, chosen terms column = some v →
          sql.valueInt v ≠ 0 := by
  rw [← chosen_eq_none_iff]
  constructor
  · rintro ⟨d, hd, h⟩
    rw [refsTable_idxNum, refsTable_args] at hd
    have hid : chosen terms 0 ≠ some .null := fun hn =>
      absurd (hd.symm.trans (decode_plan_null hn)) (by simp)
    obtain ⟨d', hd', hids, hkind, -⟩ := decode_plan sql hid
    obtain rfl : d = d' := Except.ok.inj (hd.symm.trans hd')
    have hdecl : chosen terms 1 = none := by
      rw [← h.kind_read (kindDeclaration, 1) (by decide), valueReadFor_declaration hd]
    have hread : ∀ v ∈ readFlags terms, sql.valueInt v ≠ 0 := by
      rw [← kindAfter_and_ne_zero (b := (kindDeclaration, 1)) (by decide), ← hkind,
        h.kind_sent _ (by decide)]
      exact fun v hv => absurd (hdecl.symm.trans hv) (by simp)
    exact ⟨hdecl, (idsOf_eq_iff hid).mp (hids.symm.trans h.ids),
      (forall_mem_readFlags hdecl).mp hread⟩
  · rintro ⟨hdecl, htext, hflags⟩
    exact encodingAgrees_of_chosen hdecl htext hflags

/-- **The encodings disagree** on `SymbolId = 'a' AND Declaration = 1`, where `Filter` takes
the value of `Declaration` for the one of `Definition`. -/
theorem not_encodingAgrees_declaration :
    ¬ EncodingAgrees .sample [.equality 0 (.text ['a']), .equality 1 (.integer 1)] := by
  rintro ⟨d, hd, h⟩
  rw [refsTable_idxNum, refsTable_args] at hd
  have hdecl := h.kind_read (kindDeclaration, 1) (by decide)
  rw [valueReadFor_declaration hd] at hdecl
  exact absurd hdecl (by decide)

end ClangQL
