import Mathlib.Data.List.Infix
import ClangQL.Library.FirstMatch

/-!
# Remote calls with streamed answers

A client calls a method of a service by its name, on the bytes of a request, and reads the messages
of the answer one by one. The service has registered a handler for each of its methods. What is
between the two is a library: this module states what a client and a service may rely on, and what
follows for the messages that are read until the reader fails.

The parsers and serializers of the messages belong to the client and the service, which hand them
to the library.

## Main definitions

* `Rpc`: the functions of the library, with their laws
* `Rpc.received`: the messages read until the reader fails
* `Rpc.direct`: a library that hands the messages over in the same process

## Main results

* `Rpc.read_eq_some_iff`: what a reader delivers
* `Rpc.received_append`: the messages that were serialized are read
* `Rpc.received_mono`: of the first messages of a stream, the first are read
-/

/-- The functions of a library for remote calls. `pending reader` are the messages still to come to
a reader: the other side has written them and they will arrive. -/
structure Rpc where
  Channel : Type
  ClientReader : Type
  MethodHandler : Type
  /-- No longer message is delivered. -/
  maxMessageSize : ℕ
  pending : ClientReader → List (List UInt8)
  /-- Calls the method of a name on a channel, with the bytes of a request. -/
  create : Channel → String → List UInt8 → ClientReader
  /-- Reads a message with the parser of its type. -/
  read : {R : Type} → (List UInt8 → Option R) → ClientReader → Option (R × ClientReader)
  /-- The handler of a method that writes a stream of messages: it parses the request, and the
  messages are serialized. -/
  streamingHandler : {Q R : Type} → (List UInt8 → Option Q) → (R → List UInt8) → (Q → List R) →
    MethodHandler
  /-- A channel to a service with these handlers. -/
  connect : List (String × MethodHandler) → Channel
  /-- A reader delivers the next message that comes, parsed, or none. -/
  pending_of_read : ∀ {R : Type} {parse : List UInt8 → Option R} {reader reader' : ClientReader}
    {r : R}, read parse reader = some (r, reader') → ∃ bytes, pending reader =
      bytes :: pending reader' ∧ bytes.length ≤ maxMessageSize ∧ parse bytes = some r
  /-- A message within the limit that can be parsed is delivered. -/
  isSome_read : ∀ {R : Type} {parse : List UInt8 → Option R} {reader : ClientReader} {r : R}
    {bytes rest}, pending reader = bytes :: rest → bytes.length ≤ maxMessageSize →
      parse bytes = some r → (read parse reader).isSome
  /-- A call of a registered method, on a request within the limit that can be parsed, is answered
  by the messages that the method writes, in their order. -/
  pending_create : ∀ {Q R : Type} {parse : List UInt8 → Option Q} {serialize : R → List UInt8}
    {method : Q → List R} {methods name bytes req}, (methods.map Prod.fst).Nodup →
      (name, streamingHandler parse serialize method) ∈ methods → bytes.length ≤ maxMessageSize →
      parse bytes = some req →
      pending (create (connect methods) name bytes) = (method req).map serialize

namespace Rpc

variable {rpc : Rpc} {R : Type} {parse : List UInt8 → Option R}
  {parsers : ℕ → List UInt8 → Option R} {reader reader' : rpc.ClientReader} {r : R}
  {bytes : List UInt8} {rest : List (List UInt8)}

/-- A reader with a message to come delivers it exactly when it is within the limit and can be
parsed. -/
theorem read_eq_some_iff (h : rpc.pending reader = bytes :: rest) :
    (∃ reader', rpc.read parse reader = some (r, reader')) ↔
      bytes.length ≤ rpc.maxMessageSize ∧ parse bytes = some r := by
  constructor
  · rintro ⟨reader', hread⟩
    obtain ⟨bytes', hpending, hsize, hparse⟩ := rpc.pending_of_read hread
    obtain ⟨rfl, -⟩ := List.cons.inj (h.symm.trans hpending)
    exact ⟨hsize, hparse⟩
  · rintro ⟨hsize, hparse⟩
    obtain ⟨⟨r', reader'⟩, hread⟩ := Option.isSome_iff_exists.mp (rpc.isSome_read h hsize hparse)
    obtain ⟨bytes', hpending, -, hparse'⟩ := rpc.pending_of_read hread
    obtain ⟨rfl, -⟩ := List.cons.inj (h.symm.trans hpending)
    obtain rfl : r' = r := Option.some.inj (hparse'.symm.trans hparse)
    exact ⟨reader', hread⟩

/-- After a message is read, the others are still to come. -/
theorem pending_read (h : rpc.pending reader = bytes :: rest)
    (hread : rpc.read parse reader = some (r, reader')) : rpc.pending reader' = rest := by
  obtain ⟨bytes', hpending, -⟩ := rpc.pending_of_read hread
  exact (List.cons.inj (hpending.symm.trans h)).2

variable (rpc) in
/-- The messages read until the reader fails, the `n`-th by the `n`-th parser. -/
def received (parsers : ℕ → List UInt8 → Option R) (reader : rpc.ClientReader) : List R :=
  match h : rpc.read (parsers 0) reader with
  | some (r, reader') => r :: received (fun n => parsers (n + 1)) reader'
  | none => []
termination_by (rpc.pending reader).length
decreasing_by
  obtain ⟨bytes, hpending, -⟩ := rpc.pending_of_read h
  simp [hpending]

theorem received_of_read (h : rpc.read (parsers 0) reader = some (r, reader')) :
    rpc.received parsers reader = r :: rpc.received (fun n => parsers (n + 1)) reader' := by
  rw [received]
  split
  · next r' reader'' h' =>
    obtain ⟨rfl, rfl⟩ := Prod.mk.inj (Option.some.inj (h'.symm.trans h))
    rfl
  · next h' => exact absurd (h'.symm.trans h) (by simp)

theorem received_of_read_none (h : rpc.read (parsers 0) reader = none) :
    rpc.received parsers reader = [] := by
  rw [received]
  split
  · next h' => exact absurd (h'.symm.trans h) (by simp)
  · rfl

/-- Nothing is read when no message is to come, or the next one cannot be parsed. -/
theorem received_eq_nil (h : ∀ bytes ∈ (rpc.pending reader).head?, parsers 0 bytes = none) :
    rpc.received parsers reader = [] := by
  cases hread : rpc.read (parsers 0) reader with
  | none => exact received_of_read_none hread
  | some p =>
    obtain ⟨bytes, hpending, -, hparse⟩ := rpc.pending_of_read hread
    have hnone := h bytes (by simp [hpending])
    exact absurd (hnone.symm.trans hparse) (by simp)

/-- **The messages that were serialized are read**, and then the rest. -/
theorem received_append (parsers : ℕ → List UInt8 → Option R) {serialize : R → List UInt8}
    {rs : List R} (hpending : rpc.pending reader = rs.map serialize ++ rest)
    (h : ∀ r ∈ rs, (serialize r).length ≤ rpc.maxMessageSize ∧
      ∀ n, parsers n (serialize r) = some r) :
    ∃ reader', rpc.pending reader' = rest ∧
      rpc.received parsers reader =
        rs ++ rpc.received (fun n => parsers (n + rs.length)) reader' := by
  induction rs generalizing parsers reader with
  | nil => exact ⟨reader, hpending, rfl⟩
  | cons r rs ih =>
    obtain ⟨hsize, hparse⟩ := h r List.mem_cons_self
    obtain ⟨next, hread⟩ := (rpc.read_eq_some_iff hpending).mpr ⟨hsize, hparse 0⟩
    obtain ⟨reader', hrest, hreceived⟩ := ih (fun n => parsers (n + 1))
      (rpc.pending_read hpending hread) fun s hs =>
        ⟨(h s (List.mem_cons_of_mem r hs)).1, fun n => (h s (List.mem_cons_of_mem r hs)).2 _⟩
    refine ⟨reader', hrest, ?_⟩
    rw [received_of_read hread, hreceived]
    rfl

/-- **Of the first messages of a stream, the first are read.** -/
theorem received_mono {parsers : ℕ → List UInt8 → Option R} {broken whole : rpc.ClientReader}
    (h : rpc.pending broken <+: rpc.pending whole) :
    rpc.received parsers broken <+: rpc.received parsers whole := by
  induction hmessages : rpc.pending broken generalizing parsers broken whole with
  | nil =>
    rw [received_eq_nil (by simp [hmessages])]
    exact List.nil_prefix
  | cons bytes messages ih =>
    cases hread : rpc.read (parsers 0) broken with
    | none =>
      rw [received_of_read_none hread]
      exact List.nil_prefix
    | some p =>
      obtain ⟨r, broken'⟩ := p
      rw [hmessages] at h
      obtain ⟨rest, hrest⟩ := h
      obtain ⟨whole', hwhole⟩ := (rpc.read_eq_some_iff hrest.symm).mpr
        ((rpc.read_eq_some_iff hmessages).mp ⟨broken', hread⟩)
      have hbroken' := rpc.pending_read hmessages hread
      rw [received_of_read hread, received_of_read hwhole]
      refine List.cons_prefix_cons.mpr ⟨rfl, ih ?_ hbroken'⟩
      rw [hbroken', rpc.pending_read hrest.symm hwhole]
      exact List.prefix_append messages rest

/-- The messages handed over in the same process, up to 4 MiB each. -/
def direct : Rpc where
  Channel := String → List UInt8 → List (List UInt8)
  ClientReader := List (List UInt8)
  MethodHandler := List UInt8 → List (List UInt8)
  maxMessageSize := 4194304
  pending reader := reader
  create channel := channel
  read
    | _, [] => none
    | parse, bytes :: rest =>
      if bytes.length ≤ 4194304 then (parse bytes).map (·, rest) else none
  streamingHandler parse serialize method bytes :=
    ((parse bytes).map fun req => (method req).map serialize).getD []
  connect methods name bytes :=
    ((methods.find? (·.1 == name)).map fun m => m.2 bytes).getD []
  pending_of_read {R parse reader reader' r} h := by
    cases reader with
    | nil => exact absurd h (by simp)
    | cons bytes rest =>
      dsimp only at h
      split_ifs at h with hsize
      obtain ⟨r', hparse, heq⟩ := Option.map_eq_some_iff.mp h
      obtain ⟨rfl, rfl⟩ := Prod.mk.inj heq
      exact ⟨bytes, rfl, hsize, hparse⟩
  isSome_read {R parse reader r bytes rest} h hsize hparse := by
    subst h
    simp [hsize, hparse]
  pending_create {Q R parse serialize method methods name bytes req} hnodup hmem _ hparse := by
    have hfind := find?_of_nodup Prod.fst hnodup hmem
    dsimp only at hfind ⊢
    rw [hfind, Option.map_some, Option.getD_some]
    dsimp only
    rw [hparse, Option.map_some, Option.getD_some]

end Rpc
