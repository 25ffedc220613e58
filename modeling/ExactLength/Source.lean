/-!
# Byte sources

A source is a sequence of bytes waiting to be written, held in chunks as it lies in memory. A writer is shown the
first chunk only, and takes bytes from the front, over chunk borders where it takes more than one chunk. Chunks
that are used up are dropped, so no chunk of a source is empty.

The view of a source is `Source.bytes`, the bytes still waiting. `Source.bytes_advance` says what taking bytes does
to it, and `Source.bytes_eq_chunk_append` how the first chunk lies in it.
-/

namespace ExactLength

/-- A run of bytes. -/
abbrev Bytes := List UInt8

/-- A sum that fits does not wrap. -/
theorem toNat_add_of_lt {a b : UInt64} (h : a.toNat + b.toNat < UInt64.size) : (a + b).toNat = a.toNat + b.toNat :=
  (UInt64.toNat_add a b).trans (Nat.mod_eq_of_lt h)

/-- Bytes waiting to be written, in chunks. -/
@[ext]
structure Source where
  /-- The chunks, in order. -/
  chunks : List Bytes
  /-- No chunk is empty. -/
  chunk_ne_nil : ∀ c ∈ chunks, c ≠ []
  deriving DecidableEq

namespace Source

/-- The source of the given chunks. Empty ones are dropped. -/
def ofChunks (chunks : List Bytes) : Source where
  chunks := chunks.filter (!·.isEmpty)
  chunk_ne_nil c h := by simpa using (List.mem_filter.1 h).2

/-- A source in one chunk. -/
def ofBytes (bytes : Bytes) : Source :=
  ofChunks [bytes]

/-- The bytes still waiting. -/
def bytes (s : Source) : Bytes :=
  s.chunks.flatten

/-- The number of bytes still waiting. -/
def remaining (s : Source) : Nat :=
  s.bytes.length

/-- Whether all bytes have been taken. -/
def isEmpty (s : Source) : Bool :=
  s.chunks.isEmpty

/-- The first chunk, which is all that a writer is shown. -/
def chunk (s : Source) : Bytes :=
  s.chunks.headD []

/-- Chunks without their first `n` bytes. -/
def dropBytes (n : Nat) : List Bytes → List Bytes
  | [] => []
  | c :: rest => if n < c.length then c.drop n :: rest else dropBytes (n - c.length) rest

theorem dropBytes_ne_nil {n : Nat} {chunks : List Bytes} (h : ∀ c ∈ chunks, c ≠ []) :
    ∀ c ∈ dropBytes n chunks, c ≠ [] := by
  induction chunks generalizing n with
  | nil => simp [dropBytes]
  | cons c rest ih =>
    have hrest : ∀ d ∈ rest, d ≠ [] := fun d hd => h d (List.mem_cons_of_mem _ hd)
    rw [dropBytes]
    split
    · intro d hd
      rcases List.mem_cons.1 hd with rfl | hd
      · simp [List.drop_eq_nil_iff]; omega
      · exact hrest d hd
    · exact ih hrest

/-- The source without its first `n` bytes. -/
def advance (s : Source) (n : Nat) : Source where
  chunks := dropBytes n s.chunks
  chunk_ne_nil := dropBytes_ne_nil s.chunk_ne_nil

/-! ### The view -/

theorem flatten_dropBytes (n : Nat) (chunks : List Bytes) :
    (dropBytes n chunks).flatten = chunks.flatten.drop n := by
  induction chunks generalizing n with
  | nil => simp [dropBytes]
  | cons c rest ih =>
    rw [dropBytes]
    split
    · next h => simp [List.drop_append_of_le_length (Nat.le_of_lt h)]
    · next h => simp [ih, List.drop_append, List.drop_eq_nil_of_le (Nat.le_of_not_lt h)]

@[simp] theorem bytes_advance (s : Source) (n : Nat) : (s.advance n).bytes = s.bytes.drop n :=
  flatten_dropBytes n s.chunks

@[simp] theorem advance_zero (s : Source) : s.advance 0 = s := by
  rcases s with ⟨_ | ⟨c, rest⟩, h⟩
  · rfl
  · simp [advance, dropBytes, List.length_pos_iff, h c List.mem_cons_self]

@[simp] theorem remaining_advance (s : Source) (n : Nat) : (s.advance n).remaining = s.remaining - n := by
  simp [remaining]

@[simp] theorem bytes_ofChunks (chunks : List Bytes) : (ofChunks chunks).bytes = chunks.flatten := by
  simp only [bytes, ofChunks]
  induction chunks with
  | nil => rfl
  | cons c rest ih => cases c <;> simp_all

@[simp] theorem bytes_ofBytes (bytes : Bytes) : (ofBytes bytes).bytes = bytes := by
  simp [ofBytes]

theorem remaining_ofBytes (bytes : Bytes) : (ofBytes bytes).remaining = bytes.length := by
  rw [remaining, bytes_ofBytes]

theorem isEmpty_iff (s : Source) : s.isEmpty = true ↔ s.bytes = [] := by
  rcases s with ⟨_ | ⟨c, rest⟩, h⟩
  · simp [isEmpty, bytes]
  · simp [isEmpty, bytes, h c List.mem_cons_self]

theorem bytes_eq_chunk_append (s : Source) : s.bytes = s.chunk ++ (s.chunks.drop 1).flatten := by
  rcases s with ⟨_ | ⟨c, rest⟩, h⟩ <;> simp [chunk, bytes]

theorem chunk_length_le (s : Source) : s.chunk.length ≤ s.remaining := by
  simp [remaining, bytes_eq_chunk_append s]

theorem chunk_length_pos {s : Source} (h : s.isEmpty = false) : 0 < s.chunk.length := by
  rcases s with ⟨_ | ⟨c, rest⟩, hne⟩
  · cases h
  · exact List.length_pos_iff.2 (hne c List.mem_cons_self)

/-- A source that is not empty holds something. -/
theorem remaining_pos {s : Source} (h : s.isEmpty = false) : 0 < s.remaining :=
  Nat.lt_of_lt_of_le (chunk_length_pos h) s.chunk_length_le

/-! ### Several sources -/

/-- The number of bytes waiting in a list of sources, counted in sixty-four bits: the count wraps. -/
def total : List Source → UInt64
  | [] => 0
  | s :: rest => UInt64.ofNat s.remaining + total rest

/-- The bytes waiting in a list of sources, in order. -/
def joined (sources : List Source) : Bytes :=
  (sources.map bytes).flatten

/-- Whether all bytes of all sources have been taken. -/
def allEmpty (sources : List Source) : Bool :=
  sources.all isEmpty

/-- Takes the first `n` bytes of a list of sources, in order. -/
def advanceAll (n : Nat) : List Source → List Source
  | [] => []
  | s :: rest => s.advance n :: advanceAll (n - s.remaining) rest

@[simp] theorem joined_nil : joined [] = [] := rfl

@[simp] theorem joined_cons (s : Source) (rest : List Source) : joined (s :: rest) = s.bytes ++ joined rest := rfl

/-- The count is right modulo `2 ^ 64`. -/
theorem toNat_total_eq_mod (sources : List Source) :
    (total sources).toNat = (joined sources).length % UInt64.size := by
  induction sources with
  | nil => rfl
  | cons s rest ih =>
    rw [total, joined_cons, List.length_append, UInt64.toNat_add, UInt64.toNat_ofNat', ih]
    exact (Nat.add_mod _ _ _).symm

/-- The count is right if it fits. -/
theorem toNat_total {sources : List Source} (h : (joined sources).length < UInt64.size) :
    (total sources).toNat = (joined sources).length := by
  rw [toNat_total_eq_mod, Nat.mod_eq_of_lt h]

theorem joined_map_ofBytes (runs : List Bytes) : joined (runs.map ofBytes) = runs.flatten := by
  induction runs with
  | nil => rfl
  | cons run rest ih => rw [List.map_cons, joined_cons, bytes_ofBytes, ih, List.flatten_cons]

@[simp] theorem advanceAll_zero (sources : List Source) : advanceAll 0 sources = sources := by
  induction sources with
  | nil => rfl
  | cons s rest ih => rw [advanceAll, Nat.zero_sub, advance_zero, ih]

end Source

end ExactLength
