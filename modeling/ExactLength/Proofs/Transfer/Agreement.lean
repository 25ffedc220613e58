import ExactLength.Proofs.Transfer.FileCopy

/-!
# The two copies agree

A copy from a file and one from a stream are written apart: the first reads into a window that it throws away, the
second into a buffer that it keeps. If the stream holds what the file holds from the position on, its reads go as those
of the file do, and the buffer is empty, the two offer the sink the same runs of bytes and end alike.

The rounds of the two go in step (`FileCopy.matches_round`). Between rounds the buffer is empty, since a write that is
not partial takes all that was read. Where the copy ends in the middle of a round the buffer keeps what was read and
not accepted, so that nothing is lost of the stream. The main statement is `copies_agree`.
-/

namespace ExactLength

namespace Round

variable {σ τ ρ υ : Type}

/-- Two loops are in step: both go on, or both are over. -/
inductive Matches (R : σ → τ → Prop) (Q : ρ → υ → Prop) : Round σ ρ → Round τ υ → Prop where
  /-- Both go on, in matching states. -/
  | again {s : σ} {t : τ} (h : R s t) : Matches R Q (.again s) (.again t)
  /-- Both are over, with matching results. -/
  | done {r : ρ} {u : υ} (h : Q r u) : Matches R Q (.done r) (.done u)

/-- Loops whose rounds are in step are in step. -/
theorem matches_iterate {R : σ → τ → Prop} {Q : ρ → υ → Prop} {f : σ → Round σ ρ} {g : τ → Round τ υ}
    (h : ∀ s t, R s t → (f s).Matches R Q (g t)) (n : Nat) {s : σ} {t : τ} (hst : R s t) :
    (iterate f n s).Matches R Q (iterate g n t) := by
  induction n generalizing s t with
  | zero => exact .again hst
  | succ n ih =>
    have hround := h s t hst
    rw [iterate, iterate]
    cases hf : f s with
    | again s' =>
      cases hg : g t with
      | again t' =>
        rw [hf, hg] at hround
        cases hround with
        | again hst' => exact ih hst'
      | done u =>
        rw [hf, hg] at hround
        cases hround
    | done r =>
      cases hg : g t with
      | again t' =>
        rw [hf, hg] at hround
        cases hround
      | done u =>
        rw [hf, hg] at hround
        cases hround with
        | done hru => exact .done hru

end Round

namespace FileCopy

variable {σ : Type}

/-- A copy from a file and one from a stream are in step: both have given the sink the same, the buffer is empty, and
the stream holds what the file holds from the next offset on. -/
structure InStep (data : Bytes) (position : UInt64) (c : FileCopy σ File) (d : StreamCopy σ) : Prop where
  /-- The sinks are the same. -/
  sink : d.sink = c.sink
  /-- The totals are the same. -/
  total : d.total = c.total
  /-- The events are the same. -/
  events : d.events = c.events
  /-- The file holds the data. -/
  data_eq : c.file.data = data
  /-- The next reads go alike. -/
  actions : d.reader.actions = c.file.actions
  /-- The buffer is empty. -/
  through : d.through = []
  /-- The next offset is within the data. -/
  inside : position.toNat + c.total.toNat ≤ data.length
  /-- The stream holds the data from there on. -/
  unread : d.reader.unread = data.drop (position.toNat + c.total.toNat)

/-- Two copies ended alike, and nothing of the stream is lost. -/
structure SameEnd (data : Bytes) (position : UInt64) (r : Reply (σ × File) UInt64)
    (q : Reply (σ × Reader × Bytes) UInt64) : Prop where
  /-- The results are the same. -/
  result : q.result = r.result
  /-- The sinks are the same. -/
  sink : q.state.1 = r.state.1
  /-- The events are the same. -/
  events : q.events = r.events
  /-- What was not accepted is in the buffer or in the stream. -/
  kept : q.state.2.2 ++ q.state.2.1.unread = data.drop (position.toNat + counted r.result)

variable {out : σ → Bytes} {write : Write σ} {position count : UInt64} {data : Bytes} {c : FileCopy σ File}
  {d : StreamCopy σ}

namespace InStep

/-- The next reads give the same. -/
theorem read_eq (h : c.InStep data position d) (hdata : data.length < UInt64.size) (count : UInt64) :
    (d.reader.read (window (count - c.total))).1 = (c.look File.readAt position count).1 := by
  have hsize : window (count - c.total) < UInt64.size := Nat.lt_of_le_of_lt (window_le_windowSize _) (by decide)
  have hoffset : (position + c.total).toNat = position.toNat + c.total.toNat :=
    toNat_add_of_lt (Nat.lt_of_le_of_lt h.inside hdata)
  rw [look, File.readsAs.result_eq _ _ _ (h.data_eq ▸ hdata) hsize, ← h.actions, h.data_eq, Reader.read]
  dsimp only
  cases (nextRead d.reader.actions (window (count - c.total))).1 with
  | error e => rfl
  | ok n =>
    simp only [Except.map, slice, hoffset, h.unread]

/-- After the next read the next reads still go alike. -/
theorem actions_eq (h : c.InStep data position d) (count : UInt64) :
    (d.reader.read (window (count - c.total))).2.actions = (c.looked File.readAt position count).file.actions := by
  rw [looked, look, File.readsAs.actions_eq, ← h.actions, Reader.read]
  dsimp only
  split <;> rfl

theorem data_looked (h : c.InStep data position d) (count : UInt64) :
    (c.looked File.readAt position count).file.data = data :=
  (File.readsFrom.view_eq _ _ _).trans h.data_eq

/-- After a write, partial or not, what was read and not accepted and what was not read are left of the data. -/
theorem kept (h : c.InStep data position d) (hwrite : TakesWindows out write) (hdata : data.length < UInt64.size)
    (hopen : c.total < count) {bytes : Bytes} (hlook : (c.look File.readAt position count).1 = .ok bytes)
    {sink : σ} {written : UInt64} (hresult : (write sink (.ofBytes bytes)).result = .ok written) :
    bytes.drop written.toNat ++ (d.reader.read (window (count - c.total))).2.unread =
        data.drop (position.toNat + (c.total + written).toNat) ∧
      position.toNat + (c.total + written).toNat ≤ data.length := by
  have hwritten := toNat_le_of_takesWindows hwrite (length_le_windowSize_of_look File.readsFrom hlook) hresult
  obtain ⟨hsum, -⟩ := toNat_add_written hopen (length_le_of_look File.readsFrom hlook) hwritten
  have hrest := (Reader.append_unread_of_read_ok ((h.read_eq hdata count).trans hlook)).trans h.unread
  have hlen := congrArg List.length hrest
  rw [List.length_append, List.length_drop] at hlen
  have hinside := h.inside
  refine ⟨?_, by omega⟩
  rw [hsum, ← Nat.add_assoc, ← List.drop_drop, ← hrest, List.drop_append_of_le_length hwritten]

end InStep

/-- A round of a copy from a stream whose buffer is empty. -/
theorem round_stream_eq (hopen : d.total < count) (hthrough : d.through = []) :
    d.round write count =
      match (d.reader.read (window (count - d.total))).1 with
      | .error e =>
        if e.isInterrupted then .again { d with reader := (d.reader.read (window (count - d.total))).2 }
        else .done (StreamCopy.fail { d with reader := (d.reader.read (window (count - d.total))).2 } (.io e))
      | .ok [] => .done (StreamCopy.finish { d with reader := (d.reader.read (window (count - d.total))).2 })
      | .ok bytes =>
        StreamCopy.pour write count
          { d with reader := (d.reader.read (window (count - d.total))).2, through := bytes } := by
  have hempty : d.through.isEmpty = true := List.isEmpty_iff.2 hthrough
  exact (if_pos hopen).trans (if_pos hempty)

/-- If it reads something, it offers the sink all of that. -/
theorem round_stream_of_read (write : Write σ) (hopen : d.total < count) (hthrough : d.through = []) {bytes : Bytes}
    (hread : (d.reader.read (window (count - d.total))).1 = .ok bytes) (hsome : bytes ≠ []) :
    let reader := (d.reader.read (window (count - d.total))).2
    let reply := write d.sink (.ofBytes bytes)
    d.round write count =
      match reply.result with
      | .error e => .done (StreamCopy.fail ⟨reply.state.1, reader, bytes, d.total, d.events ++ reply.events⟩ e)
      | .ok written =>
        let next : StreamCopy σ :=
          ⟨reply.state.1, reader, bytes.drop written.toNat, d.total + written, d.events ++ reply.events⟩
        if written.toNat < bytes.length then .done next.finish else .again next := by
  have hall : bytes.take (count - d.total).toNat = bytes :=
    List.take_of_length_le (Nat.le_trans (Reader.length_le_of_read_ok hread) (Nat.min_le_left _ _))
  obtain ⟨first, rest, rfl⟩ := List.exists_cons_of_ne_nil hsome
  rw [round_stream_eq hopen hthrough, hread]
  cases hresult : (write d.sink (.ofBytes (first :: rest))).result <;> simp only [StreamCopy.pour, hall, hresult]

/-- Copies in step are in step after another round. -/
theorem matches_round (hwrite : TakesWindows out write) (hdata : data.length < UInt64.size) (count : UInt64)
    (h : c.InStep data position d) :
    (c.round File.readAt write position count).Matches (InStep data position) (SameEnd data position)
      (d.round write count) := by
  have hgoes := c.goes_round File.readAt write position count
  have hread := h.read_eq hdata count
  have hactions := h.actions_eq count
  have hlooked := h.data_looked count
  have hkept {bytes : Bytes} {written : UInt64} (hopen : c.total < count)
      (hlook : (c.look File.readAt position count).1 = .ok bytes)
      (hresult : (write c.sink (.ofBytes bytes)).result = .ok written) :=
    h.kept hwrite hdata hopen hlook hresult
  generalize c.round File.readAt write position count = round at hgoes ⊢
  obtain ⟨sink, reader, through, total, events⟩ := d
  obtain ⟨rfl, rfl, rfl, hfile, htold, rfl, hinside, hunread⟩ := h
  dsimp only at *
  cases hgoes with
  | reached hreached =>
    rw [StreamCopy.round, if_neg (UInt64.not_lt.2 hreached)]
    exact .done ⟨rfl, rfl, rfl, hunread⟩
  | interrupted e hopen hlook he =>
    rw [hlook] at hread
    rw [round_stream_eq hopen rfl, hread]
    dsimp only
    rw [if_pos he]
    exact .again ⟨rfl, rfl, rfl, hlooked, hactions, rfl, hinside, (Reader.unread_of_read_error hread).trans hunread⟩
  | unread e hopen hlook he =>
    rw [hlook] at hread
    rw [round_stream_eq hopen rfl, hread]
    dsimp only
    rw [if_neg (by rw [he]; exact Bool.false_ne_true)]
    refine .done ⟨rfl, rfl, rfl, ?_⟩
    rw [counted_fail]
    exact (Reader.unread_of_read_error hread).trans hunread
  | dry hopen hlook =>
    rw [hlook] at hread
    rw [round_stream_eq hopen rfl, hread]
    exact .done ⟨rfl, rfl, rfl, (Reader.append_unread_of_read_ok hread).trans hunread⟩
  | refused bytes e hopen hlook hsome hresult =>
    rw [hlook] at hread
    rw [round_stream_of_read write hopen rfl hread hsome, hresult, wrote, UInt64.add_zero]
    refine .done ⟨rfl, rfl, rfl, ?_⟩
    rw [counted_fail]
    exact (Reader.append_unread_of_read_ok hread).trans hunread
  | partly bytes written hopen hlook hsome hresult hpart =>
    rw [hlook] at hread
    rw [round_stream_of_read write hopen rfl hread hsome, hresult]
    dsimp only
    rw [if_pos hpart]
    exact .done ⟨rfl, rfl, rfl, (hkept hopen hlook hresult).1⟩
  | wholly bytes written hopen hlook hsome hresult hwhole =>
    rw [hlook] at hread
    rw [round_stream_of_read write hopen rfl hread hsome, hresult]
    dsimp only
    rw [if_neg (Nat.not_lt.2 hwhole)]
    obtain ⟨hrest, hinside'⟩ := hkept hopen hlook hresult
    have hnothing : bytes.drop written.toNat = [] := List.drop_eq_nil_of_le hwhole
    rw [hnothing, List.nil_append] at hrest
    exact .again ⟨rfl, rfl, rfl, hlooked, hactions, hnothing, hinside', hrest⟩

end FileCopy

/-- The rounds that a copy from a stream is allowed are enough. -/
theorem StreamCopy.run_done {σ : Type} (write : Write σ) (sink : σ) (reader : Reader) (count : UInt64)
    (through : Bytes) :
    let start : StreamCopy σ := ⟨sink, reader, through, 0, []⟩
    Round.iterate (round write count) (start.pending + 1) start = .done (run write sink reader count through) := by
  intro start
  obtain ⟨reply, hdone⟩ := exists_iterate_eq_done write count start
  show _ = Round.done ((Round.iterate (round write count) (start.pending + 1) start).resultD finish)
  rw [hdone]
  rfl

/-- **The two copies agree.** From the same data, the one from a position on and the other with an empty buffer, and
with reads that go alike, a copy from a file and one from a stream offer an honest sink the same runs of bytes, leave it
in the same state, tell the same events, and have the same result. What the sink has not taken of the data is then in
the buffer or still in the stream. -/
theorem copies_agree {σ : Type} {S : Sink σ} {out : σ → Bytes} (hwrite : HonestWrite out S.write) (sink : σ)
    {file : File} (hdata : file.data.length < UInt64.size) {position : UInt64}
    (hposition : position.toNat ≤ file.data.length) (count : UInt64) (sizes : List Nat) :
    let fromFile := copyFile S.recorded.write (sink, []) file position count
    let fromStream :=
      StreamCopy.run S.recorded.write (sink, []) ⟨file.data.drop position.toNat, file.actions, sizes⟩ count []
    fromStream.state.1.2 = fromFile.state.1.2 ∧ fromStream.state.1.1 = fromFile.state.1.1 ∧
      fromStream.events = fromFile.events ∧ fromStream.result = fromFile.result ∧
      fromStream.state.2.2 ++ fromStream.state.2.1.unread =
        file.data.drop (position.toNat + counted fromFile.result) := by
  intro fromFile fromStream
  have htakes := hwrite.recorded.takesWindows
  let start : FileCopy (σ × List Call) File := ⟨(sink, []), file, 0, []⟩
  let other : StreamCopy (σ × List Call) :=
    ⟨(sink, []), ⟨file.data.drop position.toNat, file.actions, sizes⟩, [], 0, []⟩
  have hstart : start.InStep file.data position other :=
    ⟨rfl, rfl, rfl, rfl, rfl, rfl, hposition, rfl⟩
  have hfile : Round.iterate _ (FileCopy.rounds file.actions.length) start = .done fromFile :=
    FileCopy.run_done htakes File.readsAs (sink, []) file position count
  have hstream : Round.iterate _ (other.pending + 1) other = .done fromStream :=
    StreamCopy.run_done S.recorded.write (sink, []) _ count []
  -- both are over after the larger of the two numbers of rounds
  have hboth := Round.matches_iterate (fun _ _ => FileCopy.matches_round htakes hdata count)
    (max (FileCopy.rounds file.actions.length) (other.pending + 1)) hstart
  rw [Round.iterate_mono (Nat.le_max_left _ _) hfile, Round.iterate_mono (Nat.le_max_right _ _) hstream] at hboth
  cases hboth with
  | done h => exact ⟨congrArg Prod.snd h.sink, congrArg Prod.fst h.sink, h.events, h.result, h.kept⟩

/-- A tank takes three of four bytes either way. The last two bytes of the data stay in the buffer. -/
theorem copies_agree_tank :
    HonestWrite (fun o : Outlet Bytes => o.device) tank.sink.write ∧ haltingFile.data.length < UInt64.size ∧
      (1 : UInt64).toNat ≤ haltingFile.data.length ∧
      let fromStream := StreamCopy.run tank.sink.recorded.write (.ofDevice [], [])
        ⟨haltingFile.data.drop 1, haltingFile.actions, []⟩ 5 []
      fromStream.result = .ok 3 ∧
        fromStream.state.1.2 = [.write (.ofBytes [2]), .write (.ofBytes [3, 4, 5, 6])] ∧
        fromStream.state.2.2 ++ fromStream.state.2.1.unread = [5, 6] := by
  have hwrite : HonestWrite (fun o : Outlet Bytes => o.device) tank.sink.write := tank_honest.write_outlet
  have hdata : haltingFile.data.length < UInt64.size := by decide
  have hposition : (1 : UInt64).toNat ≤ haltingFile.data.length := by decide
  have hresult : (copyFile tank.sink.recorded.write (.ofDevice [], []) haltingFile 1 5).result = .ok 3 := rfl
  obtain ⟨hheard, -, -, hsame, hkept⟩ := copies_agree hwrite (.ofDevice []) hdata hposition 5 []
  rw [hresult] at hsame hkept
  exact ⟨hwrite, hdata, hposition, hsame, hheard, hkept⟩

end ExactLength
