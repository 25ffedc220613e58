import ExactLength.Device.Outlet
import ExactLength.Proofs.Gate.Plan

/-!
# Honest sinks

What it means that a base deals honestly with its callers, given the output that it has collected so far. Bytes that
a base takes are taken from the front of what it was offered and put at the end of its output, in order. The count
that it reports is their number. An error takes nothing.

The first part says so of the operations that a base brings along (`Sink.HonestBase`). The second part says it of
calls (`Sink.Honest`), where it is a statement that gates keep.
-/

namespace ExactLength

/-- How many bytes a reply says were taken. -/
def counted : Except SinkError UInt64 → Nat
  | .ok n => n.toNat
  | .error _ => 0

/-- How many bytes the answer to a call says were taken. -/
def credited : Except SinkError Yield → Nat
  | .ok (.count n) => n.toNat
  | _ => 0

@[simp] theorem counted_ok (n : UInt64) : counted (.ok n) = n.toNat := rfl

@[simp] theorem counted_error (e : SinkError) : counted (.error e) = 0 := rfl

@[simp] theorem credited_error (e : SinkError) : credited (.error e) = 0 := rfl

theorem credited_map_count (result : Except SinkError UInt64) : credited (result.map .count) = counted result := by
  cases result <;> rfl

@[simp] theorem credited_map_flag (result : Except SinkError Bool) : credited (result.map .flag) = 0 := by
  cases result <;> rfl

@[simp] theorem credited_map_ofUnit (result : Except SinkError Unit) : credited (result.map Yield.ofUnit) = 0 := by
  cases result <;> rfl

/-- The bytes were taken from the front of the sources, in order, and nothing else was. -/
def Source.Gives (sources : List Source) (bytes : Bytes) (back : List Source) : Prop :=
  bytes <+: joined sources ∧ back.map Source.bytes = (advanceAll bytes.length sources).map Source.bytes

theorem Source.gives_nil (sources : List Source) : Gives sources [] sources :=
  ⟨List.nil_prefix, by rw [List.length_nil, advanceAll_zero]⟩

/-! ### Honest operations -/

section Operations

variable {σ κ : Type} (out : σ → Bytes)

/-- The reply to an operation that puts the bytes at the end of the output, and counts them. -/
def Appends (sink : σ) (bytes : Bytes) (reply : Reply (σ × κ) UInt64) : Prop :=
  out reply.state.1 = out sink ++ bytes ∧ bytes.length = counted reply.result

/-- An error comes without bytes. -/
theorem Appends.eq_nil {out : σ → Bytes} {sink : σ} {bytes : Bytes} {reply : Reply (σ × κ) UInt64}
    (h : Appends out sink bytes reply) {e : SinkError} (he : reply.result = .error e) : bytes = [] := by
  have hcount := h.2
  rw [he, counted_error] at hcount
  exact List.eq_nil_of_length_eq_zero hcount

/-- What a reply appends adds to what was put out before. -/
theorem Appends.extend {out : σ → Bytes} {sink : σ} {start before bytes : Bytes} {reply : Reply (σ × κ) UInt64}
    {total written : UInt64} (h : Appends out sink bytes reply) (count : UInt64) (hwritten : reply.result = .ok written)
    (hout : out sink = start ++ before) (hlen : before.length = total.toNat)
    (hle : total.toNat + bytes.length ≤ count.toNat) :
    out reply.state.1 = start ++ (before ++ bytes) ∧ (before ++ bytes).length = (total + written).toNat ∧
      (total + written).toNat ≤ count.toNat := by
  obtain ⟨hput, hcount⟩ := h
  rw [hwritten, counted_ok] at hcount
  have hsum : (total + written).toNat = total.toNat + written.toNat := by
    have hcount' := count.toNat_lt_size
    exact toNat_add_of_lt (by omega)
  refine ⟨?_, ?_, by omega⟩
  · rw [hput, hout, List.append_assoc]
  · rw [List.length_append, hsum, hlen, hcount]

/-- An honest write of one source. -/
def HonestWrite (write : Write σ) : Prop :=
  ∀ sink src, ∃ bytes,
    Appends out sink bytes (write sink src) ∧ src.bytes = bytes ++ (write sink src).state.2.bytes

/-- An honest write of several sources. -/
def HonestMany (writeMany : σ → List Source → Reply (σ × List Source) UInt64) : Prop :=
  ∀ sink sources, (Source.joined sources).length < UInt64.size → ∃ bytes,
    Appends out sink bytes (writeMany sink sources) ∧ Source.Gives sources bytes (writeMany sink sources).state.2

/-- An honest transfer from a file. It may put any bytes into the output, as long as it counts them. -/
def HonestFile (transfer : σ → File → (position count : UInt64) → Reply (σ × File) UInt64) : Prop :=
  ∀ sink file position count, ∃ bytes,
    Appends out sink bytes (transfer sink file position count) ∧ bytes.length ≤ count.toNat

/-- An honest transfer from a stream. It may use the buffer as it likes, unless it fails. -/
def HonestStream
    (transfer : σ → Reader → (count : UInt64) → (through : Bytes) → Reply (σ × Reader × Bytes) UInt64) : Prop :=
  ∀ sink reader count through, ∃ bytes,
    Appends out sink bytes (transfer sink reader count through) ∧ bytes.length ≤ count.toNat ∧
      ∀ e, (transfer sink reader count through).result = .error e →
        (transfer sink reader count through).state.2.2 ++ (transfer sink reader count through).state.2.1.unread =
          through ++ reader.unread

end Operations

/-- The operations of a sink that take no bytes leave its output alone. -/
structure Sink.Quiet {σ : Type} (S : Sink σ) (out : σ → Bytes) : Prop where
  /-- A flush. -/
  flush : ∀ sink, out (S.flush sink).state = out sink
  /-- The end of the write side in order. -/
  terminate : ∀ sink, out (S.terminate sink).state = out sink
  /-- The write side is given up. -/
  truncate : ∀ sink, out (S.truncate sink).state = out sink
  /-- The question whether writes are resumed. -/
  isResumed : ∀ sink, out (S.isResumed sink).2 = out sink
  /-- A wake-up. -/
  wake : ∀ sink, out (S.wake sink) = out sink
  /-- A wait. -/
  wait : ∀ sink milliseconds, out (S.wait sink milliseconds).state = out sink

/-- An honest device. -/
structure Device.Honest {ω : Type} (D : Device ω) (out : ω → Bytes) : Prop where
  /-- A write takes bytes from the front of the run. -/
  write : ∀ device run, taken (D.write device run).1 ≤ run.length ∧
    out (D.write device run).2 = out device ++ run.take (taken (D.write device run).1)
  /-- A write of several runs takes bytes from the front of all of them. -/
  writeMany : ∀ device runs, taken (D.writeMany device runs).1 ≤ runs.flatten.length ∧
    out (D.writeMany device runs).2 = out device ++ runs.flatten.take (taken (D.writeMany device runs).1)
  /-- A flush takes no bytes. -/
  flush : ∀ device, out (D.flush device).2 = out device

/-- An honest base: a sink whose write is honest, and whose other operations are the plain ones or honest too, or
the outlet of an honest device. -/
inductive Sink.HonestBase : {σ : Type} → Sink σ → (σ → Bytes) → Prop where
  /-- A sink of its own. -/
  | sink {σ : Type} {S : Sink σ} {out : σ → Bytes} (write : HonestWrite out S.write)
    (writeMany : S.writeMany = writeEach S.write ∨ HonestMany out S.writeMany)
    (transferFile : S.transferFile = copyFile S.write ∨ HonestFile out S.transferFile)
    (transferStream : S.transferStream = StreamCopy.run S.write ∨ HonestStream out S.transferStream)
    (quiet : S.Quiet out) : HonestBase S out
  /-- An outlet. -/
  | outlet {ω : Type} {D : Device ω} {out : ω → Bytes} (honest : D.Honest out) :
    HonestBase D.sink fun o => out o.device

/-- The transfers of the sink are the plain ones. -/
def Sink.PlainTransfers {σ : Type} (S : Sink σ) : Prop :=
  S.transferFile = copyFile S.write ∧ S.transferStream = StreamCopy.run S.write

/-! ### Honest calls -/

namespace Call

/-- The sources of a call. -/
def sources : Call → List Source
  | write src | writeLast src => [src]
  | writeMany sources | writeManyLast sources => sources
  | _ => []

/-- The bytes on their way from the stream of a call: those in the buffer, and those not read yet. -/
def onTheWay : Call → Bytes
  | transferStream reader _ through => through ++ reader.unread
  | _ => []

/-- What a call offers in several sources can be counted. -/
def Fits : Call → Prop
  | writeMany sources | writeManyLast sources => (Source.joined sources).length < UInt64.size
  | _ => True

/-- The bytes were taken from the arguments of a call, in order, and the call came back without them. Of a transfer
only the number of bytes is known unless it is `exact`. -/
def Gives (exact : Prop) : (call : Call) → Bytes → (back : Call) → Prop
  | write src, bytes, write src' | writeLast src, bytes, writeLast src' => src.bytes = bytes ++ src'.bytes
  | writeMany sources, bytes, writeMany back | writeManyLast sources, bytes, writeManyLast back =>
    Source.Gives sources bytes back
  | transferFile file position count, bytes, transferFile _ position' count' =>
    position' = position ∧ count' = count ∧ bytes.length ≤ count.toNat ∧
      (exact → file.data.length < UInt64.size → bytes = slice file.data position bytes.length)
  | transferStream reader count through, bytes, transferStream reader' count' through' =>
    count' = count ∧ bytes.length ≤ count.toNat ∧
      (exact → through ++ reader.unread = bytes ++ (through' ++ reader'.unread))
  | call, bytes, back => back = call ∧ bytes = []

theorem gives_nil (exact : Prop) (call : Call) : call.Gives exact [] call := by
  cases call with
  | write src => exact rfl
  | writeLast src => exact rfl
  | writeMany sources => exact Source.gives_nil sources
  | writeManyLast sources => exact Source.gives_nil sources
  | transferFile file position count => exact ⟨rfl, rfl, Nat.zero_le _, fun _ _ => rfl⟩
  | transferStream reader count through => exact ⟨rfl, Nat.zero_le _, fun _ => rfl⟩
  | _ => exact ⟨rfl, rfl⟩

variable {exact : Prop} {bytes : Bytes} {back : Call}

theorem gives_write_iff {src : Source} :
    (write src).Gives exact bytes back ↔ ∃ src', back = write src' ∧ src.bytes = bytes ++ src'.bytes := by
  constructor
  · intro h
    cases back with
    | write src' => exact ⟨src', rfl, h⟩
    | _ => cases h.1
  · rintro ⟨src', rfl, h⟩
    exact h

theorem gives_writeMany_iff {sources : List Source} :
    (writeMany sources).Gives exact bytes back ↔
      ∃ sources', back = writeMany sources' ∧ Source.Gives sources bytes sources' := by
  constructor
  · intro h
    cases back with
    | writeMany sources' => exact ⟨sources', rfl, h⟩
    | _ => cases h.1
  · rintro ⟨sources', rfl, h⟩
    exact h

theorem gives_transferFile_iff {file : File} {position count : UInt64} :
    (transferFile file position count).Gives exact bytes back ↔
      ∃ file', back = transferFile file' position count ∧ bytes.length ≤ count.toNat ∧
        (exact → file.data.length < UInt64.size → bytes = slice file.data position bytes.length) := by
  constructor
  · intro h
    cases back with
    | transferFile file' position' count' =>
      obtain ⟨rfl, rfl, hle, hslice⟩ := h
      exact ⟨file', rfl, hle, hslice⟩
    | _ => cases h.1
  · rintro ⟨file', rfl, hle, hslice⟩
    exact ⟨rfl, rfl, hle, hslice⟩

theorem gives_transferStream_iff {reader : Reader} {count : UInt64} {through : Bytes} :
    (transferStream reader count through).Gives exact bytes back ↔
      ∃ reader' through', back = transferStream reader' count through' ∧ bytes.length ≤ count.toNat ∧
        (exact → through ++ reader.unread = bytes ++ (through' ++ reader'.unread)) := by
  constructor
  · intro h
    cases back with
    | transferStream reader' count' through' =>
      obtain ⟨rfl, hle, hall⟩ := h
      exact ⟨reader', through', rfl, hle, hall⟩
    | _ => cases h.1
  · rintro ⟨reader', through', rfl, hle, hall⟩
    exact ⟨rfl, hle, hall⟩

end Call

namespace Sink

variable {σ : Type} (S : Sink σ) (out : σ → Bytes) (exact : Prop)

/-- A call puts bytes from its arguments at the end of the output, and its answer counts them. -/
def Delivers (sink : σ) (call : Call) : Prop :=
  ∃ bytes, out (S.perform sink call).state.1 = out sink ++ bytes ∧
    bytes.length = credited (S.perform sink call).result ∧
    call.Gives (exact ∨ ∃ e, (S.perform sink call).result = .error e) bytes (S.perform sink call).state.2

/-- A call whose reply appends bytes from its arguments. -/
theorem delivers_of_appends {S : Sink σ} {out : σ → Bytes} {exact : Prop} {sink : σ} {call : Call} {κ : Type}
    (back : κ → Call) {reply : Reply (σ × κ) UInt64}
    (hperform : S.perform sink call = perform.answer .count back reply) {bytes : Bytes} (h : Appends out sink bytes reply)
    (hgives : call.Gives (exact ∨ ∃ e, reply.result = .error e) bytes (back reply.state.2)) :
    S.Delivers out exact sink call := by
  obtain ⟨hout, hcount⟩ := h
  refine ⟨bytes, ?_, ?_, ?_⟩
  · rw [hperform]
    exact hout
  · rw [hperform]
    exact hcount.trans (credited_map_count _).symm
  · rw [hperform]
    simp only [perform.answer, Outcome.mapState_result, Outcome.mapResult_result, map_eq_error_iff]
    exact hgives

/-- A call that takes nothing. -/
theorem delivers_nothing {S : Sink σ} {out : σ → Bytes} {exact : Prop} {sink : σ} {call : Call}
    (hout : out (S.perform sink call).state.1 = out sink) (hcredit : credited (S.perform sink call).result = 0)
    (hback : (S.perform sink call).state.2 = call) : S.Delivers out exact sink call := by
  refine ⟨[], by rw [hout, List.append_nil], by rw [hcredit, List.length_nil], ?_⟩
  rw [hback]
  exact Call.gives_nil _ call

/-- Calls that do not bring the last data are carried out honestly. -/
def Honest : Prop :=
  ∀ sink call, call.isLast = false → call.Fits → S.Delivers out exact sink call

end Sink

end ExactLength
