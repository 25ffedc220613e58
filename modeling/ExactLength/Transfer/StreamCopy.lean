import ExactLength.Input.Read
import ExactLength.Transfer.FileCopy

/-!
# Copying from a stream

The plain way to transfer bytes from a stream into a sink. A buffer stands between the two: what was read and not
accepted stays in it for the next transfer, and is written before anything else is read. The copy ends as one from
a file does.

Every round but the last takes an action off the stream's script or moves bytes towards the sink, whatever the
sink reports, so the number of rounds is bounded by what the stream and the buffer hold.
-/

namespace ExactLength

/-- A copy from a stream under way. -/
structure StreamCopy (σ : Type) where
  /-- The sink. -/
  sink : σ
  /-- The stream. -/
  reader : Reader
  /-- The bytes read and not accepted yet. -/
  through : Bytes
  /-- The number of bytes accepted so far. -/
  total : UInt64
  /-- The events told so far. -/
  events : List Event

namespace StreamCopy

variable {σ : Type}

/-- Ends the copy with the count so far. -/
def finish (c : StreamCopy σ) : Reply (σ × Reader × Bytes) UInt64 :=
  ⟨.ok c.total, (c.sink, c.reader, c.through), c.events⟩

/-- Ends the copy at an error, which shows only if nothing was accepted before. -/
def fail (c : StreamCopy σ) (e : SinkError) : Reply (σ × Reader × Bytes) UInt64 :=
  ⟨if c.total = 0 then .error e else .ok c.total, (c.sink, c.reader, c.through), c.events⟩

/-- Writes what is in the buffer, up to the count. -/
def pour (write : Write σ) (count : UInt64) (c : StreamCopy σ) :
    Round (StreamCopy σ) (Reply (σ × Reader × Bytes) UInt64) :=
  let offer := c.through.take (count - c.total).toNat
  let reply := write c.sink (.ofBytes offer)
  let c := { c with sink := reply.state.1, events := c.events ++ reply.events }
  match reply.result with
  | .error e => .done (c.fail e)
  | .ok written =>
    let c := { c with through := c.through.drop written.toNat, total := c.total + written }
    if written.toNat < offer.length then .done c.finish else .again c

/-- One round of the copy. -/
def round (write : Write σ) (count : UInt64) (c : StreamCopy σ) :
    Round (StreamCopy σ) (Reply (σ × Reader × Bytes) UInt64) :=
  if c.total < count then
    if c.through.isEmpty then
      let read := c.reader.read (window (count - c.total))
      let c := { c with reader := read.2 }
      match read.1 with
      | .error e => if e.isInterrupted then .again c else .done (c.fail (.io e))
      | .ok [] => .done c.finish
      | .ok bytes => { c with through := bytes }.pour write count
    else c.pour write count
  else .done c.finish

/-- What a copy still has before it: actions of the stream, bytes of the stream, and bytes in the buffer. -/
def pending (c : StreamCopy σ) : Nat :=
  c.reader.actions.length + c.reader.unread.length + c.through.length

/-- Writing from a buffer that holds something moves bytes on, or ends the copy. -/
theorem pending_lt_of_pour {write : Write σ} {count : UInt64} {c next : StreamCopy σ}
    (hcount : c.total < count) (hthrough : c.through ≠ []) (h : c.pour write count = .again next) :
    next.pending < c.pending := by
  unfold pour at h
  dsimp only at h
  split at h
  · simp at h
  · split at h
    · simp at h
    · next hle =>
      cases h
      have := toNat_sub_pos hcount
      have := List.length_pos_iff.2 hthrough
      simp only [List.length_take] at hle
      simp only [pending, List.length_drop]
      omega

/-- Every round but the last lowers what the copy has before it. -/
theorem pending_lt_of_round {write : Write σ} {count : UInt64} {c next : StreamCopy σ}
    (h : c.round write count = .again next) : next.pending < c.pending := by
  unfold round at h
  split at h
  · next hcount =>
    split at h
    · next hthrough =>
      dsimp only at h
      split at h
      · next e hread =>
        split at h
        · cases h
          have := Reader.unread_of_read_error hread
          have := Reader.length_actions_of_read_error hread
          simp only [pending, *]
          omega
        · simp at h
      · simp at h
      · next bytes hne hread =>
        have hlt := pending_lt_of_pour ?_ ?_ h
        · have hunread := congrArg List.length (Reader.append_unread_of_read_ok hread)
          have := Reader.length_actions_read_le c.reader (window (count - c.total))
          simp only [pending, List.length_append] at hlt hunread ⊢
          omega
        · exact hcount
        · simpa using hne
    · next hthrough => exact pending_lt_of_pour hcount (by simpa using hthrough) h
  · simp at h

/-- The rounds that are allowed are enough, whatever the sink does. -/
theorem exists_iterate_eq_done (write : Write σ) (count : UInt64) (c : StreamCopy σ) :
    ∃ reply, Round.iterate (round write count) (c.pending + 1) c = .done reply :=
  Round.exists_iterate_eq_done pending (fun _ _ => pending_lt_of_round) c (Nat.lt_succ_self _)

/-- Copies up to `count` bytes from a stream into a sink. -/
def run (write : Write σ) (sink : σ) (reader : Reader) (count : UInt64) (through : Bytes) :
    Reply (σ × Reader × Bytes) UInt64 :=
  let start : StreamCopy σ := ⟨sink, reader, through, 0, []⟩
  (Round.iterate (round write count) (start.pending + 1) start).resultD finish

end StreamCopy

end ExactLength
