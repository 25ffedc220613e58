import ExactLength.Proofs.Sink.Honest

/-!
# The plain forms are honest

The plain forms of the vectored write and of both transfers are loops around the write of a sink. If that is honest,
so are they, and more than an honest transfer has to: what a copy from a file puts out is a part of the file without
gaps (`copyFile_honest`), and a copy from a stream loses nothing between the stream, the buffer and the output
(`copyStream_honest`).

Each loop has its invariant: what the output has gained so far are as many bytes as the total says, taken in order.
An error that comes after progress is turned into that total, an error that comes before is the result, and either
way the result counts what was taken.
-/

namespace ExactLength

variable {σ φ : Type} {out : σ → Bytes} {write : Write σ}

/-! ### Several sources -/

namespace Source

/-- Part of the first source is taken. -/
theorem Gives.part {src src' : Source} {bytes : Bytes} (h : src.bytes = bytes ++ src'.bytes) (rest : List Source) :
    Gives (src :: rest) bytes (src' :: rest) := by
  have hlen : bytes.length - src.remaining = 0 := by
    rw [remaining, h, List.length_append]
    omega
  refine ⟨⟨src'.bytes ++ joined rest, by rw [joined_cons, h, List.append_assoc]⟩, ?_⟩
  rw [advanceAll, hlen, advanceAll_zero, List.map_cons, List.map_cons, bytes_advance, h, List.drop_left]

/-- All of the first source is taken, and bytes of the others. -/
theorem Gives.whole {src src' : Source} {bytes : Bytes} {rest back : List Source} (hsrc : src'.bytes = [])
    (h : Gives rest bytes back) : Gives (src :: rest) (src.bytes ++ bytes) (src' :: back) := by
  obtain ⟨hfront, hback⟩ := h
  have hlen : (src.bytes ++ bytes).length - src.remaining = bytes.length := by
    rw [List.length_append, remaining]
    omega
  refine ⟨(List.prefix_append_right_inj _).2 hfront, ?_⟩
  rw [advanceAll, hlen, List.map_cons, List.map_cons, hback, hsrc, bytes_advance,
    List.drop_eq_nil_of_le (by rw [List.length_append]; omega)]

end Source

/-- Writing source after source is honest as long as the total can be counted. -/
theorem writeEachFrom_honest (hwrite : HonestWrite out write) (sink : σ) (total : UInt64) {sources : List Source}
    (hfits : total.toNat + (Source.joined sources).length < UInt64.size) :
    ∃ bytes, out (writeEachFrom write sink total sources).state.1 = out sink ++ bytes ∧
      total.toNat + bytes.length = counted (writeEachFrom write sink total sources).result ∧
      Source.Gives sources bytes (writeEachFrom write sink total sources).state.2 := by
  induction sources generalizing sink total with
  | nil => exact ⟨[], by simp [writeEachFrom, Outcome.ok], by simp [writeEachFrom, Outcome.ok], Source.gives_nil []⟩
  | cons src rest ih =>
    rw [Source.joined_cons, List.length_append] at hfits
    rw [writeEachFrom]
    split
    · next hempty =>
      have hnil := src.isEmpty_iff.1 hempty
      obtain ⟨bytes, hout, hcount, hgives⟩ := ih sink total (by omega)
      have hwhole : Source.Gives (src :: rest) (src.bytes ++ bytes) (src :: _) := hgives.whole hnil
      rw [hnil, List.nil_append] at hwhole
      exact ⟨bytes, hout, hcount, hwhole⟩
    · obtain ⟨bytes, hput, hsrc⟩ := hwrite sink src
      have hout := hput.1
      have hcount := hput.2
      dsimp only
      split
      · next e he =>
        refine ⟨bytes, hout, ?_, .part hsrc rest⟩
        have hnil := hput.eq_nil he
        by_cases h : total = 0
        · simp [h, hnil]
        · simp [h, hnil]
      · next written hw =>
        rw [hw, counted_ok] at hcount
        have hlen := congrArg List.length hsrc
        rw [List.length_append] at hlen
        have hsum : (total + written).toNat = total.toNat + written.toNat := toNat_add_of_lt (by omega)
        split
        · exact ⟨bytes, hout, by rw [counted_ok, hsum, hcount], .part hsrc rest⟩
        · next hall =>
          have hnil : (write sink src).state.2.bytes = [] := by
            rw [Source.remaining] at hall
            exact List.eq_nil_of_length_eq_zero (by omega)
          rw [hnil, List.append_nil] at hsrc
          obtain ⟨bytes', hout', hcount', hgives⟩ := ih (write sink src).state.1 (total + written) (by omega)
          refine ⟨src.bytes ++ bytes', ?_, ?_, hgives.whole hnil⟩
          · rw [hsrc, ← List.append_assoc, ← hout]
            exact hout'
          · rw [List.length_append, hsrc, hcount]
            simp only [Outcome.after_result, Outcome.mapState_result]
            omega

/-- The plain vectored write is honest. -/
theorem writeEach_honest (hwrite : HonestWrite out write) : HonestMany out (writeEach write) := by
  intro sink sources hfits
  obtain ⟨bytes, hout, hcount, hgives⟩ := writeEachFrom_honest hwrite sink 0 (by simpa using hfits)
  rw [UInt64.toNat_zero, Nat.zero_add] at hcount
  exact ⟨bytes, ⟨hout, hcount⟩, hgives⟩

/-! ### Copies from a file -/

/-- Reads of a file are no longer than asked for. They give the bytes of the file if its size can be counted. -/
structure ReadsFrom (view : φ → Bytes) (readAt : ReadFrom φ) : Prop where
  /-- A read leaves the file as it is. -/
  view_eq : ∀ file offset size, view (readAt file offset size).2 = view file
  /-- A read is no longer than asked for. -/
  length_le : ∀ file offset size bytes, (readAt file offset size).1 = .ok bytes → bytes.length ≤ size
  /-- A read gives the bytes from the offset on. -/
  bytes_eq : ∀ file offset size bytes, (readAt file offset size).1 = .ok bytes →
    (view file).length < UInt64.size → bytes = slice (view file) offset bytes.length

/-- A write that is honest about what a round of a copy may show it. -/
def TakesWindows (out : σ → Bytes) (write : Write σ) : Prop :=
  ∀ sink (bytes : Bytes), bytes.length ≤ windowSize →
    ∃ given, Appends out sink given (write sink (.ofBytes bytes)) ∧ given <+: bytes

theorem HonestWrite.takesWindows (h : HonestWrite out write) : TakesWindows out write := by
  intro sink bytes _
  obtain ⟨given, hput, hsrc⟩ := h sink (.ofBytes bytes)
  rw [Source.bytes_ofBytes] at hsrc
  exact ⟨given, hput, _, hsrc.symm⟩

/-- Two reads, the second from where the first ended, are one. -/
theorem slice_append {data first second : Bytes} {position total : UInt64} (hdata : data.length < UInt64.size)
    (hfirst : first = slice data position total.toNat) (hlen : first.length = total.toNat)
    (hsecond : second = slice data (position + total) second.length) :
    first ++ second = slice data position (total.toNat + second.length) := by
  have hposition := position.toNat_lt_size
  have hin : position.toNat + total.toNat < UInt64.size := by
    rw [hfirst, slice, List.length_take, List.length_drop] at hlen
    omega
  rw [slice, toNat_add_of_lt hin, ← List.drop_drop] at hsecond
  rw [slice] at hfirst ⊢
  rw [List.take_add, ← hfirst, ← hsecond]

namespace FileCopy

@[simp] theorem counted_fail (c : FileCopy σ φ) (e : SinkError) : counted (c.fail e).result = c.total.toNat := by
  unfold fail
  by_cases h : c.total = 0 <;> simp [h]

section Copied

variable (out : σ → Bytes) (start : Bytes) (data : Bytes) (position count : UInt64)

/-- So many bytes were put out: those of the data from the position on, and not more than the count. -/
def Copied (sink : σ) (n : Nat) : Prop :=
  ∃ bytes, out sink = start ++ bytes ∧ bytes.length = n ∧ n ≤ count.toNat ∧
    (data.length < UInt64.size → bytes = slice data position n)

/-- What holds of a copy in every round: the total is what was put out. -/
def OnCourse (view : φ → Bytes) (c : FileCopy σ φ) : Prop :=
  view c.file = data ∧ Copied out start data position count c.sink c.total.toNat

/-- What holds of the reply to a copy: its count is what was put out. -/
def Arrived (reply : Reply (σ × φ) UInt64) : Prop :=
  Copied out start data position count reply.state.1 (counted reply.result)

end Copied

variable {start data : Bytes} {position count : UInt64} {view : φ → Bytes} {readAt : ReadFrom φ}

/-- Writing what was read stays on course. -/
theorem keeps_pour (hwrite : TakesWindows out write) {c : FileCopy σ φ}
    (hc : c.OnCourse out start data position count view) {bytes : Bytes}
    (hle : bytes.length ≤ window (count - c.total))
    (hbytes : data.length < UInt64.size → bytes = slice data (position + c.total) bytes.length)
    (hopen : c.total < count) :
    (c.pour write bytes).Keeps (OnCourse out start data position count view)
      (Arrived out start data position count) := by
  obtain ⟨hview, before, hout, hlen, htotal, hslice⟩ := hc
  have hleft : (count - c.total).toNat = count.toNat - c.total.toNat :=
    UInt64.toNat_sub_of_le _ _ (UInt64.le_of_lt hopen)
  unfold window at hle
  obtain ⟨given, hput, hfront⟩ := hwrite c.sink bytes (by omega)
  have hshort := hfront.length_le
  unfold pour
  dsimp only
  split
  · next e he =>
    have hkept := hput.1
    rw [hput.eq_nil he, List.append_nil] at hkept
    show Copied out start data position count (write c.sink (.ofBytes bytes)).state.1 (counted _)
    rw [counted_fail]
    exact ⟨before, hkept.trans hout, hlen, htotal, hslice⟩
  · next written hw =>
    obtain ⟨hout', hlen', htotal'⟩ := hput.extend count hw hout hlen (by omega)
    have hcopied : Copied out start data position count (write c.sink (.ofBytes bytes)).state.1
        (c.total + written).toNat := by
      refine ⟨before ++ given, hout', hlen', htotal', fun hdata => ?_⟩
      have hgot := eq_slice_of_prefix (hbytes hdata ▸ hfront)
      rw [← hlen', List.length_append, hlen]
      exact slice_append hdata (hslice hdata) hlen hgot
    split
    · exact hcopied
    · exact ⟨hview, hcopied⟩

/-- A round of the copy stays on course. -/
theorem keeps_round (hwrite : TakesWindows out write) (hread : ReadsFrom view readAt) (c : FileCopy σ φ)
    (hc : c.OnCourse out start data position count view) :
    (c.round readAt write position count).Keeps (OnCourse out start data position count view)
      (Arrived out start data position count) := by
  unfold round
  split
  · next hopen =>
    obtain ⟨hview, hcopied⟩ := hc
    have hnow : OnCourse out start data position count view
        { c with file := (readAt c.file (position + c.total) (window (count - c.total))).2 } :=
      ⟨(hread.view_eq _ _ _).trans hview, hcopied⟩
    dsimp only
    split
    · split
      · exact hnow
      · show Copied out start data position count c.sink (counted _)
        rw [counted_fail]
        exact hcopied
    · exact hcopied
    · next bytes _ hgot =>
      refine keeps_pour hwrite hnow (hread.length_le _ _ _ _ hgot) (fun hdata => ?_) hopen
      rw [← hview] at hdata ⊢
      exact hread.bytes_eq _ _ _ _ hgot hdata
  · exact hc.2

/-- A copy puts out what it counts, in order, and not more than it was asked for. -/
theorem run_arrived (hwrite : TakesWindows out write) (hread : ReadsFrom view readAt) (rounds : Nat) (sink : σ)
    (file : φ) (position count : UInt64) :
    Arrived out (out sink) (view file) position count (run readAt write rounds sink file position count) := by
  have hstart : OnCourse out (out sink) (view file) position count view ⟨sink, file, 0, []⟩ :=
    ⟨rfl, [], by simp, rfl, Nat.zero_le _, fun _ => rfl⟩
  exact (Round.keeps_iterate (keeps_round hwrite hread) rounds hstart).resultD fun c hc => hc.2

end FileCopy

/-- Memory takes all that a round of a copy shows it. -/
theorem collect_takesWindows : TakesWindows id collect := by
  intro stored bytes h
  have hchunk : (Source.ofBytes bytes).chunk = bytes := by
    cases bytes <;> simp [Source.chunk, Source.ofBytes, Source.ofChunks]
  have hsize : bytes.length < UInt64.size := Nat.lt_of_le_of_lt h (by decide)
  refine ⟨bytes, ⟨?_, ?_⟩, List.prefix_refl bytes⟩
  · simp [collect, hchunk, Outcome.ok]
  · simp [collect, hchunk, Outcome.ok, UInt64.toNat_ofNat_of_lt' hsize]

/-- A relay reads from the file behind it, through however many stages. -/
theorem readsFrom_relay (data : Bytes) (stages : Nat) :
    ReadsFrom (fun _ : Unit => data) fun _ offset size => (.ok (relayRead data stages offset size), ()) := by
  induction stages with
  | zero =>
    refine ⟨fun _ _ _ => rfl, ?_, ?_⟩
    · rintro _ offset size bytes ⟨⟩
      exact length_slice_le data offset size
    · rintro _ offset size bytes ⟨⟩ -
      exact eq_slice_of_prefix (List.prefix_refl _)
  | succ stages ih =>
    have hcopy (offset : UInt64) (size : Nat) :=
      FileCopy.run_arrived collect_takesWindows ih (FileCopy.rounds 0) [] () offset (UInt64.ofNat size)
    refine ⟨fun _ _ _ => rfl, ?_, ?_⟩
    · rintro _ offset size bytes ⟨⟩
      obtain ⟨bytes, hout, hlen, hle, -⟩ := hcopy offset size
      have hsize : (UInt64.ofNat size).toNat ≤ size := by
        rw [UInt64.toNat_ofNat']
        exact Nat.mod_le _ _
      have hbytes : relayRead data (stages + 1) offset size = bytes := hout
      rw [hbytes]
      omega
    · rintro _ offset size bytes ⟨⟩ hdata
      obtain ⟨bytes, hout, hlen, -, hslice⟩ := hcopy offset size
      have hbytes : relayRead data (stages + 1) offset size = bytes := hout
      rw [hbytes, hlen]
      exact hslice hdata

/-- Every file reads from its data. -/
theorem File.readsFrom : ReadsFrom File.data File.readAt := by
  refine ⟨?_, ?_, ?_⟩
  · rintro (data | ⟨stages, data⟩ | ⟨data, actions, reads⟩) offset size <;> rfl
  · rintro (data | ⟨stages, data⟩ | ⟨data, actions, reads⟩) offset size bytes h
    · cases h
      exact length_slice_le data offset size
    · exact (readsFrom_relay data stages).length_le () offset size bytes h
    · obtain ⟨n, hn, rfl⟩ := map_eq_ok_iff.1 h
      exact Nat.le_trans (length_slice_le data offset n) (nextRead_le hn)
  · rintro (data | ⟨stages, data⟩ | ⟨data, actions, reads⟩) offset size bytes h hdata
    · cases h
      exact eq_slice_of_prefix (List.prefix_refl _)
    · exact (readsFrom_relay data stages).bytes_eq () offset size bytes h hdata
    · obtain ⟨n, hn, rfl⟩ := map_eq_ok_iff.1 h
      exact eq_slice_of_prefix (List.prefix_refl _)

/-- The plain transfer from a file is honest, and puts out a part of the file without gaps. -/
theorem copyFile_honest (hwrite : HonestWrite out write) (sink : σ) (file : File) (position count : UInt64) :
    ∃ bytes, Appends out sink bytes (copyFile write sink file position count) ∧ bytes.length ≤ count.toNat ∧
      (file.data.length < UInt64.size → bytes = slice file.data position bytes.length) := by
  obtain ⟨bytes, hout, hlen, hle, hslice⟩ :=
    FileCopy.run_arrived hwrite.takesWindows File.readsFrom (FileCopy.rounds file.actions.length) sink file position count
  exact ⟨bytes, ⟨hout, hlen⟩, hlen ▸ hle, hlen ▸ hslice⟩

/-! ### Copies from a stream -/

namespace StreamCopy

@[simp] theorem counted_fail (c : StreamCopy σ) (e : SinkError) : counted (c.fail e).result = c.total.toNat := by
  unfold fail
  by_cases h : c.total = 0 <;> simp [h]

/-- Bytes were moved from the buffer of a copy to the output, and are counted. -/
structure Moved (out : σ → Bytes) (c : StreamCopy σ) (bytes : Bytes) (sink : σ) (reader : Reader) (through : Bytes)
    (n : Nat) : Prop where
  /-- They are at the end of the output. -/
  output : out sink = out c.sink ++ bytes
  /-- The stream is as it was. -/
  reader : reader = c.reader
  /-- They come from the front of the buffer. -/
  through : c.through = bytes ++ through
  /-- They are in the total. -/
  total : n = c.total.toNat + bytes.length

/-- Writing from the buffer moves bytes, within the count. -/
theorem exists_moved_of_pour (hwrite : HonestWrite out write) {count : UInt64} {c : StreamCopy σ}
    (hopen : c.total < count) :
    ∃ bytes, c.total.toNat + bytes.length ≤ count.toNat ∧
      (c.pour write count).Keeps (fun next => Moved out c bytes next.sink next.reader next.through next.total.toNat)
        fun reply => Moved out c bytes reply.state.1 reply.state.2.1 reply.state.2.2 (counted reply.result) := by
  have hleft : (count - c.total).toNat = count.toNat - c.total.toNat :=
    UInt64.toNat_sub_of_le _ _ (UInt64.le_of_lt hopen)
  have hlt := UInt64.lt_iff_toNat_lt.1 hopen
  have hfits := count.toNat_lt_size
  obtain ⟨bytes, hput, hoffer⟩ := hwrite c.sink (.ofBytes (c.through.take (count - c.total).toNat))
  rw [Source.bytes_ofBytes] at hoffer
  have hshort := congrArg List.length hoffer
  rw [List.length_append, List.length_take] at hshort
  -- what was taken comes from the front of the buffer, also where the buffer holds more than is offered
  have hthrough : c.through = bytes ++ c.through.drop bytes.length := by
    have hfront : bytes <+: c.through := List.IsPrefix.trans ⟨_, hoffer.symm⟩ (List.take_prefix _ _)
    exact (List.prefix_iff_eq_append.1 hfront).symm
  refine ⟨bytes, by omega, ?_⟩
  unfold pour
  dsimp only
  split
  · next e he =>
    obtain rfl := hput.eq_nil he
    exact ⟨hput.1, rfl, rfl, counted_fail _ e⟩
  · next written hw =>
    have hwritten : bytes.length = written.toNat := by rw [hput.2, hw, counted_ok]
    have hsum : (c.total + written).toNat = c.total.toNat + bytes.length := by
      rw [hwritten]
      exact toNat_add_of_lt (by omega)
    rw [hwritten] at hthrough
    split <;> exact ⟨hput.1, rfl, hthrough, hsum⟩

/-- A round keeps what reading into an empty buffer keeps, and writing from the buffer. -/
theorem keeps_round {count : UInt64} {Inv : StreamCopy σ → Prop} {Post : Reply (σ × Reader × Bytes) UInt64 → Prop}
    (hread : ∀ c bytes, Inv c → c.through = [] → (c.reader.read (window (count - c.total))).1 = .ok bytes →
      c.total < count → Inv { c with reader := (c.reader.read (window (count - c.total))).2, through := bytes })
    (herror : ∀ c e, Inv c → (c.reader.read (window (count - c.total))).1 = .error e →
      Inv { c with reader := (c.reader.read (window (count - c.total))).2 })
    (hfinish : ∀ c, Inv c → Post c.finish) (hfail : ∀ c e, Inv c → Post (c.fail e))
    (hpour : ∀ c, Inv c → c.total < count → (c.pour write count).Keeps Inv Post) (c : StreamCopy σ) (hc : Inv c) :
    (c.round write count).Keeps Inv Post := by
  unfold round
  split
  · next hopen =>
    split
    · next hthrough =>
      rw [List.isEmpty_iff] at hthrough
      dsimp only
      split
      · next e he =>
        have hkept := herror c e hc he
        split
        · exact hkept
        · exact hfail _ _ hkept
      · next hgot =>
        have hkept := hread c [] hc hthrough hgot hopen
        rw [← hthrough] at hkept
        exact hfinish _ hkept
      · next bytes _ hgot =>
        exact hpour _ (hread c bytes hc hthrough hgot hopen) hopen
    · exact hpour c hc hopen
  · exact hfinish c hc

section Copied

variable (out : σ → Bytes) (start all : Bytes) (count : UInt64)

/-- Of all bytes on their way so many were put out, not more than the count, and these are left. -/
def Copied (sink : σ) (left : Bytes) (n : Nat) : Prop :=
  ∃ bytes, out sink = start ++ bytes ∧ bytes.length = n ∧ n ≤ count.toNat ∧ all = bytes ++ left

/-- What holds of a copy in every round: the total is what was put out. -/
def OnCourse (c : StreamCopy σ) : Prop :=
  Copied out start all count c.sink (c.through ++ c.reader.unread) c.total.toNat

/-- What holds of the reply to a copy: its count is what was put out. -/
def Arrived (reply : Reply (σ × Reader × Bytes) UInt64) : Prop :=
  Copied out start all count reply.state.1 (reply.state.2.2 ++ reply.state.2.1.unread) (counted reply.result)

end Copied

variable {start all : Bytes} {count : UInt64}

/-- Bytes that are moved on the course are put out. -/
theorem OnCourse.moved {c : StreamCopy σ} (hc : c.OnCourse out start all count) {bytes : Bytes} {sink : σ}
    {reader : Reader} {through : Bytes} {n : Nat} (h : Moved out c bytes sink reader through n)
    (hle : c.total.toNat + bytes.length ≤ count.toNat) :
    Copied out start all count sink (through ++ reader.unread) n := by
  obtain ⟨before, hout, hlen, -, hall⟩ := hc
  obtain ⟨hout', rfl, hthrough, rfl⟩ := h
  refine ⟨before ++ bytes, ?_, ?_, hle, ?_⟩
  · rw [hout', hout, List.append_assoc]
  · rw [List.length_append, hlen]
  · rw [hall, hthrough, List.append_assoc, List.append_assoc]

/-- A round of the copy stays on course. -/
theorem keeps_onCourse (hwrite : HonestWrite out write) (c : StreamCopy σ) (hc : c.OnCourse out start all count) :
    (c.round write count).Keeps (OnCourse out start all count) (Arrived out start all count) := by
  refine keeps_round ?_ ?_ ?_ ?_ ?_ c hc
  · intro c bytes hc hthrough hgot _
    unfold OnCourse at hc ⊢
    rw [hthrough, List.nil_append, ← Reader.append_unread_of_read_ok hgot] at hc
    exact hc
  · intro c e hc he
    unfold OnCourse at hc ⊢
    rw [← Reader.unread_of_read_error he] at hc
    exact hc
  · intro c hc
    exact hc
  · intro c e hc
    unfold OnCourse at hc
    rw [← counted_fail c e] at hc
    exact hc
  · intro c hc hopen
    obtain ⟨bytes, hle, hmoved⟩ := exists_moved_of_pour hwrite hopen
    exact hmoved.mono (fun _ h => hc.moved h hle) fun _ h => hc.moved h hle

end StreamCopy

/-- The plain transfer from a stream is honest, and loses nothing on the way. -/
theorem copyStream_honest (hwrite : HonestWrite out write) (sink : σ) (reader : Reader) (count : UInt64)
    (through : Bytes) :
    ∃ bytes, Appends out sink bytes (StreamCopy.run write sink reader count through) ∧ bytes.length ≤ count.toNat ∧
      through ++ reader.unread = bytes ++
        ((StreamCopy.run write sink reader count through).state.2.2 ++
          (StreamCopy.run write sink reader count through).state.2.1.unread) := by
  have hstart : StreamCopy.OnCourse out (out sink) (through ++ reader.unread) count
      ⟨sink, reader, through, 0, []⟩ :=
    ⟨[], by simp, rfl, Nat.zero_le _, rfl⟩
  have harrived : StreamCopy.Arrived out (out sink) (through ++ reader.unread) count
      (StreamCopy.run write sink reader count through) :=
    (Round.keeps_iterate (StreamCopy.keeps_onCourse hwrite) _ hstart).resultD fun _ hc => hc
  obtain ⟨bytes, hout, hlen, hle, hall⟩ := harrived
  exact ⟨bytes, ⟨hout, hlen⟩, hlen ▸ hle, hall⟩

end ExactLength
