import ExactLength.Proofs.Sink.Base

/-!
# Several sources through an outlet

A write of several sources offers the device what can be gathered from them in order, and what the device took is
spread over the sources that it came from. So the device gets the bytes in the order of the sources, and what it has
taken and what the sources still hold is what they held, whatever part the device takes and however often it fails:
`Outlet.exists_delivered` says so for any number of writes.

For a device that takes all that it is offered the write comes to the same as one write for each source
(`Outlet.writeEachFrom_of_takesRuns`). Both end with the first chunk of the first source that has more than one.

The main statement is `Outlet.written_in_order`.
-/

namespace ExactLength

namespace Source

theorem joined_advanceAll (n : Nat) (sources : List Source) :
    joined (advanceAll n sources) = (joined sources).drop n := by
  induction sources generalizing n with
  | nil => rw [advanceAll, joined_nil, List.drop_nil]
  | cons src rest ih => rw [advanceAll, joined_cons, joined_cons, bytes_advance, ih, List.drop_append, remaining]

/-- What was taken and what came back is what was there. -/
theorem Gives.append_joined {sources back : List Source} {bytes : Bytes} (h : Gives sources bytes back) :
    bytes ++ joined back = joined sources := by
  obtain ⟨hfront, hback⟩ := h
  have hrest : joined back = (joined sources).drop bytes.length :=
    (congrArg List.flatten hback).trans (joined_advanceAll _ _)
  rw [hrest]
  exact List.prefix_iff_eq_append.1 hfront

theorem allEmpty_iff (sources : List Source) : allEmpty sources = true ↔ joined sources = [] := by
  induction sources with
  | nil => exact ⟨fun _ => rfl, fun _ => rfl⟩
  | cons src rest ih =>
    rw [joined_cons, List.append_eq_nil_iff, ← ih, ← isEmpty_iff]
    exact Bool.and_eq_true_iff

end Source

/-- A device that takes something has not failed. -/
theorem orNotYet_of_taken {result : Except IoError UInt64} (h : 0 < taken result) :
    orNotYet 0 result = .ok (UInt64.ofNat (taken result)) := by
  cases result with
  | error e => cases h
  | ok n => exact congrArg Except.ok n.ofNat_toNat.symm

theorem taken_lt_size (result : Except IoError UInt64) : taken result < UInt64.size := by
  cases result with
  | error e => exact Nat.zero_lt_of_lt (UInt64.toNat_lt_size 0)
  | ok n => exact n.toNat_lt_size

/-- The device takes every run of bytes whole, if its length can be counted. -/
def Device.TakesRuns {ω : Type} (D : Device ω) : Prop :=
  ∀ device run, run.length < UInt64.size → taken (D.write device run).1 = run.length

namespace Outlet

/-- What is gathered holds something. -/
theorem length_gather_pos {sources : List Source} (h : gather sources ≠ []) :
    0 < (gather sources).flatten.length := by
  induction sources with
  | nil => exact absurd rfl h
  | cons src rest ih =>
    rw [gather] at h ⊢
    cases hlive : src.isEmpty with
    | true =>
      rw [hlive, if_pos rfl] at h
      exact ih h
    | false =>
      have hpos := Source.chunk_length_pos hlive
      rw [if_neg Bool.false_ne_true]
      split
      · rwa [List.flatten_singleton]
      · rw [List.flatten_cons, List.length_append]
        omega

@[simp] theorem spread_zero (sources : List Source) : spread 0 sources = sources := by
  cases sources with
  | nil => rfl
  | cons src rest => exact if_pos rfl

theorem spread_cons (n : Nat) (src : Source) (rest : List Source) :
    spread n (src :: rest) =
      src.advance (min n src.chunk.length) :: spread (n - min n src.chunk.length) rest := by
  by_cases hn : n = 0
  · rw [hn, spread_zero, Nat.zero_min, Source.advance_zero, spread_zero]
  · exact if_neg hn

/-- Nothing is spread over an empty source. -/
theorem spread_cons_of_isEmpty {src : Source} (h : src.isEmpty = true) (n : Nat) (rest : List Source) :
    spread n (src :: rest) = src :: spread n rest := by
  have hle := src.chunk_length_le
  rw [Source.remaining, src.isEmpty_iff.1 h] at hle
  rw [spread_cons, Nat.le_zero.1 hle, Nat.min_zero, Source.advance_zero, Nat.sub_zero]

/-- Bytes beyond the first chunk of the first source are spread over the others. -/
theorem spread_chunk_add (n : Nat) (src : Source) (rest : List Source) :
    spread (src.chunk.length + n) (src :: rest) = src.advance src.chunk.length :: spread n rest := by
  rw [spread_cons, Nat.min_eq_right (Nat.le_add_right _ _), Nat.add_sub_cancel_left]

variable {ω : Type}

/-- A write of several sources, of which something can be gathered. -/
theorem writeMany_of_gather (D : Device ω) {o : Outlet ω} (hopen : o.shutDown = false) {sources : List Source}
    (hruns : gather sources ≠ []) :
    writeMany D o sources =
      ⟨orNotYet 0 (D.writeMany o.device (gather sources)).1,
        ({ o with device := (D.writeMany o.device (gather sources)).2 },
          spread (taken (D.writeMany o.device (gather sources)).1) sources), []⟩ := by
  unfold writeMany
  rw [hopen, if_neg Bool.false_ne_true]
  split
  · next hnone => exact absurd hnone hruns
  · rfl

/-- A write of several sources of which nothing can be gathered does nothing. -/
theorem writeMany_of_gather_eq_nil (D : Device ω) {o : Outlet ω} (hopen : o.shutDown = false) {sources : List Source}
    (hruns : gather sources = []) : writeMany D o sources = .ok 0 (o, sources) := by
  unfold writeMany
  rw [hopen, if_neg Bool.false_ne_true, hruns]

/-- A write of several sources that fails leaves them as they are. -/
theorem writeMany_of_error (D : Device ω) {o : Outlet ω} {sources : List Source} {e : SinkError}
    (h : (writeMany D o sources).result = .error e) : (writeMany D o sources).state.2 = sources := by
  cases hopen : o.shutDown with
  | true =>
    unfold writeMany
    rw [hopen]
    rfl
  | false =>
    by_cases hruns : gather sources = []
    · rw [writeMany_of_gather_eq_nil D hopen hruns]
      rfl
    · rw [writeMany_of_gather D hopen hruns] at h ⊢
      cases hreply : (D.writeMany o.device (gather sources)).1 with
      | ok n =>
        rw [hreply] at h
        cases h
      | error cause => exact spread_zero sources

/-- The same sources are written a number of times, whatever comes of it. -/
def writeManyTimes (D : Device ω) : Nat → Outlet ω × List Source → Outlet ω × List Source
  | 0, state => state
  | calls + 1, state => writeManyTimes D calls (writeMany D state.1 state.2).state

section Honest

variable {D : Device ω} {out : ω → Bytes}

/-- Any number of writes of the same sources deliver bytes from the front of them, and leave the others. -/
theorem exists_delivered (h : D.Honest out) (calls : Nat) (o : Outlet ω) (sources : List Source) :
    let after := writeManyTimes D calls (o, sources)
    ∃ delivered, out after.1.device = out o.device ++ delivered ∧
      delivered ++ Source.joined after.2 = Source.joined sources := by
  induction calls generalizing o sources with
  | zero => exact ⟨[], (List.append_nil _).symm, rfl⟩
  | succ calls ih =>
    obtain ⟨first, ⟨hout, -⟩, hgives⟩ := h.gives_writeMany o sources
    obtain ⟨rest, hrest, hleft⟩ := ih (writeMany D o sources).state.1 (writeMany D o sources).state.2
    refine ⟨first ++ rest, ?_, ?_⟩
    · rw [← List.append_assoc, ← hout]
      exact hrest
    · rw [List.append_assoc, ← hgives.append_joined]
      exact congrArg (first ++ ·) hleft

/-- A write of one source to a device that takes every run whole. -/
theorem write_of_takesRuns (h : D.Honest out) (htakes : D.TakesRuns) {o : Outlet ω} (hopen : o.shutDown = false)
    {src : Source} (hlive : src.isEmpty = false) (hfits : src.chunk.length < UInt64.size) :
    (write D o src).result = .ok (UInt64.ofNat src.chunk.length) ∧
      (write D o src).state.2 = src.advance src.chunk.length ∧
      (write D o src).state.1.shutDown = false ∧
      out (write D o src).state.1.device = out o.device ++ src.chunk := by
  have htaken := htakes o.device src.chunk hfits
  obtain ⟨-, hout⟩ := h.write o.device src.chunk
  rw [htaken, List.take_length] at hout
  have hpos : 0 < taken (D.write o.device src.chunk).1 := by
    rw [htaken]
    exact Source.chunk_length_pos hlive
  unfold write
  rw [hlive, hopen, if_neg Bool.false_ne_true, if_neg Bool.false_ne_true]
  exact ⟨(orNotYet_of_taken hpos).trans (by rw [htaken]), congrArg src.advance htaken, rfl, hout⟩

/-- One write for each source to a device that takes every run whole: what reaches it is what can be gathered. -/
theorem writeEachFrom_of_takesRuns (h : D.Honest out) (htakes : D.TakesRuns) {o : Outlet ω}
    (hopen : o.shutDown = false) (total : UInt64) {sources : List Source}
    (hfits : total.toNat + (gather sources).flatten.length < UInt64.size) :
    let reply := writeEachFrom (write D) o total sources
    reply.result = .ok (total + UInt64.ofNat (gather sources).flatten.length) ∧
      out reply.state.1.device = out o.device ++ (gather sources).flatten ∧
      reply.state.2 = spread (gather sources).flatten.length sources := by
  induction sources generalizing o total with
  | nil => simp [writeEachFrom, gather, Outcome.ok]
  | cons src rest ih =>
    rw [gather] at hfits ⊢
    rw [writeEachFrom]
    cases hlive : src.isEmpty with
    | true =>
      rw [hlive, if_pos rfl] at hfits
      obtain ⟨hresult, hout, hback⟩ := ih hopen total hfits
      refine ⟨hresult, hout, ?_⟩
      rw [if_pos rfl, spread_cons_of_isEmpty hlive]
      exact congrArg (src :: ·) hback
    | false =>
      rw [hlive, if_neg Bool.false_ne_true] at hfits
      simp only [Bool.false_eq_true, if_false]
      have hsize : src.chunk.length < UInt64.size := by
        split at hfits <;> simp only [List.flatten_cons, List.length_append] at hfits <;> omega
      have hcount : (UInt64.ofNat src.chunk.length).toNat = src.chunk.length := UInt64.toNat_ofNat_of_lt' hsize
      obtain ⟨hresult, hback, hopen', hout⟩ := write_of_takesRuns h htakes hopen hlive hsize
      simp only [hresult, hcount]
      by_cases hpart : src.chunk.length < src.remaining
      · -- the rest of the source comes before the next source
        simp only [if_pos hpart, List.flatten_singleton]
        refine ⟨trivial, hout, ?_⟩
        rw [hback]
        have hspread := spread_chunk_add 0 src rest
        rw [spread_zero] at hspread
        exact hspread.symm
      · rw [if_neg hpart, List.flatten_cons, List.length_append] at hfits
        have hsum : (total + UInt64.ofNat src.chunk.length).toNat = total.toNat + src.chunk.length := by
          rw [toNat_add_of_lt (by omega), hcount]
        obtain ⟨hresult', hout', hback'⟩ := ih hopen' (total + UInt64.ofNat src.chunk.length) (by omega)
        simp only [if_neg hpart, List.flatten_cons, List.length_append]
        refine ⟨?_, ?_, ?_⟩
        · rw [UInt64.ofNat_add, ← UInt64.add_assoc]
          exact hresult'
        · rw [← List.append_assoc, ← hout]
          exact hout'
        · rw [spread_chunk_add, ← hback]
          exact congrArg ((write D o src).state.2 :: ·) hback'

/-- A device that takes all that it is offered makes no difference between one write of several sources and a write
for each. -/
theorem writeMany_of_takesRuns (h : D.Honest out) (htakes : D.TakesRuns) {o : Outlet ω} (hopen : o.shutDown = false)
    {sources : List Source}
    (hall : taken (D.writeMany o.device (gather sources)).1 = (gather sources).flatten.length) :
    let many := writeMany D o sources
    let each := writeEach (write D) o sources
    many.result = .ok (UInt64.ofNat (gather sources).flatten.length) ∧ each.result = many.result ∧
      out each.state.1.device = out many.state.1.device ∧ each.state.2 = many.state.2 := by
  have hsize : (gather sources).flatten.length < UInt64.size := hall ▸ taken_lt_size _
  obtain ⟨hresult, hout, hback⟩ := writeEachFrom_of_takesRuns h htakes hopen 0 (by simpa using hsize)
  rw [UInt64.zero_add] at hresult
  intro many each
  obtain ⟨hmany, hdevice, hsources⟩ : many.result = .ok (UInt64.ofNat (gather sources).flatten.length) ∧
      out many.state.1.device = out o.device ++ (gather sources).flatten ∧
      many.state.2 = spread (gather sources).flatten.length sources := by
    by_cases hruns : gather sources = []
    · simp only [many, writeMany_of_gather_eq_nil D hopen hruns, hruns]
      exact ⟨rfl, (List.append_nil _).symm, (spread_zero sources).symm⟩
    · have hpos : 0 < taken (D.writeMany o.device (gather sources)).1 := hall ▸ length_gather_pos hruns
      obtain ⟨-, hput⟩ := h.writeMany o.device (gather sources)
      rw [hall, List.take_length] at hput
      have hmany := writeMany_of_gather D hopen hruns
      rw [orNotYet_of_taken hpos, hall] at hmany
      refine ⟨congrArg Outcome.result hmany, ?_, congrArg (fun reply => reply.state.2) hmany⟩
      exact (congrArg (fun reply => out reply.state.1.device) hmany).trans hput
  exact ⟨hmany, hresult.trans hmany.symm, hout.trans hdevice.symm, hback.trans hsources.symm⟩

/-- **Several sources are written in order, and nothing is lost.** Over an honest device, whatever it takes and however
it fails: a write of several sources that succeeds has delivered the first bytes of the sources, as many as it says,
each source stands where its share of them ends, and one that fails has moved nothing. After any number of writes what
was delivered and what is left is what was there, so writes that empty the sources have delivered all of them. If the
outlet is open and the device takes all that it is offered, the count, what the device holds and where the sources stand
are as after one write for each source. -/
theorem written_in_order (h : D.Honest out) (o : Outlet ω) (sources : List Source) :
    let reply := D.sink.writeMany o sources
    (∀ written, reply.result = .ok written →
        written.toNat ≤ (Source.joined sources).length ∧
          out reply.state.1.device = out o.device ++ (Source.joined sources).take written.toNat ∧
          reply.state.2.map Source.bytes = (Source.advanceAll written.toNat sources).map Source.bytes ∧
          (Source.joined sources).take written.toNat ++ Source.joined reply.state.2 = Source.joined sources) ∧
      (∀ e, reply.result = .error e → out reply.state.1.device = out o.device ∧ reply.state.2 = sources) ∧
      (∀ calls, let after := writeManyTimes D calls (o, sources)
        ∃ delivered, out after.1.device = out o.device ++ delivered ∧
          delivered ++ Source.joined after.2 = Source.joined sources ∧
          (Source.allEmpty after.2 = true → delivered = Source.joined sources)) ∧
      (o.shutDown = false → D.TakesRuns →
        taken (D.writeMany o.device (gather sources)).1 = (gather sources).flatten.length →
          let each := writeEach D.sink.write o sources
          (∃ written, reply.result = .ok written) ∧ each.result = reply.result ∧
            out each.state.1.device = out reply.state.1.device ∧ each.state.2 = reply.state.2) := by
  intro reply
  obtain ⟨bytes, hput, hgives⟩ := h.gives_writeMany o sources
  refine ⟨?_, ?_, ?_, ?_⟩
  · intro written hwritten
    have hlen : bytes.length = written.toNat := by
      have hcount := hput.2
      rwa [show (D.sink.writeMany o sources).result = .ok written from hwritten, counted_ok] at hcount
    obtain rfl : bytes = (Source.joined sources).take written.toNat := by
      rw [← hlen]
      exact List.prefix_iff_eq_take.1 hgives.1
    refine ⟨hlen ▸ hgives.1.length_le, hput.1, ?_, hgives.append_joined⟩
    rw [← hlen]
    exact hgives.2
  · intro e he
    obtain rfl := hput.eq_nil he
    exact ⟨hput.1.trans (List.append_nil _), writeMany_of_error D he⟩
  · intro calls after
    obtain ⟨delivered, hout, hleft⟩ := exists_delivered h calls o sources
    refine ⟨delivered, hout, hleft, fun hempty => ?_⟩
    rw [← hleft, (Source.allEmpty_iff _).1 hempty, List.append_nil]
  · intro hopen htakes hall
    obtain ⟨hmany, heach⟩ := writeMany_of_takesRuns h htakes hopen hall
    exact ⟨⟨_, hmany⟩, heach⟩

end Honest

/-- Takes as much of a run as can be counted. -/
def fill (stored run : Bytes) : Except IoError UInt64 × Bytes :=
  (.ok (UInt64.ofNat run.length), stored ++ run.take (UInt64.ofNat run.length).toNat)

/-- A large tank. -/
def vat : Device Bytes where
  write := fill
  writeMany stored runs := fill stored runs.flatten
  flush stored := (.ok (), stored)

theorem vat_honest : vat.Honest id := by
  have hfill (stored run : Bytes) : taken (fill stored run).1 ≤ run.length ∧
      (fill stored run).2 = stored ++ run.take (taken (fill stored run).1) := by
    refine ⟨?_, rfl⟩
    show (UInt64.ofNat run.length).toNat ≤ run.length
    rw [UInt64.toNat_ofNat']
    exact Nat.mod_le _ _
  exact ⟨hfill, fun stored runs => hfill stored runs.flatten, fun _ => rfl⟩

theorem vat_takesRuns : vat.TakesRuns :=
  fun _ _ hsize => UInt64.toNat_ofNat_of_lt' hsize

/-- An empty source, one of two bytes, one in two chunks, and one of a byte. -/
def mixed : List Source :=
  [.ofChunks [], .ofBytes [1, 2], .ofChunks [[3], [4, 5]], .ofBytes [6]]

/-- The first write ends with the first chunk of the third source, and a second one empties them all. -/
theorem written_in_order_vat :
    vat.Honest id ∧ vat.TakesRuns ∧ (vat.sink.writeMany (ofDevice []) mixed).result = .ok 3 ∧
      (vat.sink.writeMany (ofDevice []) mixed).state.1.device = [1, 2, 3] ∧
      (writeManyTimes vat 2 (ofDevice [], mixed)).1.device = [1, 2, 3, 4, 5, 6] ∧
      (writeEach vat.sink.write (ofDevice []) mixed).state.2 =
        [.ofChunks [], .ofChunks [], .ofBytes [4, 5], .ofBytes [6]] := by
  have hresult : (vat.sink.writeMany (ofDevice []) mixed).result = .ok 3 := rfl
  have hempty : Source.allEmpty (writeManyTimes vat 2 (ofDevice [], mixed)).2 = true := by decide
  have hall : taken (vat.writeMany (ofDevice ([] : Bytes)).device (gather mixed)).1 =
      (gather mixed).flatten.length := by
    decide
  obtain ⟨hok, -, htimes, heach⟩ := written_in_order vat_honest (ofDevice []) mixed
  obtain ⟨delivered, hout, -, hdone⟩ := htimes 2
  obtain ⟨-, -, -, hback⟩ := heach rfl vat_takesRuns hall
  refine ⟨vat_honest, vat_takesRuns, hresult, (hok 3 hresult).2.1, ?_, ?_⟩
  · have hall' := hdone hempty
    rw [hall'] at hout
    exact hout
  · rw [hback]
    decide

end Outlet

end ExactLength
