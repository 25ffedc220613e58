import ExactLength.Proofs.Transfer.FileCopy
import ExactLength.Sink.Call
import Mathlib.Logic.Function.Iterate
import Mathlib.Logic.Relation

/-!
# Outlets that are shut down

Once the write side of an outlet was terminated or truncated its device is only flushed: whatever is asked of the
outlet afterwards, however often, and however its writes are resumed and suspended in between (`Outlet.frozen`).

Only the two writes of an outlet look whether it is shut down. All else comes to the device through them, so what has
to be shown is how the plain forms fare with a write that refuses. A transfer reads before it writes. A transfer from a
file then answers with what ended its reads, or with the refusal (`copyFile_of_refuses`). A transfer from a stream
leaves what it read in the buffer, so that nothing is lost (`copyStream_of_refuses`).

A flush is not refused: it goes to the device as before.
-/

namespace ExactLength

namespace Round

variable {σ ρ : Type}

/-- A loop ends as promised, if every round but the last keeps the invariant and lowers the measure. -/
theorem exists_done_of_keeps {body : σ → Round σ ρ} (measure : σ → Nat) {Inv : σ → Prop} {Post : ρ → Prop}
    (h : ∀ state, Inv state → (body state).Keeps (fun next => Inv next ∧ measure next < measure state) Post) {n : Nat}
    {state : σ} (hstate : Inv state) (hn : measure state < n) :
    ∃ result, iterate body n state = .done result ∧ Post result := by
  induction n generalizing state with
  | zero => omega
  | succ n ih =>
    have hbody := h state hstate
    cases heq : body state with
    | again next =>
      rw [heq] at hbody
      obtain ⟨hnext, hlower⟩ := hbody
      rw [iterate_succ_again heq]
      exact ih hnext (by omega)
    | done result =>
      rw [heq] at hbody
      exact ⟨result, iterate_succ_done heq n, hbody⟩

end Round

/-- A transfer from a file as a call. It is stated for any sink, since the plain transfer must not be unfolded. -/
theorem Sink.perform_transferFile_sink {σ : Type} (S : Sink σ) (sink : σ) (file : File) (position count : UInt64) :
    (S.perform sink (.transferFile file position count)).state.1 =
      (S.transferFile sink file position count).state.1 :=
  rfl

/-! ### Writes that refuse -/

/-- A write refuses all but the empty source, and changes nothing. -/
def Refuses {σ : Type} (write : Write σ) (sink : σ) (e : SinkError) : Prop :=
  ∀ src : Source, write sink src = if src.isEmpty then .ok 0 (sink, src) else .error e (sink, src)

/-- A read was interrupted. -/
def Interrupts {φ : Type} (read : φ → Except IoError Bytes × φ) (file next : φ) : Prop :=
  ∃ e, read file = (.error e, next) ∧ e.isInterrupted = true

/-- How a transfer ends after a read, where every write is refused. -/
def refusedAfter (refusal : SinkError) : Except IoError Bytes → Except SinkError UInt64
  | .error e => .error (.io e)
  | .ok [] => .ok 0
  | .ok _ => .error refusal

section Refused

variable {σ φ : Type} {write : Write σ} {sink : σ} {refusal : SinkError}

theorem Refuses.ofBytes (h : Refuses write sink refusal) {bytes : Bytes} (hsome : bytes ≠ []) :
    write sink (.ofBytes bytes) = .error refusal (sink, .ofBytes bytes) := by
  have hopen : (Source.ofBytes bytes).isEmpty = false := by
    rw [Bool.eq_false_iff, Ne, Source.isEmpty_iff, Source.bytes_ofBytes]
    exact hsome
  rw [h, hopen]
  rfl

namespace FileCopy

variable (readAt : ReadFrom φ) (position count : UInt64)

/-- A copy to a sink that refuses: so far its reads were interrupted. -/
structure Waits (sink : σ) (file : φ) (c : FileCopy σ φ) : Prop where
  /-- The sink is as it was. -/
  sink_eq : c.sink = sink
  /-- Nothing was accepted. -/
  total : c.total = 0
  /-- Nothing was told. -/
  events : c.events = []
  /-- The reads so far were interrupted. -/
  interrupted : Relation.ReflTransGen (Interrupts (readAt · position (window count))) file c.file

/-- The reply comes from a read that was not interrupted, after reads that were. -/
def Refused (refusal : SinkError) (sink : σ) (file : φ) (reply : Reply (σ × φ) UInt64) : Prop :=
  ∃ met result next, Relation.ReflTransGen (Interrupts (readAt · position (window count))) file met ∧
    readAt met position (window count) = (result, next) ∧ (∀ e, result = .error e → e.isInterrupted = false) ∧
      reply = ⟨refusedAfter refusal result, (sink, next), []⟩

variable {readAt position count} {view : φ → Bytes} {actions : φ → List ReadAction} {file : φ}

/-- The next read of such a copy is the one that it began with. -/
theorem Waits.look {c : FileCopy σ φ} (h : c.Waits readAt position count sink file) :
    c.look readAt position count = readAt c.file position (window count) := by
  rw [FileCopy.look, h.total, UInt64.add_zero, UInt64.sub_zero]

/-- Each round of such a copy is one more interrupted read, or ends it. -/
theorem Waits.keeps_round (hread : ReadsAs view actions readAt) (hwrite : Refuses write sink refusal)
    (hcount : 0 < count) {c : FileCopy σ φ} (h : c.Waits readAt position count sink file) :
    (c.round readAt write position count).Keeps
      (fun next => next.Waits readAt position count sink file ∧
        (actions next.file).length < (actions c.file).length)
      (Refused readAt position count refusal sink file) := by
  have hlook := h.look
  obtain ⟨rfl, htotal, hevents, hbefore⟩ := h
  have hgoes := c.goes_round readAt write position count
  generalize c.round readAt write position count = round at hgoes ⊢
  cases hgoes with
  | reached hreached =>
    rw [htotal] at hreached
    exact absurd hcount (UInt64.not_lt.2 hreached)
  | interrupted e hopen hresult he =>
    rw [hlook] at hresult
    have hfewer := length_nextRead_of_error (hread.error _ _ _ _ hresult)
    rw [← hread.actions_eq c.file position] at hfewer
    refine ⟨⟨rfl, htotal, hevents, ?_⟩, ?_⟩
    · refine hbefore.tail ⟨e, Prod.ext hresult ?_, he⟩
      rw [looked, hlook]
    · rw [looked, hlook]
      show (actions (readAt c.file position (window count)).2).length < _
      omega
  | unread e hopen hresult he =>
    refine ⟨c.file, .error e, _, hbefore, Prod.ext (hlook ▸ hresult) rfl, ?_, ?_⟩
    · rintro e' ⟨⟩
      exact he
    · simp [fail, looked, htotal, hevents, refusedAfter, hlook]
  | dry hopen hresult =>
    refine ⟨c.file, .ok [], _, hbefore, Prod.ext (hlook ▸ hresult) rfl, ?_, ?_⟩
    · rintro e' ⟨⟩
    · simp [finish, looked, htotal, hevents, refusedAfter, hlook]
  | refused bytes e hopen hresult hsome hrefused =>
    have hreply := hwrite.ofBytes hsome
    have hcause : refusal = e := by
      rw [hreply] at hrefused
      exact Except.error.inj hrefused
    refine ⟨c.file, .ok bytes, _, hbefore, Prod.ext (hlook ▸ hresult) rfl, ?_, ?_⟩
    · rintro e' ⟨⟩
    · simp [fail, wrote, looked, htotal, hevents, refusedAfter, hlook, hreply, hcause, Outcome.error]
  | partly bytes written hopen hresult hsome htaken hpart =>
    rw [hwrite.ofBytes hsome] at htaken
    cases htaken
  | wholly bytes written hopen hresult hsome htaken hwhole =>
    rw [hwrite.ofBytes hsome] at htaken
    cases htaken

end FileCopy

/-- A transfer from a file to a sink that refuses reads until a read is not interrupted, and answers with that. -/
theorem copyFile_of_refuses (hwrite : Refuses write sink refusal) (file : File) (position : UInt64) {count : UInt64}
    (hcount : 0 < count) :
    FileCopy.Refused File.readAt position count refusal sink file (copyFile write sink file position count) := by
  have hstart : FileCopy.Waits File.readAt position count sink file ⟨sink, file, 0, []⟩ := ⟨rfl, rfl, rfl, .refl⟩
  have henough : file.actions.length < FileCopy.rounds file.actions.length :=
    Nat.lt_add_of_pos_right (by decide)
  obtain ⟨reply, hdone, hreply⟩ := Round.exists_done_of_keeps (fun c : FileCopy σ File => c.file.actions.length)
    (fun c hc => hc.keeps_round File.readsAs hwrite hcount) hstart henough
  rw [copyFile, FileCopy.run, hdone]
  exact hreply

/-- A transfer of nothing from a file is done before it begins. -/
theorem copyFile_zero (sink : σ) (file : File) (position : UInt64) :
    copyFile write sink file position 0 = .ok 0 (sink, file) := by
  have hround : FileCopy.round File.readAt write position 0 ⟨sink, file, 0, []⟩ = .done (.ok 0 (sink, file)) := rfl
  rw [copyFile, FileCopy.run, FileCopy.rounds]
  exact congrArg (Round.resultD _) (Round.iterate_succ_done hround _)

/-- Whatever the count, such a transfer leaves the sink alone. -/
theorem copyFile_sink_of_refuses (hwrite : Refuses write sink refusal) (file : File) (position count : UInt64) :
    (copyFile write sink file position count).state.1 = sink := by
  by_cases hzero : count = 0
  · rw [hzero, copyFile_zero]
    rfl
  · obtain ⟨met, result, next, -, -, -, hreply⟩ :=
      copyFile_of_refuses hwrite file position (UInt64.pos_iff_ne_zero.2 hzero)
    rw [hreply]

namespace StreamCopy

/-- A copy to a sink that refuses: what is on the way is kept. -/
structure Holds (sink : σ) (all : Bytes) (c : StreamCopy σ) : Prop where
  /-- The sink is as it was. -/
  sink_eq : c.sink = sink
  /-- Nothing was accepted. -/
  total : c.total = 0
  /-- The buffer and the stream hold what they held. -/
  kept : c.through ++ c.reader.unread = all

/-- The reply leaves the sink alone, keeps what is on the way, and counts nothing. -/
structure Refused (sink : σ) (all : Bytes) (reply : Reply (σ × Reader × Bytes) UInt64) : Prop where
  /-- The sink is as it was. -/
  sink_eq : reply.state.1 = sink
  /-- The buffer and the stream hold what they held. -/
  kept : reply.state.2.2 ++ reply.state.2.1.unread = all
  /-- Nothing is counted. -/
  count_eq : ∀ n, reply.result = .ok n → n = 0

variable {all : Bytes} {count : UInt64} {c : StreamCopy σ}

theorem Holds.finish (h : c.Holds sink all) : Refused sink all c.finish := by
  refine ⟨h.sink_eq, h.kept, ?_⟩
  rintro n ⟨⟩
  exact h.total

theorem Holds.fail (h : c.Holds sink all) (e : SinkError) : Refused sink all (c.fail e) := by
  refine ⟨h.sink_eq, h.kept, fun n hn => ?_⟩
  simp [StreamCopy.fail, h.total] at hn

/-- A write from the buffer is refused, or there was nothing to write. -/
theorem Holds.keeps_pour (hwrite : Refuses write sink refusal) (h : c.Holds sink all) :
    (c.pour write count).Keeps (Holds sink all) (Refused sink all) := by
  obtain ⟨rfl, htotal, hkept⟩ := h
  rw [pour]
  by_cases hoffer : c.through.take (count - c.total).toNat = []
  · have hreply : write c.sink (.ofBytes []) = .ok 0 (c.sink, .ofBytes []) := hwrite _
    simp only [hoffer, hreply, Outcome.ok, List.length_nil, UInt64.toNat_zero, Nat.lt_irrefl, if_false,
      List.drop_zero, UInt64.add_zero]
    exact ⟨rfl, htotal, hkept⟩
  · simp only [hwrite.ofBytes hoffer, Outcome.error]
    show Refused c.sink all (StreamCopy.fail _ refusal)
    apply Holds.fail
    exact ⟨rfl, htotal, hkept⟩

/-- A round reads into the empty buffer, or has its write refused. -/
theorem Holds.keeps_round (hwrite : Refuses write sink refusal) (c : StreamCopy σ) (h : c.Holds sink all) :
    (c.round write count).Keeps (Holds sink all) (Refused sink all) := by
  refine StreamCopy.keeps_round ?_ ?_ (fun c => Holds.finish) (fun c e hc => hc.fail e)
    (fun c hc _ => hc.keeps_pour hwrite) c h
  · intro c bytes hc hthrough hgot _
    refine ⟨hc.sink_eq, hc.total, ?_⟩
    have hkept := hc.kept
    rw [hthrough, List.nil_append] at hkept
    exact (Reader.append_unread_of_read_ok hgot).trans hkept
  · intro c e hc he
    refine ⟨hc.sink_eq, hc.total, ?_⟩
    rw [Reader.unread_of_read_error he]
    exact hc.kept

end StreamCopy

/-- A transfer from a stream to a sink that refuses may move bytes into the buffer, and loses none. -/
theorem copyStream_of_refuses (hwrite : Refuses write sink refusal) (reader : Reader) (count : UInt64)
    (through : Bytes) :
    StreamCopy.Refused sink (through ++ reader.unread) (StreamCopy.run write sink reader count through) := by
  have hstart : StreamCopy.Holds sink (through ++ reader.unread) ⟨sink, reader, through, 0, []⟩ := ⟨rfl, rfl, rfl⟩
  exact (Round.keeps_iterate (StreamCopy.Holds.keeps_round hwrite) _ hstart).resultD fun c => StreamCopy.Holds.finish

end Refused

namespace Outlet

variable {ω : Type}

/-! ### What a shut outlet answers -/

/-- An outlet that is shut down, and how it answers: as often as it is asked, and without a word to the device. -/
structure Frozen (D : Device ω) (o : Outlet ω) : Prop where
  /-- It is shut down. -/
  shutDown : o.shutDown = true
  /-- Its writes do not count as resumed. -/
  isResumed : D.sink.isResumed o = (false, o)
  /-- There is nothing left to end, and nothing to flush for it. -/
  terminate : D.sink.terminate o = .ok () o
  /-- There is nothing left to give up. -/
  truncate : D.sink.truncate o = .ok () o
  /-- A write of something is refused, and takes nothing. -/
  write : Refuses D.sink.write o .closedChannel
  /-- A write of the last data is refused, and takes nothing. -/
  writeLast : Refuses D.sink.writeLast o .closedChannel
  /-- A write of several sources is refused, also of empty ones, and takes nothing. -/
  writeMany : ∀ sources, D.sink.writeMany o sources = .error .closedChannel (o, sources)
  /-- So it is if they hold the last data. -/
  writeManyLast : ∀ sources, D.sink.writeManyLast o sources = .error .closedChannel (o, sources)
  /-- A transfer from a file answers with the end of the file, with an error of the file or with the refusal. -/
  transferFile : ∀ file position count, 0 < count →
    FileCopy.Refused File.readAt position count .closedChannel o file (D.sink.transferFile o file position count)
  /-- A transfer from a stream keeps all that is in the buffer and in the stream. -/
  transferStream : ∀ reader count through,
    StreamCopy.Refused o (through ++ reader.unread) (D.sink.transferStream o reader count through)

variable {D : Device ω} {o : Outlet ω}

theorem refuses_write (h : o.shutDown = true) : Refuses D.sink.write o .closedChannel := by
  intro src
  show Outlet.write D o src = _
  rw [Outlet.write, if_pos h]

theorem terminate_of_shutDown (h : o.shutDown = true) : D.sink.terminate o = .ok () o :=
  if_pos h

theorem writeMany_of_shutDown (h : o.shutDown = true) (sources : List Source) :
    D.sink.writeMany o sources = .error .closedChannel (o, sources) :=
  if_pos h

theorem truncate_of_shutDown (h : o.shutDown = true) : D.sink.truncate o = .ok () o := by
  obtain ⟨device, shutDown, resumed⟩ := o
  cases h
  rfl

/-- The last data are refused as other data are. If there are none, there is nothing left to end. -/
theorem refuses_writeLast (h : o.shutDown = true) : Refuses D.sink.writeLast o .closedChannel := by
  intro src
  rw [Sink.writeLast, refuses_write h]
  by_cases hempty : src.isEmpty = true
  · simp [hempty, Sink.endWrite, Outcome.ok, terminate_of_shutDown h, Except.map]
  · simp [hempty, Sink.endWrite, Outcome.error]

/-- All that a shut outlet answers follows from its being shut down. -/
theorem frozen_of_shutDown (h : o.shutDown = true) : o.Frozen D where
  shutDown := h
  isResumed := by
    show (o.resumed && !o.shutDown, o) = _
    rw [h, Bool.not_true, Bool.and_false]
  terminate := terminate_of_shutDown h
  truncate := truncate_of_shutDown h
  write := refuses_write h
  writeLast := refuses_writeLast h
  writeMany := writeMany_of_shutDown h
  writeManyLast sources := by
    rw [Sink.writeManyLast, writeMany_of_shutDown h]
    rfl
  transferFile file position _ hcount := copyFile_of_refuses (refuses_write h) file position hcount
  transferStream := copyStream_of_refuses (refuses_write h)

/-! ### What becomes of a shut outlet -/

/-- What may be done with an outlet. -/
inductive Use where
  /-- A call of the sink that it makes. -/
  | call (call : Call)
  /-- Its writes are marked as resumed. -/
  | resume
  /-- Its writes are marked as suspended. -/
  | suspend
  deriving DecidableEq

/-- The outlet after a use. -/
def use (D : Device ω) (o : Outlet ω) : Use → Outlet ω
  | .call call => (D.sink.perform o call).state.1
  | .resume => o.resume
  | .suspend => o.suspend

/-- The device after a flush. -/
def flushed (D : Device ω) (device : ω) : ω :=
  (D.flush device).2

/-- Only a flush and a wake-up change a shut outlet. -/
theorem perform_of_shutDown (h : o.shutDown = true) {call : Call} (hflush : call ≠ .flush) (hwake : call ≠ .wake) :
    (D.sink.perform o call).state.1 = o := by
  have hfrozen : o.Frozen D := frozen_of_shutDown h
  cases call with
  | flush => exact absurd rfl hflush
  | wake => exact absurd rfl hwake
  | write src =>
    show (D.sink.write o src).state.1 = o
    rw [hfrozen.write]
    split <;> rfl
  | writeLast src =>
    show (D.sink.writeLast o src).state.1 = o
    rw [hfrozen.writeLast]
    split <;> rfl
  | writeMany sources =>
    show (D.sink.writeMany o sources).state.1 = o
    rw [hfrozen.writeMany]
    rfl
  | writeManyLast sources =>
    show (D.sink.writeManyLast o sources).state.1 = o
    rw [hfrozen.writeManyLast]
    rfl
  | transferFile file position count =>
    have hplain : D.sink.transferFile = copyFile D.sink.write := rfl
    rw [Sink.perform_transferFile_sink, hplain, copyFile_sink_of_refuses hfrozen.write]
  | transferStream reader count through =>
    show (D.sink.transferStream o reader count through).state.1 = o
    exact (hfrozen.transferStream reader count through).sink_eq
  | isResumed => rfl
  | wait milliseconds => rfl
  | terminate => exact congrArg (·.state) hfrozen.terminate
  | truncate => exact congrArg (·.state) hfrozen.truncate

/-- A use of a shut outlet leaves it shut. It reaches the device only if it is a flush. -/
theorem use_of_shutDown (h : o.shutDown = true) (u : Use) :
    (use D o u).shutDown = true ∧
      (use D o u).device = if u = .call .flush then flushed D o.device else o.device := by
  cases u with
  | resume => exact ⟨h, rfl⟩
  | suspend => exact ⟨h, rfl⟩
  | call call =>
    by_cases hflush : call = .flush
    · rw [hflush]
      exact ⟨h, rfl⟩
    · by_cases hwake : call = .wake
      · rw [hwake]
        exact ⟨h, rfl⟩
      · rw [use, perform_of_shutDown h hflush hwake, if_neg (by simpa using hflush)]
        exact ⟨h, rfl⟩

/-- After any uses the outlet is still shut, and its device was flushed as often as it was asked to. -/
theorem foldl_use_of_shutDown (h : o.shutDown = true) (uses : List Use) :
    (uses.foldl (use D) o).shutDown = true ∧
      (uses.foldl (use D) o).device = (flushed D)^[uses.count (.call .flush)] o.device := by
  induction uses generalizing o with
  | nil => exact ⟨h, rfl⟩
  | cons u uses ih =>
    obtain ⟨hshut, hdevice⟩ := use_of_shutDown (D := D) h u
    obtain ⟨hthen, hflushes⟩ := ih hshut
    refine ⟨hthen, ?_⟩
    rw [List.foldl_cons, hflushes, hdevice, List.count_cons]
    by_cases hu : u = .call .flush <;> simp [hu, Function.iterate_succ_apply]

/-- Both ways to end the write side shut the outlet. -/
theorem shutDown_of_ending {ending : Call} (h : ending = .terminate ∨ ending = .truncate) :
    (D.sink.perform o ending).state.1.shutDown = true := by
  rcases h with rfl | rfl
  · show (Outlet.terminate D o).state.shutDown = true
    unfold Outlet.terminate
    split
    · assumption
    · rfl
  · rfl

end Outlet

/-- **An outlet that was shut down is frozen.** Whatever was done with it since, it is shut down and refuses as such an
outlet does, its device was flushed once for each flush that it was asked for, and was asked for nothing else. So what
a flush leaves alone is as it was, the bytes that the device holds above all. -/
theorem Outlet.frozen {ω : Type} (D : Device ω) (o : Outlet ω) {ending : Call}
    (hending : ending = .terminate ∨ ending = .truncate) (uses : List Outlet.Use) :
    let shut := (D.sink.perform o ending).state.1
    let now := uses.foldl (Outlet.use D) shut
    now.Frozen D ∧ now.device = (Outlet.flushed D)^[uses.count (.call .flush)] shut.device ∧
      ∀ out : ω → Bytes, (∀ device, out (D.flush device).2 = out device) → out now.device = out shut.device := by
  intro shut now
  obtain ⟨hshut, hdevice⟩ := Outlet.foldl_use_of_shutDown (D := D) (Outlet.shutDown_of_ending (o := o) hending) uses
  refine ⟨Outlet.frozen_of_shutDown hshut, hdevice, fun out hflush => ?_⟩
  have hquiet (n : Nat) (device : ω) : out ((Outlet.flushed D)^[n] device) = out device := by
    induction n generalizing device with
    | zero => rfl
    | succ n ih => rw [Function.iterate_succ_apply, ih, Outlet.flushed, hflush]
  exact (congrArg out hdevice).trans (hquiet _ _)

/-- A tank that holds two bytes when it is shut holds them after writes, flushes and a transfer. -/
theorem Outlet.frozen_tank :
    let uses := [.resume, .call (.write (.ofBytes [3])), .call .flush, .call (.transferFile (.plain [4]) 0 1), .suspend,
      .call .flush, .call .terminate]
    let now := uses.foldl (Outlet.use tank) (tank.sink.perform (.ofDevice [1, 2]) .terminate).state.1
    (Call.terminate = .terminate ∨ Call.terminate = .truncate) ∧ now.Frozen tank ∧ now.device = [1, 2] := by
  intro uses now
  obtain ⟨hfrozen, -, hout⟩ := Outlet.frozen tank (.ofDevice [1, 2]) (Or.inl rfl) uses
  exact ⟨Or.inl rfl, hfrozen, hout id fun _ => rfl⟩

end ExactLength
