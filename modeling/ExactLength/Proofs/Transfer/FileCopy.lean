import ExactLength.Proofs.Sink.Base
import ExactLength.Proofs.Sink.Recorded

/-!
# How a copy from a file ends

The loop that copies from a file, round by round. `FileCopy.Goes` lists what a round may come to: there are two ways
to go on, after an interrupted read and after a write that took all it was offered, and five ways to end. Each way to
go on uses up an action of the file or brings the total closer to the count, so the loop ends within the rounds that
it is allowed (`FileCopy.run_done`).

A copy that ends below the count has met the end of the file, a write that was partial, or an error after progress
(`FileCopy.StopsShort`). If none of these can happen, it comes to the count or to the end of the data
(`FileCopy.run_all`). The latter says in particular what a relay reads, so all files are read alike
(`File.readsAs`).

The main statement is `copyFile_exact`.
-/

namespace ExactLength

namespace Round

variable {σ ρ : Type} {body : σ → Round σ ρ}

/-- A loop that is over came to a last round. -/
theorem exists_last {n : Nat} {state : σ} {result : ρ} (h : iterate body n state = .done result) :
    ∃ k last, iterate body k state = .again last ∧ body last = .done result := by
  induction n generalizing state with
  | zero => cases h
  | succ n ih =>
    cases hbody : body state with
    | again next =>
      rw [iterate_succ_again hbody] at h
      obtain ⟨k, last, hk, hlast⟩ := ih h
      exact ⟨k + 1, last, (iterate_succ_again hbody k).trans hk, hlast⟩
    | done ended =>
      rw [iterate_succ_done hbody] at h
      cases h
      exact ⟨0, state, rfl, hbody⟩

end Round

/-! ### Reads that go as told -/

/-- Reads of a file go as its actions tell, and give its bytes. -/
structure ReadsAs {φ : Type} (view : φ → Bytes) (actions : φ → List ReadAction) (readAt : ReadFrom φ) : Prop extends
    ReadsFrom view readAt where
  /-- A read uses up an action, if there is one. -/
  actions_eq : ∀ file offset size, actions (readAt file offset size).2 = (nextRead (actions file) size).2
  /-- A read fails only if it is told to. -/
  error : ∀ file offset size e, (readAt file offset size).1 = .error e → (nextRead (actions file) size).1 = .error e
  /-- A read gives as many bytes as it is told to, or as there are. -/
  result_eq : ∀ file offset size, (view file).length < UInt64.size → size < UInt64.size →
    (readAt file offset size).1 = (nextRead (actions file) size).1.map (slice (view file) offset)

/-- The action neither ends nor fails a copy: the read is interrupted, or reads something if there is something. -/
def ReadAction.GoesOn : ReadAction → Prop
  | .cap size => 0 < size
  | .fail e => e.isInterrupted = true

/-- A write that takes all that a round of a copy may show it. -/
def TakesAll {σ : Type} (write : Write σ) : Prop :=
  ∀ sink (bytes : Bytes), bytes.length ≤ windowSize →
    (write sink (.ofBytes bytes)).result = .ok (UInt64.ofNat bytes.length)

/-- Such a write does not fail, and counts all that it was offered. -/
theorem TakesAll.eq_ok {σ : Type} {write : Write σ} (h : TakesAll write) {sink : σ} {bytes : Bytes}
    (hle : bytes.length ≤ windowSize) :
    ∃ written, (write sink (.ofBytes bytes)).result = .ok written ∧ written.toNat = bytes.length :=
  ⟨_, h sink bytes hle, UInt64.toNat_ofNat_of_lt' (Nat.lt_of_le_of_lt hle (by decide))⟩

theorem window_le_left {total count : UInt64} (h : total < count) :
    window (count - total) ≤ count.toNat - total.toNat := by
  rw [window, UInt64.toNat_sub_of_le _ _ (UInt64.le_of_lt h)]
  exact Nat.min_le_left _ _

theorem window_le_windowSize (left : UInt64) : window left ≤ windowSize :=
  Nat.min_le_right _ _

namespace FileCopy

variable {σ φ : Type} {view : φ → Bytes} {actions : φ → List ReadAction} (readAt : ReadFrom φ) (write : Write σ)
  (position count : UInt64)

/-! ### What a round comes to -/

/-- The next read of a copy. -/
def look (c : FileCopy σ φ) : Except IoError Bytes × φ :=
  readAt c.file (position + c.total) (window (count - c.total))

/-- The copy after its next read. -/
def looked (c : FileCopy σ φ) : FileCopy σ φ :=
  { c with file := (c.look readAt position count).2 }

/-- The copy after a write that took so many bytes. -/
def wrote (c : FileCopy σ φ) (bytes : Bytes) (written : UInt64) : FileCopy σ φ :=
  { c with
    sink := (write c.sink (.ofBytes bytes)).state.1
    events := c.events ++ (write c.sink (.ofBytes bytes)).events
    total := c.total + written }

/-- What a round may come to. -/
inductive Goes (c : FileCopy σ φ) : Round (FileCopy σ φ) (Reply (σ × φ) UInt64) → Prop where
  /-- The count is reached. -/
  | reached (hreached : count ≤ c.total) : Goes c (.done c.finish)
  /-- The read is interrupted. -/
  | interrupted (e : IoError) (hopen : c.total < count) (hread : (c.look readAt position count).1 = .error e)
    (he : e.isInterrupted = true) : Goes c (.again (c.looked readAt position count))
  /-- The read fails. -/
  | unread (e : IoError) (hopen : c.total < count) (hread : (c.look readAt position count).1 = .error e)
    (he : e.isInterrupted = false) : Goes c (.done ((c.looked readAt position count).fail (.io e)))
  /-- There is nothing to read. -/
  | dry (hopen : c.total < count) (hread : (c.look readAt position count).1 = .ok []) :
    Goes c (.done (c.looked readAt position count).finish)
  /-- The write fails. -/
  | refused (bytes : Bytes) (e : SinkError) (hopen : c.total < count)
    (hread : (c.look readAt position count).1 = .ok bytes) (hsome : bytes ≠ [])
    (hwrite : (write c.sink (.ofBytes bytes)).result = .error e) :
    Goes c (.done (((c.looked readAt position count).wrote write bytes 0).fail e))
  /-- The write is partial. -/
  | partly (bytes : Bytes) (written : UInt64) (hopen : c.total < count)
    (hread : (c.look readAt position count).1 = .ok bytes) (hsome : bytes ≠ [])
    (hwrite : (write c.sink (.ofBytes bytes)).result = .ok written) (hpart : written.toNat < bytes.length) :
    Goes c (.done ((c.looked readAt position count).wrote write bytes written).finish)
  /-- The write takes all. -/
  | wholly (bytes : Bytes) (written : UInt64) (hopen : c.total < count)
    (hread : (c.look readAt position count).1 = .ok bytes) (hsome : bytes ≠ [])
    (hwrite : (write c.sink (.ofBytes bytes)).result = .ok written) (hwhole : bytes.length ≤ written.toNat) :
    Goes c (.again ((c.looked readAt position count).wrote write bytes written))

/-- A round comes to one of these. -/
theorem goes_round (c : FileCopy σ φ) :
    c.Goes readAt write position count (c.round readAt write position count) := by
  unfold round
  split
  · next hopen =>
    dsimp only
    split
    · next e hread =>
      split
      · next he => exact .interrupted e hopen hread he
      · next he => exact .unread e hopen hread (Bool.eq_false_iff.2 he)
    · next hread => exact .dry hopen hread
    · next bytes hsome hread =>
      unfold pour
      dsimp only
      split
      · next e hwrite =>
        have h : c.Goes readAt write position count _ := .refused bytes e hopen hread hsome hwrite
        rw [wrote, UInt64.add_zero] at h
        exact h
      · next written hwrite =>
        split
        · next hpart => exact .partly bytes written hopen hread hsome hwrite hpart
        · next hwhole => exact .wholly bytes written hopen hread hsome hwrite (Nat.le_of_not_lt hwhole)
  · next hclosed => exact .reached (UInt64.not_lt.1 hclosed)

variable {readAt write position count}

theorem length_le_of_look (hread : ReadsFrom view readAt) {c : FileCopy σ φ} {bytes : Bytes}
    (h : (c.look readAt position count).1 = .ok bytes) : bytes.length ≤ window (count - c.total) :=
  hread.length_le _ _ _ _ h

theorem length_le_windowSize_of_look (hread : ReadsFrom view readAt) {c : FileCopy σ φ} {bytes : Bytes}
    (h : (c.look readAt position count).1 = .ok bytes) : bytes.length ≤ windowSize :=
  Nat.le_trans (length_le_of_look hread h) (window_le_windowSize _)

/-- An honest write takes no more than it was offered. -/
theorem toNat_le_of_takesWindows {out : σ → Bytes} (hwrite : TakesWindows out write) {sink : σ} {bytes : Bytes}
    {written : UInt64} (hle : bytes.length ≤ windowSize) (h : (write sink (.ofBytes bytes)).result = .ok written) :
    written.toNat ≤ bytes.length := by
  obtain ⟨given, hput, hfront⟩ := hwrite sink bytes hle
  have hcount := hput.2
  rw [h, counted_ok] at hcount
  rw [← hcount]
  exact hfront.length_le

/-- What a write took of a window is added to the total without a wrap, and stays within the count. -/
theorem toNat_add_written {c : FileCopy σ φ} {bytes : Bytes} {written : UInt64} (hopen : c.total < count)
    (hle : bytes.length ≤ window (count - c.total)) (hwritten : written.toNat ≤ bytes.length) :
    (c.total + written).toNat = c.total.toNat + written.toNat ∧ (c.total + written).toNat ≤ count.toNat := by
  have hwindow := window_le_left hopen
  have hlt := UInt64.lt_iff_toNat_lt.1 hopen
  have hcount := count.toNat_lt_size
  have hsum : (c.total + written).toNat = c.total.toNat + written.toNat := toNat_add_of_lt (by omega)
  omega

/-! ### The loop ends -/

/-- What a copy still has before it: actions of the file, and bytes up to the count. -/
def pending (actions : φ → List ReadAction) (count : UInt64) (c : FileCopy σ φ) : Nat :=
  (actions c.file).length + (count.toNat - c.total.toNat)

/-- Every round but the last lowers what the copy has before it. -/
theorem pending_lt_of_round {out : σ → Bytes} (hwrite : TakesWindows out write)
    (hread : ReadsAs view actions readAt) {c next : FileCopy σ φ}
    (h : c.round readAt write position count = .again next) : next.pending actions count < c.pending actions count := by
  have hgoes := c.goes_round readAt write position count
  rw [h] at hgoes
  have hactions := hread.actions_eq c.file (position + c.total) (window (count - c.total))
  cases hgoes with
  | interrupted e hopen hlook he =>
    have hfewer := length_nextRead_of_error (hread.error _ _ _ _ hlook)
    rw [← hactions] at hfewer
    show (actions (readAt _ _ _).2).length + (count.toNat - c.total.toNat) < _
    rw [pending]
    omega
  | wholly bytes written hopen hlook hsome hresult hwhole =>
    have hle := length_le_of_look hread.toReadsFrom hlook
    have hwindow := length_le_windowSize_of_look hread.toReadsFrom hlook
    have hwritten := toNat_le_of_takesWindows hwrite hwindow hresult
    obtain ⟨hsum, hcount⟩ := toNat_add_written hopen hle hwritten
    have hfewer := length_nextRead_le (actions c.file) (window (count - c.total))
    rw [← hactions] at hfewer
    have hpos := List.length_pos_iff.2 hsome
    show (actions (readAt _ _ _).2).length + (count.toNat - (c.total + written).toNat) < _
    rw [pending]
    omega

/-- The rounds that are allowed are enough, if no write takes more than it is offered. -/
theorem run_done {out : σ → Bytes} (hwrite : TakesWindows out write) (hread : ReadsAs view actions readAt) (sink : σ)
    (file : φ) (position count : UInt64) :
    Round.iterate (round readAt write position count) (rounds (actions file).length) ⟨sink, file, 0, []⟩ =
      .done (run readAt write (rounds (actions file).length) sink file position count) := by
  have hlower (c next : FileCopy σ φ) (h : c.round readAt write position count = .again next) :
      next.pending actions count < c.pending actions count :=
    pending_lt_of_round hwrite hread h
  have henough : pending actions count (⟨sink, file, 0, []⟩ : FileCopy σ φ) < rounds (actions file).length := by
    have hcount := count.toNat_lt_size
    show (actions file).length + (count.toNat - (0 : UInt64).toNat) < (actions file).length + UInt64.size
    omega
  obtain ⟨reply, hdone⟩ := Round.exists_iterate_eq_done (pending actions count) hlower _ henough
  rw [run, hdone]
  rfl

/-! ### Where it ends -/

/-- The copy ends below the count: the read gives nothing, the write is partial, or one of them fails after some bytes
were accepted. -/
inductive StopsShort (readAt : ReadFrom φ) (write : Write σ) (position count : UInt64) (c : FileCopy σ φ) :
    UInt64 → Prop where
  /-- The read gives nothing. -/
  | dry (hread : (c.look readAt position count).1 = .ok []) : StopsShort readAt write position count c c.total
  /-- The read fails. -/
  | unread (e : IoError) (hread : (c.look readAt position count).1 = .error e) (he : e.isInterrupted = false)
    (hsome : 0 < c.total) : StopsShort readAt write position count c c.total
  /-- The write fails. -/
  | refused (bytes : Bytes) (e : SinkError) (hread : (c.look readAt position count).1 = .ok bytes)
    (hwrite : (write c.sink (.ofBytes bytes)).result = .error e) (hsome : 0 < c.total) :
    StopsShort readAt write position count c c.total
  /-- The write is partial. -/
  | partly (bytes : Bytes) (written : UInt64) (hread : (c.look readAt position count).1 = .ok bytes)
    (hwrite : (write c.sink (.ofBytes bytes)).result = .ok written) (hpart : written.toNat < bytes.length) :
    StopsShort readAt write position count c (c.total + written)

/-- An error that does not show comes after progress. -/
theorem fail_eq_ok {c : FileCopy σ φ} {e : SinkError} {t : UInt64} (h : (c.fail e).result = .ok t) :
    t = c.total ∧ 0 < c.total := by
  have hne : c.total ≠ 0 := by
    intro hzero
    simp [fail, hzero] at h
  simp only [fail, hne, if_false, Except.ok.injEq] at h
  exact ⟨h.symm, UInt64.pos_iff_ne_zero.2 hne⟩

/-- A round that ends a copy below the count has a reason. -/
theorem stopsShort_of_done {c : FileCopy σ φ} {reply : Reply (σ × φ) UInt64} {t : UInt64}
    (h : c.round readAt write position count = .done reply) (ht : reply.result = .ok t) (hlt : t < count) :
    c.StopsShort readAt write position count t := by
  have hgoes := c.goes_round readAt write position count
  rw [h] at hgoes
  cases hgoes with
  | reached hreached =>
    cases ht
    exact absurd hlt (UInt64.not_lt.2 hreached)
  | unread e hopen hread he =>
    obtain ⟨rfl, hpos⟩ := fail_eq_ok ht
    exact .unread e hread he hpos
  | dry hopen hread =>
    cases ht
    exact .dry hread
  | refused bytes e hopen hread hsome hwrite =>
    obtain ⟨rfl, hpos⟩ := fail_eq_ok ht
    rw [wrote, UInt64.add_zero] at hpos ⊢
    exact .refused bytes e hread hwrite hpos
  | partly bytes written hopen hread hsome hwrite hpart =>
    cases ht
    exact .partly bytes written hread hwrite hpart

/-! ### Copies that nothing stops -/

/-- Actions that go on interrupt a read, or let it read something. -/
theorem nextRead_of_goesOn {told : List ReadAction} (h : ∀ a ∈ told, a.GoesOn) {size : Nat} (hsize : 0 < size) :
    (∃ e, (nextRead told size).1 = .error e ∧ e.isInterrupted = true) ∨
      ∃ n, (nextRead told size).1 = .ok n ∧ 0 < n := by
  rcases told with _ | ⟨_ | e, rest⟩
  · exact Or.inr ⟨size, rfl, hsize⟩
  · exact Or.inr ⟨_, rfl, Nat.lt_min.2 ⟨h _ List.mem_cons_self, hsize⟩⟩
  · exact Or.inl ⟨e, rfl, h _ List.mem_cons_self⟩

theorem mem_of_mem_nextRead {told : List ReadAction} {size : Nat} {a : ReadAction}
    (h : a ∈ (nextRead told size).2) : a ∈ told := by
  rcases told with _ | ⟨_ | e, rest⟩
  · exact h
  · exact List.mem_cons_of_mem _ h
  · exact List.mem_cons_of_mem _ h

/-- The copy has not been stopped, and has not gone beyond the count or the end of the data. -/
def Unstopped (view : φ → Bytes) (actions : φ → List ReadAction) (data : Bytes) (position count : UInt64)
    (c : FileCopy σ φ) : Prop :=
  view c.file = data ∧ (∀ a ∈ actions c.file, a.GoesOn) ∧
    c.total.toNat ≤ min count.toNat (data.length - position.toNat)

/-- The copy has come to the count or to the end of the data. -/
def Exhausted (data : Bytes) (position count : UInt64) (reply : Reply (σ × φ) UInt64) : Prop :=
  ∃ t, reply.result = .ok t ∧ t.toNat = min count.toNat (data.length - position.toNat)

/-- The next read of such a copy is interrupted, or gets something unless the data are at an end. -/
theorem Unstopped.look (hread : ReadsAs view actions readAt) {data : Bytes} (hdata : data.length < UInt64.size)
    {c : FileCopy σ φ} (hc : c.Unstopped view actions data position count) (hopen : c.total < count) :
    (∃ e, (c.look readAt position count).1 = .error e ∧ e.isInterrupted = true) ∨
      ∃ n, 0 < n ∧
        (c.look readAt position count).1 = .ok ((data.drop (position.toNat + c.total.toNat)).take n) := by
  obtain ⟨hview, hactions, htotal⟩ := hc
  have hposition := position.toNat_lt_size
  have hoffset : (position + c.total).toNat = position.toNat + c.total.toNat := toNat_add_of_lt (by omega)
  have hsize : window (count - c.total) < UInt64.size := Nat.lt_of_le_of_lt (window_le_windowSize _) (by decide)
  rw [FileCopy.look, hread.result_eq _ _ _ (hview ▸ hdata) hsize]
  rcases nextRead_of_goesOn hactions (window_pos hopen) with ⟨e, he, hi⟩ | ⟨n, hn, hpos⟩
  · exact Or.inl ⟨e, by rw [he]; rfl, hi⟩
  · refine Or.inr ⟨n, hpos, ?_⟩
    rw [hn, ← hoffset, ← hview]
    rfl

/-- A read does not stop the copy. -/
theorem Unstopped.looked (hread : ReadsAs view actions readAt) {data : Bytes} {c : FileCopy σ φ}
    (hc : c.Unstopped view actions data position count) :
    (c.looked readAt position count).Unstopped view actions data position count := by
  obtain ⟨hview, hactions, htotal⟩ := hc
  refine ⟨(hread.view_eq _ _ _).trans hview, fun a ha => ?_, htotal⟩
  rw [FileCopy.looked, FileCopy.look, hread.actions_eq] at ha
  exact hactions a (mem_of_mem_nextRead ha)

/-- Nothing stops a copy to a sink that takes all, from a file that goes on. -/
theorem keeps_unstopped (htakes : TakesAll write) (hread : ReadsAs view actions readAt) {data : Bytes}
    (hdata : data.length < UInt64.size) (c : FileCopy σ φ) (hc : c.Unstopped view actions data position count) :
    (c.round readAt write position count).Keeps (Unstopped view actions data position count)
      (Exhausted data position count) := by
  have hnext := hc.look hread hdata
  have hlooked := hc.looked hread
  have htotal := hc.2.2
  have hgoes := c.goes_round readAt write position count
  generalize c.round readAt write position count = round at hgoes ⊢
  cases hgoes with
  | reached hreached =>
    rw [UInt64.le_iff_toNat_le] at hreached
    exact ⟨c.total, rfl, by omega⟩
  | interrupted e hopen hlook he => exact hlooked
  | unread e hopen hlook he =>
    rcases hnext hopen with ⟨e', he', hi⟩ | ⟨n, -, hok⟩
    · rw [hlook] at he'
      cases he'
      rw [hi] at he
      cases he
    · rw [hlook] at hok
      cases hok
  | dry hopen hlook =>
    rcases hnext hopen with ⟨e, he, -⟩ | ⟨n, hn, hok⟩
    · rw [hlook] at he
      cases he
    · rw [hlook, Except.ok.injEq] at hok
      have hend := congrArg List.length hok
      rw [List.length_take, List.length_drop, List.length_nil] at hend
      exact ⟨c.total, rfl, by omega⟩
  | refused bytes e hopen hlook hsome hresult =>
    obtain ⟨written, htaken, -⟩ := htakes.eq_ok (length_le_windowSize_of_look hread.toReadsFrom hlook)
    rw [htaken] at hresult
    cases hresult
  | partly bytes written hopen hlook hsome hresult hpart =>
    obtain ⟨all, htaken, hlen⟩ := htakes.eq_ok (length_le_windowSize_of_look hread.toReadsFrom hlook)
    rw [htaken] at hresult
    cases hresult
    omega
  | wholly bytes written hopen hlook hsome hresult hwhole =>
    obtain ⟨all, htaken, hlen⟩ := htakes.eq_ok (length_le_windowSize_of_look hread.toReadsFrom hlook)
    rw [htaken] at hresult
    cases hresult
    obtain ⟨hsum, hcount⟩ := toNat_add_written hopen (length_le_of_look hread.toReadsFrom hlook) (Nat.le_of_eq hlen)
    rcases hnext hopen with ⟨e, he, -⟩ | ⟨n, -, hok⟩
    · rw [hlook] at he
      cases he
    · rw [hlook, Except.ok.injEq] at hok
      have hfits := congrArg List.length hok
      have hpos := List.length_pos_iff.2 hsome
      rw [List.length_take, List.length_drop] at hfits
      refine ⟨hlooked.1, hlooked.2.1, ?_⟩
      show (c.total + written).toNat ≤ _
      omega

/-- A copy that nothing stops comes to the count or to the end of the data. -/
theorem run_all {out : σ → Bytes} (hwrite : TakesWindows out write) (htakes : TakesAll write)
    (hread : ReadsAs view actions readAt) (sink : σ) (file : φ) (hdata : (view file).length < UInt64.size)
    (hactions : ∀ a ∈ actions file, a.GoesOn) (position count : UInt64) :
    Exhausted (view file) position count
      (run readAt write (rounds (actions file).length) sink file position count) := by
  have hstart : Unstopped view actions (view file) position count (⟨sink, file, 0, []⟩ : FileCopy σ φ) :=
    ⟨rfl, hactions, Nat.zero_le _⟩
  have hkept := Round.keeps_iterate (keeps_unstopped htakes hread hdata) (rounds (actions file).length) hstart
  rw [run_done hwrite hread sink file position count] at hkept
  exact hkept

end FileCopy

/-! ### Files -/

/-- Memory takes all. -/
theorem collect_takesAll : TakesAll collect := by
  intro stored bytes _
  have hchunk : (Source.ofBytes bytes).chunk = bytes := by
    cases bytes <;> simp [Source.chunk, Source.ofBytes, Source.ofChunks]
  simp [collect, hchunk, Outcome.ok]

/-- A relay reads what is behind it, through however many stages. -/
theorem relayRead_eq_slice {data : Bytes} (hdata : data.length < UInt64.size) (stages : Nat) (offset : UInt64)
    {size : Nat} (hsize : size < UInt64.size) : relayRead data stages offset size = slice data offset size := by
  induction stages generalizing offset size with
  | zero => rfl
  | succ stages ih =>
    have hbehind := readsFrom_relay data stages
    have hreads : ReadsAs (fun _ : Unit => data) (fun _ => [])
        fun _ offset size => (.ok (relayRead data stages offset size), ()) := by
      refine ⟨hbehind, fun _ _ _ => rfl, ?_, fun _ offset size _ hsize => congrArg Except.ok (ih offset hsize)⟩
      intro _ _ _ _ h
      cases h
    have hcount : (UInt64.ofNat size).toNat = size := UInt64.toNat_ofNat_of_lt' hsize
    obtain ⟨t, hresult, ht⟩ := FileCopy.run_all collect_takesWindows collect_takesAll hreads [] () hdata
      (fun _ h => absurd h List.not_mem_nil) offset (UInt64.ofNat size)
    obtain ⟨bytes, hout, hlen, -, hslice⟩ := FileCopy.run_arrived collect_takesWindows hbehind
      (FileCopy.rounds 0) [] () offset (UInt64.ofNat size)
    have hbytes : relayRead data (stages + 1) offset size = bytes := hout
    rw [show FileCopy.rounds 0 = FileCopy.rounds ([] : List ReadAction).length from rfl, hresult, counted_ok, ht,
      hcount] at hlen hslice
    rw [hbytes, hslice hdata, slice, slice, ← List.length_drop, ← List.take_eq_take_min]

/-- All files read as their actions tell. -/
theorem File.readsAs : ReadsAs File.data File.actions File.readAt := by
  refine ⟨File.readsFrom, ?_, ?_, ?_⟩
  · rintro (data | ⟨stages, data⟩ | ⟨data, actions, reads⟩) offset size <;> rfl
  · rintro (data | ⟨stages, data⟩ | ⟨data, actions, reads⟩) offset size e h
    · cases h
    · cases h
    · exact map_eq_error_iff.1 h
  · rintro (data | ⟨stages, data⟩ | ⟨data, actions, reads⟩) offset size hdata hsize
    · rfl
    · exact congrArg Except.ok (relayRead_eq_slice hdata stages offset hsize)
    · rfl

/-! ### Copies to a recorded sink -/

/-- A recorded sink writes as honestly as the sink. -/
theorem HonestWrite.recorded {σ : Type} {S : Sink σ} {out : σ → Bytes} (h : HonestWrite out S.write) :
    HonestWrite (fun sink => out sink.1) S.recorded.write :=
  fun sink src => h sink.1 src

/-- A recorded sink takes all if the sink does. -/
theorem TakesAll.recorded {σ : Type} {S : Sink σ} (h : TakesAll S.write) : TakesAll S.recorded.write :=
  fun sink bytes hle => h sink.1 bytes hle

/-- All that was heard are writes of some bytes, at most a window of them. -/
def InWindows (heard : List Call) : Prop :=
  ∀ call ∈ heard, ∃ bytes : Bytes, call = .write (.ofBytes bytes) ∧ bytes ≠ [] ∧ bytes.length ≤ windowSize

namespace FileCopy

variable {σ φ : Type} {S : Sink σ} {view : φ → Bytes} {readAt : ReadFrom φ} {position count : UInt64}

theorem inWindows_wrote (hread : ReadsFrom view readAt) {c : FileCopy (σ × List Call) φ} (hc : InWindows c.sink.2)
    {bytes : Bytes} (hlook : (c.look readAt position count).1 = .ok bytes) (hsome : bytes ≠ []) :
    InWindows (S.recorded.write c.sink (.ofBytes bytes)).state.1.2 := by
  intro call hcall
  rcases List.mem_append.1 hcall with hcall | hcall
  · exact hc call hcall
  · exact ⟨bytes, List.mem_singleton.1 hcall, hsome, length_le_windowSize_of_look hread hlook⟩

/-- A copy writes in windows. -/
theorem keeps_inWindows (hread : ReadsFrom view readAt) (c : FileCopy (σ × List Call) φ) (hc : InWindows c.sink.2) :
    (c.round readAt S.recorded.write position count).Keeps (fun next => InWindows next.sink.2)
      fun reply => InWindows reply.state.1.2 := by
  have hgoes := c.goes_round readAt S.recorded.write position count
  generalize c.round readAt S.recorded.write position count = round at hgoes ⊢
  cases hgoes with
  | refused bytes e hopen hlook hsome hresult => exact inWindows_wrote hread hc hlook hsome
  | partly bytes written hopen hlook hsome hresult hpart => exact inWindows_wrote hread hc hlook hsome
  | wholly bytes written hopen hlook hsome hresult hwhole => exact inWindows_wrote hread hc hlook hsome
  | _ => exact hc

/-- The offset of the next read of a copy does not wrap. -/
theorem OnCourse.offset_lt {out : σ → Bytes} {start data : Bytes} {c : FileCopy σ φ} (hdata : data.length < UInt64.size)
    (hc : c.OnCourse out start data position count view) :
    position.toNat + c.total.toNat < UInt64.size := by
  obtain ⟨-, bytes, -, hlen, -, hslice⟩ := hc
  have hposition := position.toNat_lt_size
  rw [hslice hdata, slice, List.length_take, List.length_drop] at hlen
  omega

end FileCopy

/-- **A copy from a file is exact, and ends.** It is over within the rounds that it is allowed, and in none of them the
offset wraps. It writes in windows. If it succeeds, the sink has taken the bytes of the file from the position on, as
many as the copy counts, and no more than it was asked for. It counts fewer only if a read gave nothing, a write was
partial, or one of them failed after some bytes were accepted. If it fails, the sink has taken nothing. If the sink
takes all and the reads go on, it comes to the count or to the end of the data. -/
theorem copyFile_exact {σ : Type} {S : Sink σ} {out : σ → Bytes} (hwrite : HonestWrite out S.write) (sink : σ)
    {file : File} (hdata : file.data.length < UInt64.size) (position count : UInt64) :
    let round := FileCopy.round File.readAt S.recorded.write position count
    let start : FileCopy (σ × List Call) File := ⟨(sink, []), file, 0, []⟩
    let reply := copyFile S.recorded.write (sink, []) file position count
    Round.iterate round (FileCopy.rounds file.actions.length) start = .done reply ∧
      (∀ n c, Round.iterate round n start = .again c → position.toNat + c.total.toNat < UInt64.size) ∧
      InWindows reply.state.1.2 ∧
      (∀ t, reply.result = .ok t →
        t ≤ count ∧ out reply.state.1.1 = out sink ++ slice file.data position t.toNat ∧
          (slice file.data position t.toNat).length = t.toNat ∧
          (t < count → ∃ n c, Round.iterate round n start = .again c ∧
            c.StopsShort File.readAt S.recorded.write position count t)) ∧
      (∀ e, reply.result = .error e → out reply.state.1.1 = out sink) ∧
      (TakesAll S.write → (∀ a ∈ file.actions, a.GoesOn) →
        ∃ t, reply.result = .ok t ∧ t.toNat = min count.toNat (file.data.length - position.toNat)) := by
  intro round start reply
  have htakes := hwrite.recorded.takesWindows
  have hdone : Round.iterate round (FileCopy.rounds file.actions.length) start = .done reply :=
    FileCopy.run_done htakes File.readsAs (sink, []) file position count
  obtain ⟨bytes, hput, hle, hslice⟩ := copyFile_honest hwrite.recorded (sink, []) file position count
  have hcourse : start.OnCourse (fun sink => out sink.1) (out sink) file.data position count File.data :=
    ⟨rfl, [], by simp [start], rfl, Nat.zero_le _, fun _ => rfl⟩
  refine ⟨hdone, ?_, ?_, ?_, ?_, ?_⟩
  · intro n c hc
    have hkept := Round.keeps_iterate (FileCopy.keeps_round htakes File.readsFrom) n hcourse
    rw [hc] at hkept
    exact hkept.offset_lt hdata
  · have hquiet : InWindows start.sink.2 := fun _ h => absurd h List.not_mem_nil
    have hkept : (Round.iterate round (FileCopy.rounds file.actions.length) start).Keeps _ fun reply =>
        InWindows reply.state.1.2 :=
      Round.keeps_iterate (FileCopy.keeps_inWindows File.readsFrom) _ hquiet
    rw [hdone] at hkept
    exact hkept
  · intro t ht
    have hcount : bytes.length = t.toNat := by rw [hput.2, ht, counted_ok]
    rw [hcount] at hle hslice
    rw [hslice hdata] at hput hcount
    refine ⟨UInt64.le_iff_toNat_le.2 hle, hput.1, hcount, fun hlt => ?_⟩
    obtain ⟨n, c, hc, hlast⟩ := Round.exists_last hdone
    exact ⟨n, c, hc, FileCopy.stopsShort_of_done hlast ht hlt⟩
  · intro e he
    have hout := hput.1
    rw [hput.eq_nil he, List.append_nil] at hout
    exact hout
  · intro hall hactions
    exact FileCopy.run_all htakes hall.recorded File.readsAs (sink, []) file hdata hactions position count

/-- A file whose first read is interrupted, and whose second read is short. -/
def haltingFile : File :=
  .scripted [1, 2, 3, 4, 5, 6] [.fail (.plain .interrupted), .cap 1] []

/-- The third read finds four bytes, of which a tank takes two. -/
theorem copyFile_exact_tank :
    HonestWrite (fun o : Outlet Bytes => o.device) tank.sink.write ∧ haltingFile.data.length < UInt64.size ∧
      let reply := copyFile tank.sink.recorded.write (.ofDevice [], []) haltingFile 1 5
      reply.result = .ok 3 ∧ reply.state.1.1.device = [2, 3, 4] ∧
        ∃ n c, Round.iterate (FileCopy.round File.readAt tank.sink.recorded.write 1 5) n
            ⟨(.ofDevice [], []), haltingFile, 0, []⟩ = .again c ∧
          c.StopsShort File.readAt tank.sink.recorded.write 1 5 3 := by
  have hwrite : HonestWrite (fun o : Outlet Bytes => o.device) tank.sink.write := tank_honest.write_outlet
  have hdata : haltingFile.data.length < UInt64.size := by decide
  have hresult : (copyFile tank.sink.recorded.write (.ofDevice [], []) haltingFile 1 5).result = .ok 3 := by
    rfl
  have hexact := copyFile_exact hwrite (.ofDevice []) hdata 1 5
  obtain ⟨-, hout, -, hstops⟩ := hexact.2.2.2.1 3 hresult
  exact ⟨hwrite, hdata, hresult, hout, hstops (by decide)⟩

end ExactLength
