import ExactLength.Proofs.Sink.Plain

/-!
# Honest bases

From the operations of an honest base to its calls. The outlet of an honest device is an honest sink: what it
gathers from several sources is the front of what they hold (`Outlet.gather_prefix`), and the bytes that the device
took are spread over the sources as if they had been taken one after the other (`Outlet.map_bytes_spread`). An error
that only means "not yet" comes back as a count of nothing, and nothing was taken.

Hence every honest base carries out its calls honestly, `Sink.HonestBase.honest`.
-/

namespace ExactLength

/-! ### Outlets -/

theorem counted_orNotYet (result : Except IoError UInt64) : counted (orNotYet 0 result) = taken result := by
  rcases result with e | n
  · by_cases h : e.isRetryable <;> simp [orNotYet, taken, h]
  · rfl

namespace Outlet

theorem gather_prefix (sources : List Source) : (gather sources).flatten <+: Source.joined sources := by
  induction sources with
  | nil => exact List.nil_prefix
  | cons src rest ih =>
    rw [gather, Source.joined_cons]
    have hchunk : src.chunk <+: src.bytes := ⟨_, src.bytes_eq_chunk_append.symm⟩
    split
    · next hempty =>
      rw [src.isEmpty_iff.1 hempty]
      exact ih
    · split
      · simpa using hchunk.trans (List.prefix_append _ _)
      · next hwhole =>
        have heq : src.chunk = src.bytes := hchunk.eq_of_length_le (Nat.le_of_not_lt hwhole)
        rw [List.flatten_cons, heq]
        exact (List.prefix_append_right_inj _).2 ih

/-- What was gathered is taken from the sources in order. -/
theorem map_bytes_spread {n : Nat} {sources : List Source} (h : n ≤ (gather sources).flatten.length) :
    (spread n sources).map Source.bytes = (Source.advanceAll n sources).map Source.bytes := by
  induction sources generalizing n with
  | nil => rfl
  | cons src rest ih =>
    rw [gather] at h
    rw [spread, Source.advanceAll]
    split
    · next hzero => simp [hzero]
    · have hchunk := src.chunk_length_le
      simp only [List.map_cons, Source.bytes_advance]
      split at h
      · next hempty =>
        have hnil := src.isEmpty_iff.1 hempty
        have hlen : src.remaining = 0 := by rw [Source.remaining, hnil, List.length_nil]
        have hstep : min n src.chunk.length = 0 := by omega
        rw [hstep, hlen, Nat.sub_zero, ih h, hnil, List.drop_nil, List.drop_nil]
      · split at h
        · next hpart =>
          -- a source that is not shown whole is the last one that is offered
          rw [List.flatten_singleton] at h
          have hstep : min n src.chunk.length = n := Nat.min_eq_left h
          have hlen : n - src.remaining = 0 := by omega
          rw [hstep, hlen, Nat.sub_self, Source.advanceAll_zero]
          cases rest <;> rfl
        · rw [List.flatten_cons, List.length_append] at h
          have hwhole : src.chunk.length = src.remaining := by omega
          rw [hwhole, show n - min n src.remaining = n - src.remaining by omega, ih (by omega)]
          congr 1
          rcases Nat.le_total n src.remaining with hle | hle
          · rw [Nat.min_eq_left hle]
          · rw [Nat.min_eq_right hle, List.drop_eq_nil_of_le (by exact Nat.le_refl _), List.drop_eq_nil_of_le hle]

end Outlet

namespace Device.Honest

variable {ω : Type} {D : Device ω} {out : ω → Bytes}

/-- An outlet of an honest device writes honestly. -/
theorem write_outlet (h : D.Honest out) : HonestWrite (fun o : Outlet ω => out o.device) D.sink.write := by
  intro o src
  show ∃ bytes, Appends _ o bytes (Outlet.write D o src) ∧ _ = bytes ++ (Outlet.write D o src).state.2.bytes
  unfold Outlet.write
  split
  · exact ⟨[], ⟨by simp [Outcome.ok], rfl⟩, rfl⟩
  · split
    · exact ⟨[], ⟨by simp [Outcome.error], rfl⟩, rfl⟩
    · obtain ⟨hle, hout⟩ := h.write o.device src.chunk
      refine ⟨_, ⟨hout, ?_⟩, ?_⟩
      · rw [List.length_take, Nat.min_eq_left hle, counted_orNotYet]
      · dsimp only
        have hfront : src.chunk.take (taken (D.write o.device src.chunk).1) =
            src.bytes.take (taken (D.write o.device src.chunk).1) := by
          rw [src.bytes_eq_chunk_append, List.take_append_of_le_length hle]
        rw [hfront, Source.bytes_advance, List.take_append_drop]

/-- A write of several sources through an outlet of an honest device takes from the front of them, however much they
hold. -/
theorem gives_writeMany (h : D.Honest out) (o : Outlet ω) (sources : List Source) :
    ∃ bytes, Appends (fun o : Outlet ω => out o.device) o bytes (D.sink.writeMany o sources) ∧
      Source.Gives sources bytes (D.sink.writeMany o sources).state.2 := by
  show ∃ bytes, Appends _ o bytes (Outlet.writeMany D o sources) ∧
    Source.Gives sources bytes (Outlet.writeMany D o sources).state.2
  unfold Outlet.writeMany
  split
  · exact ⟨[], ⟨by simp [Outcome.error], rfl⟩, Source.gives_nil sources⟩
  · split
    · exact ⟨[], ⟨by simp [Outcome.ok], rfl⟩, Source.gives_nil sources⟩
    · obtain ⟨hle, hout⟩ := h.writeMany o.device (Outlet.gather sources)
      have hlen := List.length_take_of_le hle
      refine ⟨_, ⟨hout, ?_⟩, (List.take_prefix _ _).trans (Outlet.gather_prefix sources), ?_⟩
      · rw [hlen, counted_orNotYet]
      · rw [hlen]
        exact Outlet.map_bytes_spread hle

/-- An outlet of an honest device writes several sources honestly. -/
theorem writeMany_outlet (h : D.Honest out) : HonestMany (fun o : Outlet ω => out o.device) D.sink.writeMany :=
  fun o sources _ => h.gives_writeMany o sources

/-- What does not write leaves the output of the device alone. -/
theorem quiet_outlet (h : D.Honest out) : D.sink.Quiet fun o => out o.device := by
  refine ⟨fun o => h.flush o.device, fun o => ?_, fun _ => rfl, fun _ => rfl, fun _ => rfl, fun _ _ => rfl⟩
  show out (Outlet.terminate D o).state.device = out o.device
  unfold Outlet.terminate
  split
  · rfl
  · exact h.flush o.device

end Device.Honest

/-- Takes at most two bytes at a time into a tank that fails once it holds four. -/
def pourInto (stored run : Bytes) : Except IoError UInt64 × Bytes :=
  if stored.length < 4 then (.ok (UInt64.ofNat (min 2 run.length)), stored ++ run.take 2)
  else (.error (.plain .outOfMemory), stored)

/-- A small tank. -/
def tank : Device Bytes where
  write := pourInto
  writeMany stored runs := pourInto stored runs.flatten
  flush stored := (.ok (), stored)

theorem tank_honest : tank.Honest id := by
  have hpour (stored run : Bytes) : taken (pourInto stored run).1 ≤ run.length ∧
      (pourInto stored run).2 = stored ++ run.take (taken (pourInto stored run).1) := by
    unfold pourInto
    split
    · have hmin : (UInt64.ofNat (min 2 run.length)).toNat = min 2 run.length :=
        UInt64.toNat_ofNat_of_lt' (Nat.lt_of_le_of_lt (Nat.min_le_left _ _) (by decide))
      simp only [taken, hmin]
      exact ⟨Nat.min_le_right _ _, by rw [List.take_eq_take_min]⟩
    · simp [taken]
  exact ⟨fun stored run => hpour stored run, fun stored runs => hpour stored runs.flatten, fun _ => rfl⟩

/-! ### Calls of a base -/

namespace Sink

variable {σ : Type} {S : Sink σ} {out : σ → Bytes}

/-- A transfer from a file delivers, whether the base has its own or the plain one. -/
theorem delivers_transferFile (hwrite : HonestWrite out S.write)
    (h : S.transferFile = copyFile S.write ∨ HonestFile out S.transferFile) (sink : σ) (file : File)
    (position count : UInt64) : S.Delivers out S.PlainTransfers sink (.transferFile file position count) := by
  by_cases hplain : S.transferFile = copyFile S.write
  · obtain ⟨bytes, hput, hle, hslice⟩ := copyFile_honest hwrite sink file position count
    rw [← hplain] at hput
    exact delivers_of_appends (.transferFile · position count) rfl hput ⟨rfl, rfl, hle, fun _ => hslice⟩
  · obtain ⟨bytes, hput, hle⟩ := (h.resolve_left hplain) sink file position count
    refine delivers_of_appends (.transferFile · position count) rfl hput ⟨rfl, rfl, hle, ?_⟩
    rintro (⟨hfile, -⟩ | ⟨e, he⟩) -
    · exact absurd hfile hplain
    · rw [hput.eq_nil he]
      rfl

/-- A transfer from a stream delivers, whether the base has its own or the plain one. -/
theorem delivers_transferStream (hwrite : HonestWrite out S.write)
    (h : S.transferStream = StreamCopy.run S.write ∨ HonestStream out S.transferStream) (sink : σ) (reader : Reader)
    (count : UInt64) (through : Bytes) :
    S.Delivers out S.PlainTransfers sink (.transferStream reader count through) := by
  by_cases hplain : S.transferStream = StreamCopy.run S.write
  · obtain ⟨bytes, hput, hle, hall⟩ := copyStream_honest hwrite sink reader count through
    rw [← hplain] at hput hall
    exact delivers_of_appends (fun back => .transferStream back.1 count back.2) rfl hput ⟨rfl, hle, fun _ => hall⟩
  · obtain ⟨bytes, hput, hle, hkept⟩ := (h.resolve_left hplain) sink reader count through
    refine delivers_of_appends (fun back => .transferStream back.1 count back.2) rfl hput ⟨rfl, hle, ?_⟩
    rintro (⟨-, hstream⟩ | ⟨e, he⟩)
    · exact absurd hstream hplain
    · rw [hput.eq_nil he]
      exact (hkept e he).symm

/-- The calls of a base with honest operations. -/
theorem honest_of_operations (hwrite : HonestWrite out S.write)
    (hmany : S.writeMany = writeEach S.write ∨ HonestMany out S.writeMany)
    (hfile : S.transferFile = copyFile S.write ∨ HonestFile out S.transferFile)
    (hstream : S.transferStream = StreamCopy.run S.write ∨ HonestStream out S.transferStream)
    (hquiet : S.Quiet out) : S.Honest out S.PlainTransfers := by
  intro sink call hlast hfits
  cases call with
  | writeLast src => cases hlast
  | writeManyLast sources => cases hlast
  | write src =>
    obtain ⟨bytes, hput, hsrc⟩ := hwrite sink src
    exact delivers_of_appends .write rfl hput hsrc
  | writeMany sources =>
    have hhonest : HonestMany out S.writeMany := by
      rcases hmany with hplain | hown
      · rw [hplain]
        exact writeEach_honest hwrite
      · exact hown
    obtain ⟨bytes, hput, hgives⟩ := hhonest sink sources hfits
    exact delivers_of_appends .writeMany rfl hput hgives
  | transferFile file position count => exact delivers_transferFile hwrite hfile sink file position count
  | transferStream reader count through => exact delivers_transferStream hwrite hstream sink reader count through
  | flush => exact delivers_nothing (hquiet.flush sink) (credited_map_flag _) rfl
  | isResumed => exact delivers_nothing (hquiet.isResumed sink) rfl rfl
  | wake => exact delivers_nothing (hquiet.wake sink) rfl rfl
  | wait milliseconds => exact delivers_nothing (hquiet.wait sink milliseconds) (credited_map_ofUnit _) rfl
  | terminate => exact delivers_nothing (hquiet.terminate sink) (credited_map_ofUnit _) rfl
  | truncate => exact delivers_nothing (hquiet.truncate sink) (credited_map_ofUnit _) rfl

/-- **An honest base carries out its calls honestly**, and its transfers exactly if they are the plain ones. -/
theorem HonestBase.honest (h : S.HonestBase out) : S.Honest out S.PlainTransfers := by
  cases h with
  | sink hwrite hmany hfile hstream hquiet => exact honest_of_operations hwrite hmany hfile hstream hquiet
  | outlet hdevice =>
    exact honest_of_operations hdevice.write_outlet (Or.inr hdevice.writeMany_outlet) (Or.inl rfl) (Or.inl rfl)
      hdevice.quiet_outlet

end Sink

end ExactLength
