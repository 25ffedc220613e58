import ExactLength.Proofs.Gate.Offer
import ExactLength.Proofs.Sink.Gathering
import ExactLength.Proofs.Stack.Delivery

/-!
# Sources that count for none

A gate adds up what several sources hold in sixty-four bits. Sources that hold a multiple of `2 ^ 64` bytes together
count for none, and a gate of which no shutdown was requested passes them on however little remains, also once its
cycle is over. A gate that owes nothing stays as it is, whatever is reported of them.

So a stack of such gates does with these sources what its base does, and no gate learns of it
(`Stack.perform_of_uncounted`). That is why what other modules say of gates that owe nothing, they say of sources that
can be counted.
-/

namespace ExactLength

theorem Budget.spend_of_nothing {b : Budget} (h : b.remaining = 0) (n : UInt64) : b.spend n = b := by
  have hnothing : (b.spend n).remaining = b.remaining := by
    rw [← UInt64.toNat_inj, toNat_remaining_spend, h]
    exact Nat.zero_sub _
  exact congrArg (fun remaining => { b with remaining := remaining }) hnothing

namespace Gate

/-- Nothing remains, and no shutdown was requested. The cycle may be over or not. -/
structure Spent (g : Gate) : Prop where
  /-- No shutdown was requested. -/
  closing : g.budget.closing = false
  /-- Nothing remains. -/
  remaining : g.budget.remaining = 0

namespace Spent

variable {g : Gate} (h : g.Spent)

include h

theorem spend (n : UInt64) : g.spend n = g := by
  unfold Gate.spend
  rw [Budget.spend_of_nothing h.remaining]

/-- A gate that owes nothing learns nothing from what becomes of a write. -/
theorem learn (sources : List Source) (result : Except SinkError Yield) :
    g.learn (.writeMany sources) result = g := by
  rcases result with e | _ | n | _
  · rfl
  · rfl
  · exact h.spend n
  · rfl

/-- A gate that owes nothing passes on what counts for none. -/
theorem plan {sources : List Source} (hmany : 2 ≤ sources.length)
    (hnone : (Source.joined sources).length % UInt64.size = 0) :
    g.plan (.writeMany sources) = .pass (.writeMany sources) none := by
  have hroom : g.hasRoom 0 = true := (hasRoom_iff_of_open h.closing 0).2 (Nat.zero_le _)
  rw [g.plan_writeMany hmany, hnone, if_pos hroom]

end Spent

end Gate

/-- **What counts for none passes.** A stack of gates that owe nothing, and of which no shutdown was requested, does with
sources that count for none what its base does with them. All gates are as they were. -/
theorem Stack.perform_of_uncounted {σ : Type} (S : Sink σ) {n : Nat} {s : Stack σ n} (hspent : ∀ g ∈ s.gates, g.Spent)
    {sources : List Source} (hmany : 2 ≤ sources.length)
    (hnone : (Source.joined sources).length % UInt64.size = 0) :
    let call : Call := .writeMany sources
    ((S.stacked n).perform s call).result = (S.perform s.base call).result ∧
      ((S.stacked n).perform s call).state =
        (s.mapBase fun b => (S.perform b call).state.1, (S.perform s.base call).state.2) := by
  intro call
  induction n with
  | zero => exact ⟨rfl, rfl⟩
  | succ n ih =>
    obtain ⟨gate, below, rfl⟩ := s.exists_push
    rw [gates_push, List.forall_mem_cons] at hspent
    obtain ⟨hgate, hbelow⟩ := hspent
    obtain ⟨hresult, hstate⟩ := ih hbelow
    obtain ⟨hresult', hstate'⟩ := perform_push_pass S rfl (hgate.plan hmany hnone) below
    refine ⟨hresult'.trans hresult, ?_⟩
    rw [hstate', hstate]
    exact Prod.ext (congrArg (push · _) (hgate.learn sources _)) rfl

/-! ### Four quarters of `2 ^ 64` -/

/-- Four runs of the same length. -/
def fourRuns (size : Nat) : List Bytes :=
  List.replicate 4 (List.replicate size 0)

theorem length_flatten_fourRuns (size : Nat) : (fourRuns size).flatten.length = 4 * size := by
  rw [fourRuns, List.length_flatten, List.map_replicate, List.length_replicate, List.sum_replicate_nat]

/-- Four runs of a quarter of `2 ^ 64` bytes. -/
def quarters : List Bytes :=
  fourRuns (UInt64.size / 4)

theorem length_flatten_quarters : quarters.flatten.length = UInt64.size :=
  length_flatten_fourRuns _

/-- The quarters count for none. -/
theorem length_flatten_quarters_mod : quarters.flatten.length % UInt64.size = 0 := by
  rw [length_flatten_quarters, Nat.mod_self]

theorem length_of_mem_quarters {run : Bytes} (h : run ∈ quarters) : run.length = UInt64.size / 4 := by
  rw [quarters] at h
  rw [List.eq_of_mem_replicate h, List.length_replicate]

theorem ne_nil_of_mem_quarters {run : Bytes} (h : run ∈ quarters) : run ≠ [] := by
  rintro rfl
  have hempty : 0 = UInt64.size / 4 := length_of_mem_quarters h
  exact absurd hempty (by decide)

theorem quarters_ne_nil : quarters ≠ [] :=
  List.cons_ne_nil _ _

theorem length_joined_quarters : (Source.joined (quarters.map .ofBytes)).length = UInt64.size := by
  rw [Source.joined_map_ofBytes, length_flatten_quarters]

theorem two_le_length_quarters : 2 ≤ (quarters.map Source.ofBytes).length := by
  rw [List.length_map, quarters, fourRuns, List.length_replicate]
  decide

theorem length_joined_quarters_mod : (Source.joined (quarters.map .ofBytes)).length % UInt64.size = 0 := by
  rw [length_joined_quarters, Nat.mod_self]

/-- A tank that is not full takes two bytes of the quarters. -/
theorem pourInto_quarters {stored : Bytes} (h : stored.length < 4) :
    pourInto stored quarters.flatten = (.ok 2, stored ++ [0, 0]) := by
  have hflat : quarters.flatten = List.replicate (4 * (UInt64.size / 4)) 0 := List.flatten_replicate_replicate
  have hmin : min 2 quarters.flatten.length = 2 := by
    rw [length_flatten_quarters]
    decide
  have htake : quarters.flatten.take 2 = [0, 0] := by
    rw [hflat, List.take_replicate]
    rfl
  rw [pourInto, if_pos h, hmin, htake]
  rfl

/-- Runs that hold something are gathered as they are. -/
theorem Outlet.gather_map_ofBytes {runs : List Bytes} (h : ∀ run ∈ runs, run ≠ []) :
    gather (runs.map .ofBytes) = runs := by
  induction runs with
  | nil => rfl
  | cons run rest ih =>
    obtain ⟨hrun, hrest⟩ := List.forall_mem_cons.1 h
    have hchunks : (Source.ofBytes run).chunks = [run] := by simp [Source.ofBytes, Source.ofChunks, hrun]
    have hlive : (Source.ofBytes run).isEmpty = false := by rw [Source.isEmpty, hchunks]; rfl
    have hchunk : (Source.ofBytes run).chunk = run := by rw [Source.chunk, hchunks]; rfl
    rw [List.map_cons, gather, hlive, hchunk, Source.remaining_ofBytes, ih hrest, if_neg Bool.false_ne_true,
      if_neg (Nat.lt_irrefl _)]

/-- An open outlet offers its device such runs as they are. -/
theorem Device.perform_map_ofBytes {ω : Type} (D : Device ω) (device : ω) {runs : List Bytes} (hsome : runs ≠ [])
    (hruns : ∀ run ∈ runs, run ≠ []) :
    let reply := D.sink.perform (.ofDevice device) (.writeMany (runs.map .ofBytes))
    reply.result = (orNotYet 0 (D.writeMany device runs).1).map .count ∧
      reply.state.1 = .ofDevice (D.writeMany device runs).2 := by
  have hgather := Outlet.gather_map_ofBytes hruns
  have hwrite := Outlet.writeMany_of_gather D (o := .ofDevice device) rfl (hgather.symm ▸ hsome)
  rw [hgather] at hwrite
  refine ⟨congrArg (fun reply => reply.result.map Yield.count) hwrite, ?_⟩
  exact congrArg (fun reply => reply.state.1) hwrite

/-- The outlet of a tank that is not full takes two bytes of the quarters. -/
theorem perform_quarters_tank {stored : Bytes} (h : stored.length < 4) :
    let reply := tank.sink.perform (.ofDevice stored) (.writeMany (quarters.map .ofBytes))
    reply.result = .ok (.count 2) ∧ reply.state.1 = .ofDevice (stored ++ [0, 0]) := by
  have hpour : tank.writeMany stored quarters = (.ok 2, stored ++ [0, 0]) := pourInto_quarters h
  obtain ⟨hresult, hstate⟩ := tank.perform_map_ofBytes stored quarters_ne_nil fun _ => ne_nil_of_mem_quarters
  rw [hpour] at hresult hstate
  exact ⟨hresult, hstate⟩

end ExactLength
