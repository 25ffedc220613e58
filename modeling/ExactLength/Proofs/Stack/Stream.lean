import ExactLength.Proofs.Stack.Accounting
import ExactLength.Proofs.Stack.Admission

/-!
# Streams into a stack

A stack that is fed from a stream, transfer by transfer, through one buffer. The base has an honest write and the
plain transfer. What a transfer reads from the stream and does not get written stays in the buffer, so the output,
the buffer and what is not read yet make up the stream at any time. Nor is more read than may still be written: each
transfer is cut to the least that remains at the gates before anything is read, and what a copy has accepted and what
is in its buffer stay within any bound on the count and on the buffer at its start (`StreamCopy.run_within`).

`Feed.Delivered` is what is kept, by one transfer (`Feed.delivered_transfer`) and so by any number. The main statement
is `Stack.stream_kept`.
-/

namespace ExactLength

variable {σ : Type} {S : Sink σ} {out : σ → Bytes} {write : Write σ}

/-! ### Copies within a bound -/

namespace StreamCopy

/-- What was accepted so far and what is in the buffer are within a bound. -/
def Within (bound : Nat) (c : StreamCopy σ) : Prop :=
  c.total.toNat + c.through.length ≤ bound

/-- What a reply counts and what is left in the buffer are within a bound. -/
def EndsWithin (bound : Nat) (reply : Reply (σ × Reader × Bytes) UInt64) : Prop :=
  counted reply.result + reply.state.2.2.length ≤ bound

/-- What is moved leaves the buffer for the total. -/
theorem Within.moved {bound : Nat} {c : StreamCopy σ} (hc : c.Within bound) {bytes : Bytes} {sink : σ}
    {reader : Reader} {through : Bytes} {n : Nat} (h : Moved out c bytes sink reader through n) :
    n + through.length ≤ bound := by
  unfold Within at hc
  rw [h.through, List.length_append] at hc
  rw [h.total]
  omega

/-- What is read fills an empty buffer with no more than is still to be transferred. -/
theorem keeps_within (hwrite : HonestWrite out write) {bound : Nat} {count : UInt64} (hcount : count.toNat ≤ bound)
    (c : StreamCopy σ) (hc : c.Within bound) : (c.round write count).Keeps (Within bound) (EndsWithin bound) := by
  refine keeps_round ?_ ?_ ?_ ?_ ?_ c hc
  · intro c bytes _ _ hgot hopen
    have hread := Reader.length_le_of_read_ok hgot
    have hleft : (count - c.total).toNat = count.toNat - c.total.toNat :=
      UInt64.toNat_sub_of_le _ _ (UInt64.le_of_lt hopen)
    have hlt := UInt64.lt_iff_toNat_lt.1 hopen
    unfold window at hread
    show c.total.toNat + bytes.length ≤ bound
    omega
  · intro c e hc _
    exact hc
  · intro c hc
    exact hc
  · intro c e hc
    unfold EndsWithin
    rw [counted_fail]
    exact hc
  · intro c hc hopen
    obtain ⟨bytes, -, hmoved⟩ := exists_moved_of_pour hwrite hopen
    exact hmoved.mono (fun _ h => hc.moved h) fun _ h => hc.moved h

/-- A copy that starts within a bound ends within it. -/
theorem run_within (hwrite : HonestWrite out write) {bound : Nat} (sink : σ) (reader : Reader) {count : UInt64}
    (hcount : count.toNat ≤ bound) {through : Bytes} (hthrough : through.length ≤ bound) :
    EndsWithin bound (run write sink reader count through) := by
  have hstart : Within bound (⟨sink, reader, through, 0, []⟩ : StreamCopy σ) := by
    show 0 + through.length ≤ bound
    omega
  exact (Round.keeps_iterate (keeps_within hwrite hcount) _ hstart).resultD fun _ hc => hc

end StreamCopy

/-! ### Transfers from one stream -/

/-- How many bytes may still pass at each gate. -/
def Stack.room {n : Nat} (s : Stack σ n) : List Nat :=
  s.gates.map fun g => g.budget.remaining.toNat

/-- A transfer for which all gates have room is one of the base, cut to the least that remains. -/
theorem Stack.transferStream_of_room (S : Sink σ) {n : Nat} (s : Stack σ n) (reader : Reader) {count : UInt64}
    (hcount : count ≠ 0) (through : Bytes) (hroom : ∀ g ∈ s.gates, g.hasRoom 1 = true) :
    let below := S.transferStream s.base reader (Gate.cap s.gates count) through
    let reply := (S.stacked n).transferStream s reader count through
    reply.state.1.base = below.state.1 ∧ reply.state.2 = below.state.2 ∧
      reply.state.1.room = s.room.map (· - counted below.result) := by
  intro below reply
  have hoffer : (Call.transferStream reader count through).IsOffer := hcount
  obtain ⟨-, hgates, hbase, hback⟩ := s.perform_offer_of_room S hoffer hroom
  refine ⟨hbase, ?_, ?_⟩
  · injection hback with hreader _ hthrough
    exact Prod.ext hreader hthrough
  · have hspent : reply.state.1.gates = s.gates.map _ := hgates
    unfold room
    rw [hspent, List.map_map, List.map_map]
    refine List.map_congr_left fun g _ => ?_
    exact (g.remaining_learn_hear _ _).trans (congrArg _ (credited_map_count _))

/-- A stack that is fed from a stream through a buffer. -/
structure Feed (σ : Type) (n : Nat) where
  /-- The stack. -/
  stack : Stack σ n
  /-- The stream. -/
  reader : Reader
  /-- The buffer. -/
  through : Bytes

namespace Feed

variable {n : Nat}

/-- One transfer of up to a count of bytes. -/
def transfer (S : Sink σ) (f : Feed σ n) (count : UInt64) : Feed σ n :=
  let reply := (S.stacked n).transferStream f.stack f.reader count f.through
  ⟨reply.state.1, reply.state.2.1, reply.state.2.2⟩

/-- A number of transfers. -/
def transfers (S : Sink σ) (f : Feed σ n) (counts : List UInt64) : Feed σ n :=
  counts.foldl (transfer S) f

/-- Bytes were delivered between two states of a feed. -/
structure Delivered (out : σ → Bytes) (f : Feed σ n) (bytes : Bytes) (f' : Feed σ n) : Prop where
  /-- They are at the end of the output. -/
  output : out f'.stack.base = out f.stack.base ++ bytes
  /-- They are the first of those on the way, and the others still are. -/
  onTheWay : f.through ++ f.reader.unread = bytes ++ (f'.through ++ f'.reader.unread)
  /-- They are taken from what may pass at each gate. -/
  room : f'.stack.room.map (· + bytes.length) = f.stack.room
  /-- A buffer that all gates let through stays one. -/
  fits : (∀ r ∈ f.stack.room, f.through.length ≤ r) → ∀ r ∈ f'.stack.room, f'.through.length ≤ r

namespace Delivered

theorem nothing (out : σ → Bytes) (f : Feed σ n) : Delivered out f [] f where
  output := (List.append_nil _).symm
  onTheWay := rfl
  room := List.map_id _
  fits := id

theorem trans {f f' f'' : Feed σ n} {first rest : Bytes} (h : Delivered out f first f')
    (h' : Delivered out f' rest f'') : Delivered out f (first ++ rest) f'' where
  output := by rw [h'.output, h.output, List.append_assoc]
  onTheWay := by rw [h.onTheWay, h'.onTheWay, List.append_assoc]
  room := by
    rw [← h.room, ← h'.room, List.map_map]
    congr 1
    funext r
    rw [List.length_append, Function.comp_apply]
    omega
  fits := h'.fits ∘ h.fits

/-- No more is delivered than may pass at any gate. -/
theorem length_le {f f' : Feed σ n} {bytes : Bytes} (h : Delivered out f bytes f') {r : Nat}
    (hr : r ∈ f.stack.room) : bytes.length ≤ r := by
  rw [← h.room] at hr
  obtain ⟨r', -, rfl⟩ := List.mem_map.1 hr
  exact Nat.le_add_left _ _

end Delivered

/-- A transfer that reaches the base is a copy of no more bytes than may pass at any gate. -/
theorem delivered_of_room (hwrite : HonestWrite out S.write) (hplain : S.transferStream = StreamCopy.run S.write)
    (f : Feed σ n) {count : UInt64} (hcount : count ≠ 0) (hroom : ∀ g ∈ f.stack.gates, g.hasRoom 1 = true) :
    ∃ bytes, bytes.length ≤ count.toNat ∧ Delivered out f bytes (f.transfer S count) := by
  obtain ⟨hbase, hback, hlearned⟩ := f.stack.transferStream_of_room S f.reader hcount f.through hroom
  obtain ⟨bytes, ⟨hout, hlen⟩, hle, hall⟩ :=
    copyStream_honest hwrite f.stack.base f.reader (Gate.cap f.stack.gates count) f.through
  rw [hplain] at hbase hback hlearned
  rw [← hlen] at hlearned
  have hcut {r : Nat} (hr : r ∈ f.stack.room) : (Gate.cap f.stack.gates count).toNat ≤ r := by
    obtain ⟨g, hg, rfl⟩ := List.mem_map.1 hr
    exact Gate.cap_le_remaining hg count
  refine ⟨bytes, Nat.le_trans hle (Gate.cap_le_count _ _), ?_, ?_, ?_, ?_⟩
  · exact (congrArg out hbase).trans hout
  · exact hall.trans (by rw [← hback]; rfl)
  · refine (congrArg _ hlearned).trans ?_
    rw [List.map_map]
    refine (List.map_congr_left fun r hr => ?_).trans (List.map_id _)
    exact Nat.sub_add_cancel (Nat.le_trans hle (hcut hr))
  · intro hfits r' hr'
    rw [show (f.transfer S count).stack.room = _ from hlearned] at hr'
    obtain ⟨r, hr, rfl⟩ := List.mem_map.1 hr'
    have hends := StreamCopy.run_within hwrite f.stack.base f.reader (hcut hr) (hfits r hr)
    have hleft : (f.transfer S count).through = _ := congrArg Prod.snd hback
    unfold StreamCopy.EndsWithin at hends
    rw [← hlen] at hends
    rw [hleft]
    omega

/-- A transfer delivers no more than its count, whatever the gates and the base make of it. -/
theorem delivered_transfer (hwrite : HonestWrite out S.write) (hplain : S.transferStream = StreamCopy.run S.write)
    (f : Feed σ n) (count : UInt64) :
    ∃ bytes, bytes.length ≤ count.toNat ∧ Delivered out f bytes (f.transfer S count) := by
  by_cases hcount : count = 0
  · subst hcount
    cases n with
    | zero =>
      -- without a gate the base is asked for nothing, and an honest write keeps to that
      obtain ⟨bytes, ⟨hout, -⟩, hle, hall⟩ := copyStream_honest hwrite f.stack f.reader 0 f.through
      rw [← hplain] at hout hall
      exact ⟨bytes, hle, hout, hall, rfl, fun _ _ hr => absurd hr List.not_mem_nil⟩
    | succ n => exact ⟨[], Nat.zero_le _, .nothing out f⟩
  · by_cases hroom : ∀ g ∈ f.stack.gates, g.hasRoom 1 = true
    · exact f.delivered_of_room hwrite hplain hcount hroom
    · obtain ⟨g, hg⟩ : ∃ g, f.stack.gates.find? (fun g => !g.hasRoom 1) = some g := by
        rw [← Option.isSome_iff_exists, List.find?_isSome]
        simpa using hroom
      have hoffer : (Call.transferStream f.reader count f.through).IsOffer := hcount
      obtain ⟨-, hstate⟩ := f.stack.perform_offer_of_refusal S hoffer hg
      have hsame : f.transfer S count = f := by
        injection hstate with hstack hcall
        injection hcall with hreader _ hthrough
        unfold transfer
        rw [Feed.mk.injEq]
        exact ⟨hstack, hreader, hthrough⟩
      rw [hsame]
      exact ⟨[], Nat.zero_le _, .nothing out f⟩

/-- Any number of transfers deliver from the front of what is on the way. -/
theorem delivered_transfers (hwrite : HonestWrite out S.write)
    (hplain : S.transferStream = StreamCopy.run S.write) (f : Feed σ n) (counts : List UInt64) :
    ∃ bytes, Delivered out f bytes (f.transfers S counts) := by
  induction counts generalizing f with
  | nil => exact ⟨[], .nothing out f⟩
  | cons count counts ih =>
    obtain ⟨first, -, hfirst⟩ := f.delivered_transfer hwrite hplain count
    obtain ⟨rest, hrest⟩ := ih (f.transfer S count)
    exact ⟨first ++ rest, hfirst.trans hrest⟩

end Feed

namespace Stack

/-- **Streams are kept.** Through any gates over a base with an honest write and the plain transfer: transfers from a
stream, whatever their counts, with a buffer that is empty at first, deliver bytes such that these, the buffer and
what is not read yet are the stream. The buffer holds no more than may still pass at each gate, and no more is taken
from the stream than might pass at the start, which in a new cycle is the length. If the buffer holds anything at
first, a transfer still delivers from the front of it and the stream and keeps the rest, and delivers no more than
its count and than may pass. -/
theorem stream_kept (hwrite : HonestWrite out S.write) (hplain : S.transferStream = StreamCopy.run S.write)
    {n : Nat} (s : Stack σ n) (reader : Reader) :
    (∀ counts, let after := Feed.transfers S ⟨s, reader, []⟩ counts
      ∃ delivered, out after.stack.base = out s.base ++ delivered ∧
        delivered ++ after.through ++ after.reader.unread = reader.unread ∧
        (∀ g ∈ after.stack.gates, after.through.length ≤ g.budget.remaining.toNat) ∧
        ∀ g ∈ s.gates, (delivered ++ after.through).length ≤ g.budget.remaining.toNat) ∧
      ∀ count through, let reply := (S.stacked n).transferStream s reader count through
        ∃ delivered, out reply.state.1.base = out s.base ++ delivered ∧
          delivered ++ (reply.state.2.2 ++ reply.state.2.1.unread) = through ++ reader.unread ∧
          delivered.length ≤ count.toNat ∧ ∀ g ∈ s.gates, delivered.length ≤ g.budget.remaining.toNat := by
  constructor
  · intro counts after
    obtain ⟨delivered, h⟩ := Feed.delivered_transfers hwrite hplain ⟨s, reader, []⟩ counts
    have hfits : ∀ r ∈ after.stack.room, after.through.length ≤ r := h.fits fun r _ => Nat.zero_le r
    refine ⟨delivered, h.output, ?_, ?_, ?_⟩
    · rw [List.append_assoc]
      exact h.onTheWay.symm
    · intro g hg
      exact hfits _ (List.mem_map_of_mem hg)
    · intro g hg
      have hroom : after.stack.room.map (· + delivered.length) = s.room := h.room
      have hr : g.budget.remaining.toNat ∈ s.room := List.mem_map_of_mem hg
      rw [← hroom] at hr
      obtain ⟨r, hr, heq⟩ := List.mem_map.1 hr
      have hle := hfits r hr
      rw [List.length_append]
      omega
  · intro count through reply
    obtain ⟨delivered, hle, h⟩ := Feed.delivered_transfer hwrite hplain ⟨s, reader, through⟩ count
    refine ⟨delivered, h.output, h.onTheWay.symm, hle, ?_⟩
    intro g hg
    exact h.length_le (List.mem_map_of_mem hg)

/-- A stream of six bytes whose first read is interrupted, and whose second gives three at most. -/
def halting : Reader :=
  ⟨[1, 2, 3, 4, 5, 6], [.fail (.plain .interrupted), .cap 3], []⟩

/-- A gate for eight bytes over one for ten over an empty tank. -/
def fedTank : Stack (Outlet Bytes) 2 :=
  push (gateFor 8) (push (gateFor 10) (ofBase (.ofDevice [])))

/-- The tank is full after two transfers. The third reads two bytes that the tank refuses, and they stay in the
buffer. -/
theorem stream_kept_tank :
    HonestWrite (fun o : Outlet Bytes => o.device) tank.sink.write ∧
      tank.sink.transferStream = StreamCopy.run tank.sink.write ∧
      (Feed.transfers tank.sink ⟨fedTank, halting, []⟩ [3, 2, 9]).through = [5, 6] ∧
      (Feed.transfers tank.sink ⟨fedTank, halting, []⟩ [3, 2, 9]).reader.unread = [] ∧
      (Feed.transfers tank.sink ⟨fedTank, halting, []⟩ [3, 2, 9]).stack.base.device = [1, 2, 3, 4] := by
  have hwrite : HonestWrite (fun o : Outlet Bytes => o.device) tank.sink.write := tank_honest.write_outlet
  have hplain : tank.sink.transferStream = StreamCopy.run tank.sink.write := rfl
  have hthrough : (Feed.transfers tank.sink ⟨fedTank, halting, []⟩ [3, 2, 9]).through = [5, 6] := by decide
  have hunread : (Feed.transfers tank.sink ⟨fedTank, halting, []⟩ [3, 2, 9]).reader.unread = [] := by decide
  obtain ⟨hkept, -⟩ := stream_kept hwrite hplain fedTank halting
  obtain ⟨delivered, hout, hall, -, -⟩ := hkept [3, 2, 9]
  rw [hthrough, hunread, List.append_nil] at hall
  have hdelivered : delivered = [1, 2, 3, 4] := List.append_cancel_right hall
  refine ⟨hwrite, hplain, hthrough, hunread, ?_⟩
  rw [hout, hdelivered]
  rfl

end Stack

end ExactLength
