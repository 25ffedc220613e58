import ExactLength.Proofs.Sink.Base
import ExactLength.Proofs.Stack.Admission

/-!
# Several sources in turn

A write of several sources beside writes of one source at a time. `inTurn` writes each source that is not empty, in
order, until a write fails or leaves something of its source, and keeps the answers of all writes that were made.

The plain write of several sources comes to the same over any honest write (`writeEachFrom_inTurn`): an error after
progress is turned into the count so far, so only the error of the first write is seen. Gates keep it so. A write of
several sources asks each gate once, for all of them, and is accounted for once; writes in turn ask and are accounted
for one by one. Since every write that is followed by another was taken whole, the gates that had room for all have
room for what is left (`Stack.inTurn_stacked`).

The main statement is `Stack.many_as_in_turn`.
-/

namespace ExactLength

variable {σ : Type}

/-! ### Answers to several writes -/

/-- How many bytes several answers say were taken. -/
def countedAll : List (Except SinkError UInt64) → Nat
  | [] => 0
  | answer :: rest => counted answer + countedAll rest

/-- What a caller is told of several writes together: the error of the first if that failed, else how many bytes were
taken. -/
def summary : List (Except SinkError UInt64) → Except SinkError UInt64
  | .error e :: _ => .error e
  | answers => .ok (UInt64.ofNat (countedAll answers))

/-- What the caller is told if bytes were taken before: an error is then turned into the count so far. -/
def summaryAfter (total : UInt64) (answers : List (Except SinkError UInt64)) : Except SinkError UInt64 :=
  if total = 0 then summary answers else .ok (total + UInt64.ofNat (countedAll answers))

@[simp] theorem countedAll_singleton (answer : Except SinkError UInt64) : countedAll [answer] = counted answer :=
  Nat.add_zero _

/-- One answer is its own summary. -/
@[simp] theorem summary_singleton (answer : Except SinkError UInt64) : summary [answer] = answer := by
  cases answer with
  | error e => rfl
  | ok n => simp [summary]

theorem summary_eq_error_iff (answers : List (Except SinkError UInt64)) (e : SinkError) :
    summary answers = .error e ↔ answers.head? = some (.error e) := by
  rcases answers with _ | ⟨e' | n, rest⟩ <;> simp [summary]

@[simp] theorem summaryAfter_zero (answers : List (Except SinkError UInt64)) :
    summaryAfter 0 answers = summary answers :=
  if_pos rfl

theorem summaryAfter_nil (total : UInt64) : summaryAfter total [] = .ok total := by
  by_cases h : total = 0
  · simp [h, summary, countedAll]
  · simp [summaryAfter, h, countedAll]

theorem summaryAfter_error (total : UInt64) (e : SinkError) :
    summaryAfter total [.error e] = if total = 0 then .error e else .ok total := by
  by_cases h : total = 0
  · simp [h]
  · simp [summaryAfter, h]

/-- A count adds to the total. -/
theorem summaryAfter_ok (total n : UInt64) (answers : List (Except SinkError UInt64)) :
    summaryAfter total (.ok n :: answers) = .ok (total + n + UInt64.ofNat (countedAll answers)) := by
  by_cases h : total = 0
  · simp [h, summary, countedAll, UInt64.ofNat_add]
  · simp [summaryAfter, h, countedAll, UInt64.ofNat_add, UInt64.add_assoc]

/-! ### Writes in turn -/

/-- What comes of a series of writes. -/
structure Series (σ : Type) where
  /-- The sink after them. -/
  sink : σ
  /-- The sources as they came back. -/
  sources : List Source
  /-- The answers of the writes that were made, in order. -/
  answers : List (Except SinkError UInt64)

/-- A write took its source whole, so another may follow. -/
def tookAll (reply : Reply (σ × Source) UInt64) : Bool :=
  reply.result.toBool && reply.state.2.isEmpty

theorem exists_ok_of_tookAll {reply : Reply (σ × Source) UInt64} (h : tookAll reply = true) :
    ∃ written, reply.result = .ok written := by
  cases hresult : reply.result with
  | error e => simp [tookAll, hresult, Except.toBool] at h
  | ok written => exact ⟨written, rfl⟩

/-- Writes each source that is not empty, in order, until a write fails or leaves something of its source. -/
def inTurn (write : Write σ) (sink : σ) : List Source → Series σ
  | [] => ⟨sink, [], []⟩
  | src :: rest =>
    if src.isEmpty then
      let later := inTurn write sink rest
      ⟨later.sink, src :: later.sources, later.answers⟩
    else
      let reply := write sink src
      if tookAll reply then
        let later := inTurn write reply.state.1 rest
        ⟨later.sink, reply.state.2 :: later.sources, reply.result :: later.answers⟩
      else ⟨reply.state.1, reply.state.2 :: rest, [reply.result]⟩

section InTurn

variable (write : Write σ) (sink : σ)

theorem inTurn_cons_of_isEmpty {src : Source} (h : src.isEmpty = true) (rest : List Source) :
    inTurn write sink (src :: rest) =
      ⟨(inTurn write sink rest).sink, src :: (inTurn write sink rest).sources, (inTurn write sink rest).answers⟩ := by
  rw [inTurn, h]
  rfl

/-- A write that takes its source whole is followed by the next. -/
theorem inTurn_cons_of_tookAll {src : Source} (hlive : src.isEmpty = false) (hall : tookAll (write sink src) = true)
    (rest : List Source) :
    inTurn write sink (src :: rest) =
      ⟨(inTurn write (write sink src).state.1 rest).sink,
        (write sink src).state.2 :: (inTurn write (write sink src).state.1 rest).sources,
        (write sink src).result :: (inTurn write (write sink src).state.1 rest).answers⟩ := by
  rw [inTurn, hlive]
  simp [hall]

/-- A write that fails or leaves something of its source is the last. -/
theorem inTurn_cons_of_not_tookAll {src : Source} (hlive : src.isEmpty = false)
    (hpart : tookAll (write sink src) = false) (rest : List Source) :
    inTurn write sink (src :: rest) =
      ⟨(write sink src).state.1, (write sink src).state.2 :: rest, [(write sink src).result]⟩ := by
  rw [inTurn, hlive]
  simp [hpart]

end InTurn

/-! ### The plain write of several sources -/

section Plain

variable {out : σ → Bytes} {write : Write σ}

/-- An honest write takes no more than its source holds, and leaves nothing if and only if it took all of it. -/
theorem HonestWrite.counted_le (hwrite : HonestWrite out write) (sink : σ) (src : Source) :
    counted (write sink src).result ≤ src.remaining ∧
      ((write sink src).state.2.isEmpty = true ↔ counted (write sink src).result = src.remaining) := by
  obtain ⟨bytes, ⟨-, hcount⟩, hsrc⟩ := hwrite sink src
  rw [Source.isEmpty_iff, Source.remaining, hsrc, List.length_append, hcount, ← List.length_eq_zero_iff]
  omega

/-- Writes in turn take no more than there is. -/
theorem countedAll_inTurn_le (hwrite : HonestWrite out write) (sink : σ) (sources : List Source) :
    countedAll (inTurn write sink sources).answers ≤ (Source.joined sources).length := by
  induction sources generalizing sink with
  | nil => exact Nat.le_refl 0
  | cons src rest ih =>
    rw [Source.joined_cons, List.length_append]
    cases hlive : src.isEmpty with
    | true =>
      rw [inTurn_cons_of_isEmpty write sink hlive]
      exact Nat.le_trans (ih sink) (Nat.le_add_left _ _)
    | false =>
      have hcount := (hwrite.counted_le sink src).1
      cases hall : tookAll (write sink src) with
      | false =>
        rw [inTurn_cons_of_not_tookAll write sink hlive hall, countedAll_singleton]
        exact Nat.le_trans hcount (Nat.le_add_right _ _)
      | true =>
        rw [inTurn_cons_of_tookAll write sink hlive hall, countedAll]
        exact Nat.add_le_add hcount (ih _)

/-- A write took its source whole if and only if it counts all of it. -/
theorem tookAll_iff (hwrite : HonestWrite out write) (sink : σ) {src : Source} (hlive : src.isEmpty = false) :
    tookAll (write sink src) = true ↔ counted (write sink src).result = src.remaining := by
  obtain ⟨-, hdrained⟩ := hwrite.counted_le sink src
  have hpos := Source.remaining_pos hlive
  rw [← hdrained]
  cases hanswer : (write sink src).result with
  | error e =>
    have hleft : ¬ (write sink src).state.2.isEmpty = true := by
      rw [hdrained, hanswer, counted_error]
      omega
    simp [tookAll, hleft]
  | ok written => simp [tookAll, hanswer, Except.toBool]

/-- The plain write of several sources comes to writes in turn, except that an error after progress is turned into
the count so far. -/
theorem writeEachFrom_inTurn (hwrite : HonestWrite out write) (sink : σ) (total : UInt64) {sources : List Source}
    (hfits : total.toNat + (Source.joined sources).length < UInt64.size) :
    let turn := inTurn write sink sources
    let reply := writeEachFrom write sink total sources
    reply.state = (turn.sink, turn.sources) ∧ reply.result = summaryAfter total turn.answers := by
  induction sources generalizing sink total with
  | nil => exact ⟨rfl, (summaryAfter_nil total).symm⟩
  | cons src rest ih =>
    rw [Source.joined_cons, List.length_append] at hfits
    rw [writeEachFrom]
    cases hlive : src.isEmpty with
    | true =>
      obtain ⟨hstate, hresult⟩ := ih sink total (by omega)
      rw [inTurn_cons_of_isEmpty write sink hlive, if_pos rfl]
      constructor
      · simp [hstate]
      · exact hresult
    | false =>
      have hle := (hwrite.counted_le sink src).1
      have hall := tookAll_iff hwrite sink hlive
      have hpos := Source.remaining_pos hlive
      rw [if_neg Bool.false_ne_true]
      dsimp only
      cases hanswer : (write sink src).result with
      | error e =>
        rw [hanswer, counted_error] at hall
        have hpart : tookAll (write sink src) = false := by
          rw [← Bool.not_eq_true, hall]
          omega
        rw [inTurn_cons_of_not_tookAll write sink hlive hpart, hanswer]
        exact ⟨rfl, (summaryAfter_error total e).symm⟩
      | ok written =>
        rw [hanswer, counted_ok] at hle hall
        dsimp only
        by_cases hshort : written.toNat < src.remaining
        · have hpart : tookAll (write sink src) = false := by
            rw [← Bool.not_eq_true, hall]
            omega
          rw [inTurn_cons_of_not_tookAll write sink hlive hpart, if_pos hshort, hanswer, summaryAfter_ok]
          constructor
          · rfl
          · simp [countedAll]
        · -- the source was taken whole, so the total is not zero from here on
          have hwhole : written.toNat = src.remaining := by omega
          have hlen : src.bytes.length = src.remaining := rfl
          have hsum : (total + written).toNat = total.toNat + written.toNat := toNat_add_of_lt (by omega)
          have hsome : total + written ≠ 0 := by
            rw [Ne, ← UInt64.toNat_inj, hsum, UInt64.toNat_zero]
            omega
          obtain ⟨hstate, hresult⟩ := ih (write sink src).state.1 (total + written) (by omega)
          rw [inTurn_cons_of_tookAll write sink hlive (hall.2 hwhole), if_neg hshort, hanswer, summaryAfter_ok]
          constructor
          · simp [hstate]
          · exact hresult.trans (if_neg hsome)

/-- The plain write of several sources comes to writes in turn. -/
theorem writeEach_inTurn (hwrite : HonestWrite out write) (sink : σ) {sources : List Source}
    (hfits : (Source.joined sources).length < UInt64.size) :
    let turn := inTurn write sink sources
    (writeEach write sink sources).state = (turn.sink, turn.sources) ∧
      (writeEach write sink sources).result = summary turn.answers := by
  intro turn
  rw [← summaryAfter_zero]
  exact writeEachFrom_inTurn hwrite sink 0 (by simpa using hfits)

/-- The summary of writes in turn counts what they took: an error stands alone, and takes nothing. -/
theorem counted_summary_inTurn (hwrite : HonestWrite out write) (sink : σ) {sources : List Source}
    (hfits : (Source.joined sources).length < UInt64.size) :
    counted (summary (inTurn write sink sources).answers) = countedAll (inTurn write sink sources).answers := by
  induction sources with
  | nil => rfl
  | cons src rest ih =>
    have hle := countedAll_inTurn_le hwrite sink (src :: rest)
    cases hlive : src.isEmpty with
    | true =>
      rw [Source.joined_cons, List.length_append] at hfits
      rw [inTurn_cons_of_isEmpty write sink hlive]
      exact ih (by omega)
    | false =>
      cases hall : tookAll (write sink src) with
      | false =>
        rw [inTurn_cons_of_not_tookAll write sink hlive hall, summary_singleton, countedAll_singleton]
      | true =>
        rw [inTurn_cons_of_tookAll write sink hlive hall] at hle ⊢
        obtain ⟨written, hwritten⟩ := exists_ok_of_tookAll hall
        rw [hwritten] at hle ⊢
        exact UInt64.toNat_ofNat_of_lt' (Nat.lt_of_le_of_lt hle hfits)

end Plain

/-! ### Writes through gates -/

namespace Stack

variable (S : Sink σ) {n : Nat}

/-- A stack is its gates and its base. -/
theorem ext {s s' : Stack σ n} (hgates : s.gates = s'.gates) (hbase : s.base = s'.base) : s = s' := by
  induction n with
  | zero => exact hbase
  | succ n ih =>
    obtain ⟨gate, below, rfl⟩ := s.exists_push
    obtain ⟨gate', below', rfl⟩ := s'.exists_push
    rw [gates_push, gates_push, List.cons.injEq] at hgates
    rw [hgates.1, ih hgates.2 hbase]

/-- What comes of an operation on a stack with room at all gates, told by what comes of it at the base. -/
structure Charged {κ : Type} (s : Stack σ n) (below : Reply (σ × κ) UInt64)
    (reply : Reply (Stack σ n × κ) UInt64) : Prop where
  /-- The answer is the base's. -/
  result : reply.result = below.result
  /-- The base is left as the operation leaves it. -/
  base : reply.state.1.base = below.state.1
  /-- What was offered comes back as from the base. -/
  back : reply.state.2 = below.state.2
  /-- All gates are charged for what was taken. -/
  gates : reply.state.1.gates = s.gates.map (·.spend (UInt64.ofNat (counted below.result)))

/-- A write for which all gates have room. -/
theorem write_of_room (s : Stack σ n) {src : Source} (hlive : src.isEmpty = false)
    (hroom : ∀ g ∈ s.gates, g.hasRoom src.remaining = true) :
    s.Charged (S.write s.base src) ((S.stacked n).write s src) := by
  have hoffer : (Call.write src).IsOffer := hlive
  obtain ⟨hresult, hgates, hbase, hback⟩ := s.perform_offer_of_room S hoffer hroom
  exact ⟨map_count_inj hresult, hbase, Call.write.inj hback, hgates.trans (Gate.map_learn_count _ _ _)⟩

/-- A write of several sources for which all gates have room. -/
theorem writeMany_of_room (s : Stack σ n) {sources : List Source} (hmany : 2 ≤ sources.length)
    (hfits : (Source.joined sources).length < UInt64.size)
    (hroom : ∀ g ∈ s.gates, g.hasRoom (Source.joined sources).length = true) :
    s.Charged (S.writeMany s.base sources) ((S.stacked n).writeMany s sources) := by
  have hoffer : (Call.writeMany sources).IsOffer := ⟨hmany, hfits⟩
  obtain ⟨hresult, hgates, hbase, hback⟩ := s.perform_offer_of_room S hoffer hroom
  exact ⟨map_count_inj hresult, hbase, Call.writeMany.inj hback, hgates.trans (Gate.map_learn_count _ _ _)⟩

/-- Over gates with room for all sources, writes in turn are those of the base, and each gate is charged for all that
was taken. -/
theorem inTurn_stacked {out : σ → Bytes} (hwrite : HonestWrite out S.write) (s : Stack σ n) {sources : List Source}
    (hfits : (Source.joined sources).length < UInt64.size)
    (hroom : ∀ g ∈ s.gates, g.hasRoom (Source.joined sources).length = true) :
    let above := inTurn (S.stacked n).write s sources
    let below := inTurn S.write s.base sources
    above.answers = below.answers ∧ above.sources = below.sources ∧ above.sink.base = below.sink ∧
      above.sink.gates = s.gates.map (·.spend (UInt64.ofNat (countedAll below.answers))) := by
  induction sources generalizing s with
  | nil =>
    refine ⟨rfl, rfl, rfl, ?_⟩
    show s.gates = s.gates.map (·.spend 0)
    simp
  | cons src rest ih =>
    rw [Source.joined_cons, List.length_append] at hfits hroom
    cases hlive : src.isEmpty with
    | true =>
      obtain ⟨hanswers, hback, hbase, hgates⟩ :=
        ih s (by omega) fun g hg => Gate.hasRoom_of_le (Nat.le_add_left _ _) (hroom g hg)
      rw [inTurn_cons_of_isEmpty _ _ hlive, inTurn_cons_of_isEmpty _ _ hlive]
      exact ⟨hanswers, congrArg (src :: ·) hback, hbase, hgates⟩
    | false =>
      have hfirst : s.Charged (S.write s.base src) ((S.stacked n).write s src) :=
        write_of_room S s hlive fun g hg => Gate.hasRoom_of_le (Nat.le_add_right _ _) (hroom g hg)
      have hcount := (hwrite.counted_le s.base src).1
      have hsame : tookAll ((S.stacked n).write s src) = tookAll (S.write s.base src) := by
        rw [tookAll, hfirst.result, hfirst.back, tookAll]
      cases hall : tookAll (S.write s.base src) with
      | false =>
        rw [inTurn_cons_of_not_tookAll _ _ hlive hall, inTurn_cons_of_not_tookAll _ _ hlive (hsame.trans hall)]
        dsimp only
        rw [countedAll_singleton, hfirst.result, hfirst.back]
        exact ⟨rfl, rfl, hfirst.base, hfirst.gates⟩
      | true =>
        -- what the first write took from the room is what it took from the sources
        have hwhole := (tookAll_iff hwrite s.base hlive).1 hall
        have hlen : src.bytes.length = src.remaining := rfl
        have htaken : (UInt64.ofNat (counted (S.write s.base src).result)).toNat = src.remaining := by
          rw [hwhole]
          exact UInt64.toNat_ofNat_of_lt' (Nat.lt_of_le_of_lt (Nat.le_add_right _ _) hfits)
        have hrest : ∀ g ∈ ((S.stacked n).write s src).state.1.gates, g.hasRoom (Source.joined rest).length = true := by
          intro g hg
          rw [hfirst.gates] at hg
          obtain ⟨g', hg', rfl⟩ := List.mem_map.1 hg
          apply Gate.hasRoom_spend
          rw [htaken]
          exact hroom g' hg'
        obtain ⟨hanswers, hback, hbase, hgates⟩ := ih ((S.stacked n).write s src).state.1 (by omega) hrest
        rw [hfirst.base] at hanswers hback hbase hgates
        have hle := countedAll_inTurn_le hwrite (S.write s.base src).state.1 rest
        rw [inTurn_cons_of_tookAll _ _ hlive hall, inTurn_cons_of_tookAll _ _ hlive (hsame.trans hall)]
        refine ⟨?_, ?_, hbase, ?_⟩
        · rw [hfirst.result, hanswers]
        · rw [hfirst.back, hback]
        · rw [hgates, hfirst.gates, List.map_map, countedAll]
          exact List.map_congr_left fun g _ => g.spend_spend (by omega)

/-- A gate writes a single source as if it were alone. -/
theorem writeMany_singleton (s : Stack σ (n + 1)) (src : Source) :
    let turn := inTurn (S.stacked (n + 1)).write s [src]
    let reply := (S.stacked (n + 1)).writeMany s [src]
    reply.state = (turn.sink, turn.sources) ∧ reply.result = summary turn.answers := by
  have hmany : (S.stacked (n + 1)).writeMany s [src] =
      ((S.stacked (n + 1)).write s src).mapState fun (s, src) => (s, [src]) := rfl
  dsimp only
  rw [hmany]
  cases hlive : src.isEmpty with
  | true =>
    have hnothing : (S.stacked (n + 1)).write s src = Outcome.ok 0 (s, src) := if_pos hlive
    rw [inTurn_cons_of_isEmpty _ _ hlive, hnothing]
    exact ⟨rfl, rfl⟩
  | false =>
    cases hall : tookAll ((S.stacked (n + 1)).write s src) with
    | false =>
      rw [inTurn_cons_of_not_tookAll _ _ hlive hall, summary_singleton]
      exact ⟨rfl, rfl⟩
    | true =>
      rw [inTurn_cons_of_tookAll _ _ hlive hall]
      refine ⟨rfl, ?_⟩
      exact (summary_singleton _).symm

/-- A write of several sources that has room at all gates comes to writes in turn. -/
theorem writeMany_inTurn {out : σ → Bytes} (hwrite : HonestWrite out S.write) (hplain : S.writeMany = writeEach S.write)
    (s : Stack σ n) {sources : List Source} (hfits : (Source.joined sources).length < UInt64.size)
    (hroom : ∀ g ∈ s.gates, g.hasRoom (Source.joined sources).length = true) :
    let turn := inTurn (S.stacked n).write s sources
    let reply := (S.stacked n).writeMany s sources
    reply.state = (turn.sink, turn.sources) ∧ reply.result = summary turn.answers := by
  intro turn reply
  obtain ⟨hstate, hresult⟩ := writeEach_inTurn hwrite s.base hfits
  rw [← hplain] at hstate hresult
  cases n with
  | zero => exact ⟨hstate, hresult⟩
  | succ n =>
    by_cases hmany : 2 ≤ sources.length
    · have hcharged := writeMany_of_room S s hmany hfits hroom
      obtain ⟨hanswers, hback, hbase, hgates⟩ := inTurn_stacked S hwrite s hfits hroom
      refine ⟨Prod.ext ?_ ?_, ?_⟩
      · apply ext
        · rw [hcharged.gates, hresult, counted_summary_inTurn hwrite s.base hfits, hgates]
        · rw [hcharged.base, hstate, hbase]
      · rw [hcharged.back, hstate, hback]
      · rw [hcharged.result, hresult, hanswers]
    · -- without a source there is nothing to do, and a single one is written as if it were alone
      rcases sources with _ | ⟨src, _ | ⟨second, rest⟩⟩
      · exact ⟨rfl, rfl⟩
      · exact writeMany_singleton S s src
      · simp at hmany

/-- Gates that are open refuse sources that hold more than may still pass at one of them, and that is all. -/
theorem writeMany_of_excess (s : Stack σ n) (hopen : ∀ g ∈ s.gates, g.budget.closing = false) {sources : List Source}
    (hfits : (Source.joined sources).length < UInt64.size)
    (hexcess : ∃ g ∈ s.gates, g.budget.remaining.toNat < (Source.joined sources).length) :
    let reply := (S.stacked n).writeMany s sources
    reply.result = .error .overflow ∧ reply.state = (s, sources) := by
  obtain ⟨full, hfull, hlt⟩ := hexcess
  obtain ⟨g, hg⟩ : ∃ g, s.gates.find? (fun g => !g.hasRoom (Source.joined sources).length) = some g := by
    rw [← Option.isSome_iff_exists, List.find?_isSome]
    refine ⟨full, hfull, ?_⟩
    have hno : ¬ full.hasRoom (Source.joined sources).length = true := by
      rw [Gate.hasRoom_iff]
      omega
    simp [hno]
  have hrefusal : g.refusal = .overflow := Gate.refusal_of_open (hopen g (List.mem_of_find?_eq_some hg))
  rw [← hrefusal]
  by_cases hmany : 2 ≤ sources.length
  · have hoffer : (Call.writeMany sources).IsOffer := ⟨hmany, hfits⟩
    obtain ⟨hresult, hstate⟩ := s.perform_offer_of_refusal S hoffer hg
    obtain ⟨hsame, hback⟩ := Prod.mk.inj hstate
    exact ⟨map_eq_error_iff.1 hresult, Prod.ext hsame (Call.writeMany.inj hback)⟩
  · rcases sources with _ | ⟨src, _ | ⟨second, rest⟩⟩
    · cases hlt
    · have hneed : (Source.joined [src]).length = src.remaining := by simp [Source.remaining]
      have hoffer : (Call.write src).IsOffer := by
        show src.isEmpty = false
        rw [← Bool.not_eq_true, src.isEmpty_iff, ← List.length_eq_zero_iff]
        rw [hneed, Source.remaining] at hlt
        omega
      rw [hneed] at hg
      obtain ⟨hresult, hstate⟩ := s.perform_offer_of_refusal S hoffer hg
      obtain ⟨hsame, hback⟩ := Prod.mk.inj hstate
      cases n with
      | zero => cases hfull
      | succ n =>
        refine ⟨map_eq_error_iff.1 hresult, Prod.ext hsame ?_⟩
        exact congrArg (fun src => [src]) (Call.write.inj hback)
    · simp at hmany

/-- **A write of several sources agrees with writes in turn.** Through any gates, none of which is closing, over a base
with an honest write and the plain write of several sources, and for sources that can be counted: if every gate has
room for all of them, then the base, the sources and the budgets are left as by writes of one source at a time through
the same stack, up to the first that fails or leaves something of its source; the write fails if and only if the first
of these does, and in the same way, and otherwise its count is the sum of theirs. If the sources hold more than may
still pass at some gate, nothing is written, even if the first of them would have fitted. -/
theorem many_as_in_turn {out : σ → Bytes} (hwrite : HonestWrite out S.write) (hplain : S.writeMany = writeEach S.write)
    (s : Stack σ n) (hopen : ∀ g ∈ s.gates, g.budget.closing = false) {sources : List Source}
    (hfits : (Source.joined sources).length < UInt64.size) :
    let turn := inTurn (S.stacked n).write s sources
    let reply := (S.stacked n).writeMany s sources
    ((∀ g ∈ s.gates, (Source.joined sources).length ≤ g.budget.remaining.toNat) →
        reply.state = (turn.sink, turn.sources) ∧
          (∀ e, reply.result = .error e ↔ turn.answers.head? = some (.error e)) ∧
          ∀ written, reply.result = .ok written → written.toNat = countedAll turn.answers) ∧
      ((∃ g ∈ s.gates, g.budget.remaining.toNat < (Source.joined sources).length) →
        reply.result = .error .overflow ∧ reply.state = (s, sources)) := by
  intro turn reply
  refine ⟨fun hle => ?_, writeMany_of_excess S s hopen hfits⟩
  have hroom : ∀ g ∈ s.gates, g.hasRoom (Source.joined sources).length = true :=
    fun g hg => Gate.hasRoom_iff.2 ⟨hopen g hg, hle g hg⟩
  obtain ⟨hstate, hresult⟩ := writeMany_inTurn S hwrite hplain s hfits hroom
  refine ⟨hstate, ?_, ?_⟩
  · intro e
    rw [hresult, summary_eq_error_iff]
  · intro written hwritten
    have hcount := counted_summary_inTurn hwrite s.base hfits
    rw [← (inTurn_stacked S hwrite s hfits hroom).1, ← hresult, hwritten] at hcount
    exact hcount

/-- The sink of a tank, with the plain write of several sources. -/
def spout : Sink (Outlet Bytes) :=
  { tank.sink with writeMany := writeEach tank.sink.write }

/-- A gate for nine bytes over one for seven over an empty tank. -/
def spoutStack : Stack (Outlet Bytes) 2 :=
  push (gateFor 9) (push (gateFor 7) (ofBase (.ofDevice [])))

/-- Five bytes in sources of which the tank takes three, and then fails. -/
def fiveBytes : List Source :=
  [.ofBytes [1, 2], .ofBytes [], .ofBytes [3, 4], .ofBytes [5]]

/-- The error of the last write is not seen, and both gates are charged for four bytes. Three bytes more are too many
for the inner gate. -/
theorem many_as_in_turn_spout :
    HonestWrite (fun o : Outlet Bytes => o.device) spout.write ∧ spout.writeMany = writeEach spout.write ∧
      (∀ g ∈ spoutStack.gates, g.budget.closing = false) ∧
      (inTurn (spout.stacked 2).write spoutStack fiveBytes).answers =
        [.ok 2, .ok 2, .error (.io (.plain .outOfMemory))] ∧
      (∃ written, ((spout.stacked 2).writeMany spoutStack fiveBytes).result = .ok written ∧ written.toNat = 4) ∧
      ((spout.stacked 2).writeMany spoutStack fiveBytes).state.1.gates =
        [(gateFor 9).spend 4, (gateFor 7).spend 4] ∧
      ((spout.stacked 2).writeMany spoutStack (fiveBytes ++ [.ofBytes [6, 7, 8]])).result = .error .overflow := by
  have hwrite : HonestWrite (fun o : Outlet Bytes => o.device) spout.write := tank_honest.write_outlet
  have hplain : spout.writeMany = writeEach spout.write := rfl
  have hopen : ∀ g ∈ spoutStack.gates, g.budget.closing = false := by decide
  have hanswers : (inTurn (spout.stacked 2).write spoutStack fiveBytes).answers =
      [.ok 2, .ok 2, .error (.io (.plain .outOfMemory))] := rfl
  have hresult : ((spout.stacked 2).writeMany spoutStack fiveBytes).result = .ok 4 := rfl
  have hfits : (Source.joined fiveBytes).length < UInt64.size := by decide
  have hfits' : (Source.joined (fiveBytes ++ [.ofBytes [6, 7, 8]])).length < UInt64.size := by decide
  obtain ⟨hroom, -⟩ := many_as_in_turn spout hwrite hplain spoutStack hopen hfits
  obtain ⟨-, hexcess⟩ := many_as_in_turn spout hwrite hplain spoutStack hopen hfits'
  obtain ⟨hstate, -, hcount⟩ := hroom (by decide)
  obtain ⟨hrefused, -⟩ := hexcess (by decide)
  refine ⟨hwrite, hplain, hopen, hanswers, ⟨4, hresult, ?_⟩, ?_, hrefused⟩
  · rw [hcount 4 hresult, hanswers]
    rfl
  · rw [hstate]
    decide

end Stack

end ExactLength
