/-!
# Rounds

A loop whose length is not fixed beforehand is given as its body: one round, which either ends the loop with a
result or asks for another round from a new state. `Round.iterate` runs a body for at most a given number of
rounds, and returns the state it has come to when they are used up.
-/

namespace ExactLength

/-- What one round of a loop comes to. -/
inductive Round (σ ρ : Type) where
  /-- Another round is to follow. -/
  | again (state : σ)
  /-- The loop is over. -/
  | done (result : ρ)

namespace Round

variable {σ ρ : Type}

/-- Runs a loop for at most the given number of rounds. -/
def iterate (body : σ → Round σ ρ) : Nat → σ → Round σ ρ
  | 0, state => .again state
  | n + 1, state =>
    match body state with
    | .again next => iterate body n next
    | .done result => .done result

/-- The result of a loop, or what `stop` makes of the state of one that was not finished. -/
def resultD (stop : σ → ρ) : Round σ ρ → ρ
  | .again state => stop state
  | .done result => result

theorem iterate_succ_again {body : σ → Round σ ρ} {state next : σ} (h : body state = .again next) (n : Nat) :
    iterate body (n + 1) state = iterate body n next := by
  rw [iterate, h]

theorem iterate_succ_done {body : σ → Round σ ρ} {state : σ} {result : ρ} (h : body state = .done result)
    (n : Nat) : iterate body (n + 1) state = .done result := by
  rw [iterate, h]

/-- A finished loop stays finished with more rounds. -/
theorem iterate_mono {body : σ → Round σ ρ} {m n : Nat} (hmn : m ≤ n) {state : σ} {result : ρ}
    (h : iterate body m state = .done result) : iterate body n state = .done result := by
  induction m generalizing n state with
  | zero => simp [iterate] at h
  | succ m ih =>
    obtain ⟨n, rfl⟩ : ∃ k, n = k + 1 := ⟨n - 1, by omega⟩
    rw [iterate] at h ⊢
    split at h
    · exact ih (by omega) h
    · exact h

/-- A loop finishes when every round but the last lowers a measure. -/
theorem exists_iterate_eq_done {body : σ → Round σ ρ} (measure : σ → Nat)
    (hlower : ∀ state next, body state = .again next → measure next < measure state) (state : σ) {n : Nat}
    (hn : measure state < n) : ∃ result, iterate body n state = .done result := by
  induction n generalizing state with
  | zero => omega
  | succ n ih =>
    rw [iterate]
    split
    · next next h => exact ih next (by have := hlower state next h; omega)
    · exact ⟨_, rfl⟩

/-- What a round comes to is right: a state that satisfies the invariant, or a result that is as promised. -/
def Keeps (Inv : σ → Prop) (Post : ρ → Prop) : Round σ ρ → Prop
  | .again state => Inv state
  | .done result => Post result

theorem Keeps.mono {Inv Inv' : σ → Prop} {Post Post' : ρ → Prop} {r : Round σ ρ} (h : r.Keeps Inv Post)
    (hinv : ∀ state, Inv state → Inv' state) (hpost : ∀ result, Post result → Post' result) :
    r.Keeps Inv' Post' := by
  cases r with
  | again state => exact hinv state h
  | done result => exact hpost result h

/-- A loop keeps what its body keeps. -/
theorem keeps_iterate {Inv : σ → Prop} {Post : ρ → Prop} {body : σ → Round σ ρ}
    (h : ∀ state, Inv state → (body state).Keeps Inv Post) (n : Nat) {state : σ} (hs : Inv state) :
    (iterate body n state).Keeps Inv Post := by
  induction n generalizing state with
  | zero => exact hs
  | succ n ih =>
    have hbody := h state hs
    rw [iterate]
    split
    · next next heq =>
      rw [heq] at hbody
      exact ih hbody
    · next result heq =>
      rw [heq] at hbody
      exact hbody

/-- The result is as promised also where the loop was stopped, if stopping keeps the promise. -/
theorem Keeps.resultD {Inv : σ → Prop} {Post : ρ → Prop} {r : Round σ ρ} (h : r.Keeps Inv Post) {stop : σ → ρ}
    (hstop : ∀ state, Inv state → Post (stop state)) : Post (r.resultD stop) := by
  cases r with
  | again state => exact hstop state h
  | done result => exact h

end Round

end ExactLength
