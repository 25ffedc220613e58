import ExactLength.Session.Bench
import ExactLength.Session.Pools
import ExactLength.Stack.Tower

/-!
# Sessions

A session works on one stack step by step. Most steps are turns of the stack; others change its shape, or what its
base is told. Every step has a result, and tells events; `Session.record` also starts the record of what reaches
the base anew.

A session may lend its whole stack to a gate for a number of turns: the gate stands on top meanwhile, and is gone
afterwards.
-/

namespace ExactLength

/-- A step of a session. -/
inductive Step where
  /-- A turn of the stack. -/
  | turn (turn : Turn)
  /-- More for the base to do: the script's queues are appended, and its flag, if given, is set. -/
  | instruct (more : Script) (resumed : Option Bool)
  /-- Marks writes of an outlet as resumed, or as suspended. -/
  | setResumed (resumed : Bool)
  /-- A new gate on top. -/
  | wrap (spec : GateSpec)
  /-- Takes the top gate away. -/
  | unwrap
  /-- Describes the stack. -/
  | describe
  /-- Lends the stack to a gate that somebody listens to, for some turns. -/
  | lend (config : Config) (turns : List Turn)

/-- The outcome of a turn of a lent stack. -/
structure LentOutcome where
  /-- The result. -/
  result : Except SinkError Yield
  /-- The gate on top afterwards. -/
  gate : Gate
  /-- The move that was made, as it is afterwards. -/
  move : Move

/-- What a step of a session yields. -/
inductive StepYield where
  /-- What a turn yields. -/
  | plain (value : Yield)
  /-- A description. -/
  | outline (value : Text.Outline)
  /-- The outcomes of the turns of a lent stack. -/
  | lent (outcomes : List LentOutcome)

/-- The outcome of a step of a session. -/
structure StepOutcome where
  /-- The result. -/
  result : Except SinkError StepYield
  /-- The move that was made, as it is afterwards. -/
  move : Option Move
  /-- The events told. -/
  events : List Event

/-- A session on a base of type `σ`. -/
structure Session (σ : Type) where
  /-- The stack. -/
  tower : Tower σ
  /-- The inputs. -/
  pools : Pools

/-- A script with more for it to do. -/
def Script.extend (s more : Script) (resumed : Option Bool) : Script :=
  { s with
    writes := s.writes ++ more.writes
    flushes := s.flushes ++ more.flushes
    terminations := s.terminations ++ more.terminations
    truncations := s.truncations ++ more.truncations
    waits := s.waits ++ more.waits
    closes := s.closes ++ more.closes
    resumed := resumed.getD s.resumed }

namespace Session

variable {σ : Type} (B : Bench σ)

/-- A session over a base, with gates that are given from the top. -/
def start (base : σ) (pools : Pools) (specs : List GateSpec) : Except SinkError (Session σ) :=
  (Tower.build base specs).map (⟨·, pools⟩)

/-- The session with another stack. -/
def withTower (s : Session σ) (tower : Tower σ) : Session σ :=
  { s with tower := tower }

/-- A session after a step that has a result and nothing else. -/
def answer (s : Session σ) (result : Except SinkError StepYield) : StepOutcome × Session σ :=
  (⟨result, none, []⟩, s)

/-- Takes turns on a stack with a gate on top, one after the other. -/
def lendTurns {n : Nat} (s : Stack σ (n + 1)) (pools : Pools) :
    List Turn → List LentOutcome × List Event × Stack σ (n + 1) × Pools
  | [] => ([], [], s, pools)
  | turn :: rest =>
    let reply := s.move B.sink (pools.move turn)
    let (after, made) := reply.state
    let (outcomes, events, final) := lendTurns after (pools.afterMove turn made) rest
    (⟨reply.result, Gated.gate after, made⟩ :: outcomes, reply.events ++ events, final)

/-- Takes a step. -/
def step (s : Session σ) : Step → StepOutcome × Session σ
  | .turn turn =>
    let reply := s.tower.stack.move B.sink (s.pools.move turn)
    let (after, made) := reply.state
    (⟨reply.result.map .plain, some made, reply.events⟩, ⟨⟨s.tower.height, after⟩, s.pools.afterMove turn made⟩)
  | .instruct more resumed =>
    (s.withTower (s.tower.mapBase (B.mapScript (·.extend more resumed)))).answer (.ok (.plain .unit))
  | .setResumed resumed =>
    (s.withTower (s.tower.mapBase (B.setResumed resumed))).answer
      (.ok (.plain (.flag (B.outlet s.tower.base).isSome)))
  | .wrap spec =>
    match s.tower.wrap spec with
    | .ok tower => (s.withTower tower).answer (.ok (.plain .unit))
    | .error e => s.answer (.error e)
  | .unwrap =>
    match s.tower.unwrap? with
    | some tower => (s.withTower tower).answer (.ok (.plain (.flag true)))
    | none => s.answer (.ok (.plain (.flag false)))
  | .describe => s.answer (.ok (.outline (s.tower.stack.outline B.outline)))
  | .lend config turns =>
    match Gate.ofConfig config true with
    | .error e => s.answer (.error e)
    | .ok gate =>
      let (outcomes, events, after, pools) := lendTurns B (s.tower.stack.push gate) s.pools turns
      (⟨.ok (.lent outcomes), none, events⟩, ⟨⟨s.tower.height, Gated.below after⟩, pools⟩)

/-- Takes a step, with the record of what reached the base starting anew. -/
def record (s : Session σ) (next : Step) : StepOutcome × Session σ :=
  step B (s.withTower (s.tower.mapBase (B.mapScript Script.forget))) next

end Session

end ExactLength
