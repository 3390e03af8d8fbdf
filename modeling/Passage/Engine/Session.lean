import Passage.Engine

/- An engine in use: its clock and the responses its callers hold.

   A session is a sequence of calls; each gives an answer and leaves the next
   state. -/
namespace Passage.Engine

structure Session where
  engine : Engine
  clock : Clock
  /-- The responses in use, by the slot that holds them. -/
  held : List (Nat × Response)

namespace Session

def start (engine : Engine) (clock : Clock) : Session := ⟨engine, clock, []⟩

/-- The engine's pool of responses with the loans of this session. -/
def lending (s : Session) : Lending Nat Response := ⟨s.engine.bench.responses, s.held⟩

def withLending (s : Session) (l : Lending Nat Response) : Session :=
  { s with
    engine := { s.engine with bench := { s.engine.bench with responses := l.pool } }
    held := l.held }

/-- One call. -/
inductive Op where
  | clock (op : Clock.Op)
  | issue (id : Identity) (lifetime : Duration) (out : Buffer)
  | verify (id : Identity) (token : Bytes)
  | acquire (slot : Nat)
  | release (slot : Nat)
  | run (slot : Nat) (request : Request)

/-- What a call gives back. -/
inductive Reply where
  | done
  | clock (expiry : Option Nat)
  | issued (outcome : Outcome) (out : Buffer)
  | verified (outcome : Outcome)
  | ran (outcome : Outcome) (response : Response)
  /-- The slot holds no response. -/
  | unheld

def apply (s : Session) : Op → Reply × Session
  | .clock op =>
    let (expiry, clock) := s.clock.apply op
    (.clock expiry, { s with clock })
  | .issue id lifetime out =>
    let (outcome, out, engine) := s.engine.issue s.clock id lifetime out
    (.issued outcome out, { s with engine })
  | .verify id token =>
    let (outcome, engine) := s.engine.verify s.clock id token
    (.verified outcome, { s with engine })
  | .acquire slot => (.done, s.withLending (s.lending.acquire slot))
  | .release slot => (.done, s.withLending (s.lending.release slot))
  | .run slot request =>
    match s.lending.object? slot with
    | none => (.unheld, s)
    | some response =>
      let (outcome, response, engine) := s.engine.run s.clock request response
      (.ran outcome response, { s with engine, held := (slot, response) :: s.lending.without slot })

/-- The answers to a list of calls. -/
def replies (s : Session) : List Op → List Reply
  | [] => []
  | op :: rest => let (reply, s) := s.apply op; reply :: s.replies rest

/-- The state after a list of calls. -/
def run (s : Session) (ops : List Op) : Session :=
  ops.foldl (fun s op => (s.apply op).2) s

end Session
end Passage.Engine
