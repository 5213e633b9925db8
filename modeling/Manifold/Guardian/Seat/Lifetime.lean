import Manifold.Guardian.Seat.Worker

/-!
# The children of one daemon's life

A life begins when a daemon takes up the seat and lasts while it is not killed.
-/

namespace Manifold.Guardian.Seat

def account (pids : List Nat) : Event → List Nat
  | .childStarted pid => pids ++ [pid]
  | .childExited pid _ | .childStopped pid => pids.filter (· != pid)
  | _ => pids

/-- The processes that were started and not proved exited since by a wait or a stop. -/
def unproved (es : List Event) : List Nat := es.foldl account []

def Event.isFailure : Event → Bool
  | .waitFailed _ | .stopFailed _ => true
  | _ => false

def LoopTask.asking : LoopTask → Option Ask
  | .opening (.await _ e _) => some e
  | .running (.await _ e _) => some e
  | _ => none

def Outside.provesExit (x : Outside) : Ask → Bool
  | .observe _ => x.observation != .waitFailed
  | .startChild => x.spawn != .failedAfterFork
  | _ => true

def provesExits (s : State) : Act → Bool
  | .loop x => (s.daemon.bind (·.loop.asking)).all x.provesExit
  | _ => true

def Act.isCrash : Act → Bool
  | .crash => true
  | _ => false

def lifetime (guard : State → Act → Bool) : Lib.Machine State Act Event where
  init s := ∃ s₀ config keys, step s₀ (.boot config keys) = some (s, [])
  step s a := if !a.isCrash && guard s a then step s a else none

end Manifold.Guardian.Seat
