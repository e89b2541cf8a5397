import Placeholders.Fault

/-!
# Work on a state

Rules and filters are edited in place.  An edit can be refused when some of it is done already, and
nothing takes that back unless the edit does so itself; so what is left after a fault is part of
what an edit means.

* `Work` — work on a state, done or refused.
* `Work.left` — the state that it leaves, in either case.
* `Work.result` — the state that it leaves if it is done.
* `Work.onCopy` — work that is done on a copy.
-/

namespace Placeholders

/-- Work on a state.  It comes to a result or to a fault, and in both cases there is a state that it
leaves: what was done before the fault stays done. -/
abbrev Work (σ α : Type) : Type := EStateM Fault σ α

namespace Work

variable {σ α : Type}

/-- The state that is left, be the work done or refused. -/
def left (work : Work σ α) (s : σ) : σ :=
  match work.run s with
  | .ok _ after => after
  | .error _ after => after

/-- The state after work that is done. -/
def result (work : Work σ α) (s : σ) : Except Fault σ :=
  match work.run s with
  | .ok _ after => .ok after
  | .error fault _ => .error fault

/-- Does the work on a copy and hands it out.  The state itself stays as it is. -/
def onCopy (copy : σ) (work : Work σ α) : Work σ σ :=
  MonadExcept.ofExcept (work.result copy)

end Work

end Placeholders
