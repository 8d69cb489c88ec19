import CoreSteer.Decimal.Shortest
import CoreSteer.Metrics.Basic
/-!
# Published metrics

Whoever watches the policy gets, on each request, what happened since the request before.  The
answers travel as text: whole numbers arrive as they are, and the deviation is read back by scaling
from its shortest decimal.
-/
namespace CoreSteer.Metrics

/-- Metrics as they arrive. -/
def published (m : Metrics) : Metrics := { m with gamingJitter := Decimal.reread m.gamingJitter }

/-- The answers to successive requests, given the snapshots at those times; the first snapshot is
only what the second one is compared with. -/
def answers : List Metrics → List Metrics
  | prev :: m :: rest => (m.since prev).published :: answers (m :: rest)
  | _ => []

@[simp] theorem flows_published (m : Metrics) : m.published.flows = m.flows := rfl

theorem length_answers (ms : List Metrics) : (answers ms).length = ms.length - 1 := by
  fun_induction answers ms with
  | case1 prev m rest ih => simp [ih]
  | case2 ms h =>
    match ms, h with
    | [], _ => rfl
    | [_], _ => rfl
    | a :: b :: rest, h => exact absurd rfl (h a b rest)

end CoreSteer.Metrics
