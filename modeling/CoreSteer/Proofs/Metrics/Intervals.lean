import CoreSteer.Metrics.Published
import CoreSteer.Proofs.Engine.Gains
/-!
# Intervals add up

Who watches the policy gets the differences of successive snapshots.  A difference that would be
negative is zero, so that the differences of a flow add up only if the flow never falls.  It never
does unless its counter wraps around: each call adds its gain to the counter, and the difference of
two snapshots is what the calls between them gained.
-/
namespace CoreSteer

namespace Metrics

/-- The differences of successive snapshots. -/
def changes : List Metrics → List Metrics
  | prev :: m :: rest => m.since prev :: changes (m :: rest)
  | _ => []

/-- Whoever asks gets the differences as they are published. -/
lemma answers_eq_map_changes (ms : List Metrics) : answers ms = (changes ms).map published := by
  fun_induction changes ms with
  | case1 prev m rest ih => rw [answers, ih, List.map_cons]
  | case2 ms h =>
    unfold answers
    split
    · next prev m rest => exact absurd rfl (h prev m rest)
    · rfl

/-- What is published of a flow is its difference. -/
lemma map_flows_answers (ms : List Metrics) (f : Flow) :
    (answers ms).map (·.flows.get f) = (changes ms).map (·.flows.get f) := by
  rw [answers_eq_map_changes, List.map_map]
  rfl

/-- What a difference takes over from the later snapshot: the tasks that are tracked and those that
wait, what runs in each domain, the events dropped, the longest and the shortest time from enqueue
to run, and the sums over all of these. -/
def lasting (m : Metrics) : Nat × Nat × String × Nat × Nat × Nat × LatencyTotals :=
  (m.tasks, m.queued, m.domains, m.eventsDropped, m.latencyMax, m.latencyMin, m.totals)

lemma lasting_since (m prev : Metrics) : (m.since prev).lasting = m.lasting := by
  rw [lasting, since, withLatencies, lasting]

lemma map_lasting_changes (ms : List Metrics) :
    (changes ms).map lasting = ms.tail.map lasting := by
  fun_induction changes ms with
  | case1 prev m rest ih => rw [List.map_cons, ih, lasting_since, List.tail_cons, List.tail_cons,
      List.map_cons]
  | case2 ms h =>
    match ms, h with
    | [], _ => rfl
    | [_], _ => rfl
    | prev :: m :: rest, h => exact absurd rfl (h prev m rest)

end Metrics

lemma Flow.times_counter (f : Flow) : CounterSet.times f.counter = false := by
  cases f <;> rfl

namespace Engine

open Metrics (changes lasting ofEngine)

/-- Snapshots at the begin of a run and after each of several stretches of calls. -/
def snapshots (e : Engine) : List (List EngineCall) → List Metrics
  | [] => [ofEngine e]
  | cs :: stretches => ofEngine e :: (e.afterAll cs).snapshots stretches

variable {e : Engine}

lemma head?_snapshots (e : Engine) (stretches : List (List EngineCall)) :
    (e.snapshots stretches).head? = some (ofEngine e) := by
  cases stretches <;> rfl

lemma getLast?_snapshots (e : Engine) (stretches : List (List EngineCall)) :
    (e.snapshots stretches).getLast? = some (ofEngine (e.afterAll stretches.flatten)) := by
  induction stretches generalizing e with
  | nil => rfl
  | cons cs stretches ih =>
    have hne : (e.afterAll cs).snapshots stretches ≠ [] := by
      cases stretches <;> exact List.cons_ne_nil _ _
    rw [snapshots, List.getLast?_cons_of_ne_nil hne, ih, List.flatten_cons, afterAll_append]

lemma changes_snapshots_cons (e : Engine) (cs : List EngineCall)
    (stretches : List (List EngineCall)) :
    changes (e.snapshots (cs :: stretches)) =
      (ofEngine (e.afterAll cs)).since (ofEngine e) ::
        changes ((e.afterAll cs).snapshots stretches) := by
  cases stretches <;> rfl

/-- Over stretches in which its counter does not wrap around, the changes of a flow are what the
calls gained. -/
lemma sum_changes_snapshots (stretches : List (List EngineCall)) {f : Flow}
    (h : e.counters.get f.counter + e.gains f.counter stretches.flatten < UInt64.size) :
    ((changes (e.snapshots stretches)).map (·.flows.get f)).sum =
      e.gains f.counter stretches.flatten := by
  induction stretches generalizing e with
  | nil => rfl
  | cons cs stretches ih =>
    rw [List.flatten_cons, gains_append] at h ⊢
    have hnow : e.counters.get f.counter = wrap64 (e.counters.get f.counter) :=
      (wrap64_of_lt (by omega)).symm
    have hafter : (e.afterAll cs).counters.get f.counter =
        e.counters.get f.counter + e.gains f.counter cs := by
      rw [get_counters_afterAll f.times_counter hnow, wrap64_of_lt (by omega)]
    rw [changes_snapshots_cons, List.map_cons, List.sum_cons, ih (by omega),
      Metrics.get_flows_since, Metrics.get_flows_ofEngine, Metrics.get_flows_ofEngine, hafter]
    omega

/-- Interval metrics telescope.  Take snapshots at any points of a run from the start of an engine
on. As long as the counter of a flow does not wrap around, which it does only where the gains of
the calls are more than a machine word can hold, the changes from snapshot to snapshot add up to
the change from the first to the last, which is what the calls between these added to the counter.
All that is not a flow or a mean is in each change as in the later snapshot. -/
theorem intervals_telescope (t : Topology) (config : EngineConfig) (tunables : TunablesCell)
    (hints : Hints) (host : Host) :
    ∃ e₀, start t config tunables hints host = .ok e₀ ∧
      ∀ before stretches e e', e₀.afterAll before = e → e.afterAll stretches.flatten = e' →
        ∃ m₀ mₙ, (e.snapshots stretches).head? = some m₀ ∧
          (e.snapshots stretches).getLast? = some mₙ ∧
          (∀ f : Flow, e₀.gains f.counter (before ++ stretches.flatten) < UInt64.size →
            m₀.flows.get f = e.counters.get f.counter ∧
            mₙ.flows.get f = e'.counters.get f.counter ∧
            ((changes (e.snapshots stretches)).map (·.flows.get f)).sum + m₀.flows.get f =
              mₙ.flows.get f ∧
            ((changes (e.snapshots stretches)).map (·.flows.get f)).sum =
              e.gains f.counter stretches.flatten) ∧
          (changes (e.snapshots stretches)).map lasting =
            (e.snapshots stretches).tail.map lasting := by
  obtain ⟨queues, -, hstart⟩ := exists_start t config tunables hints host
  refine ⟨_, hstart, fun before stretches e e' he he' => ?_⟩
  subst he'
  refine ⟨_, _, head?_snapshots e stretches, getLast?_snapshots e stretches, fun f hf => ?_,
    Metrics.map_lasting_changes _⟩
  rw [gains_append, he] at hf
  have hzero : e.counters.get f.counter = _ :=
    he ▸ get_counters_afterAll (a := 0) f.times_counter (Ledger.get_zero _) before
  rw [Nat.zero_add, wrap64_of_lt (by omega)] at hzero
  have hsum := sum_changes_snapshots (e := e) stretches (f := f) (by omega)
  have hlast := get_counters_afterAll (e := e) f.times_counter
    (wrap64_of_lt (by omega)).symm stretches.flatten
  rw [wrap64_of_lt (by omega)] at hlast
  rw [Metrics.get_flows_ofEngine, Metrics.get_flows_ofEngine, hsum, hlast]
  exact ⟨rfl, rfl, Nat.add_comm _ _, rfl⟩

/-- What the answers to whoever asks tell of a flow adds up to what was gained in between, as long as
no more calls were made than a machine word can count the gains of. -/
theorem sum_answers_snapshots {t : Topology} {config : EngineConfig} {tunables : TunablesCell}
    {hints : Hints} {host : Host} (he : start t config tunables hints host = .ok e)
    (stretches : List (List EngineCall)) (hfew : 14 * stretches.flatten.length < UInt64.size)
    (f : Flow) :
    ((Metrics.answers (e.snapshots stretches)).map (·.flows.get f)).sum =
      e.gains f.counter stretches.flatten := by
  have hzero : e.counters.get f.counter = 0 := by
    obtain ⟨queues, -, hstart⟩ := exists_start t config tunables hints host
    obtain rfl := Except.ok.inj (hstart.symm.trans he)
    exact Ledger.get_zero f.counter
  rw [Metrics.map_flows_answers]
  refine sum_changes_snapshots stretches ?_
  rw [hzero, Nat.zero_add]
  exact (gains_le f.times_counter _).trans_lt hfew

/-- A game and a compiler wake up and are enqueued between some snapshots, and are handed out
between others. -/
def watchedStretches : List (List EngineCall) :=
  [[.selectCpu (player 5 "wine64") 0, .enqueue (player 5 "wine64")], [],
    [.enqueue (player 3 "make"), .dispatch 0, .dispatch 1], [.enqueue (player 5 "wine64")]]

theorem intervals_telescope_watchedStretches :
    let before : List EngineCall := [.enqueue (player 7 "sh")]
    let e := onTwoDomains.afterAll before
    onTwoDomains.gains .enqueued (before ++ watchedStretches.flatten) < UInt64.size ∧
      (changes (e.snapshots watchedStretches)).map (·.flows.get .enqueued) = [1, 0, 1, 1] ∧
      ((changes (e.snapshots watchedStretches)).map (·.flows.get .enqueued)).sum + 1 =
        (e.afterAll watchedStretches.flatten).counters.get .enqueued ∧
      ((changes (e.snapshots watchedStretches)).map (·.flows.get .enqueued)).sum = 3 ∧
      ((changes (e.snapshots watchedStretches)).map lasting).map (·.2.1) = [2, 2, 1, 2] := by
  intro before e
  obtain ⟨e₀, hstart, h⟩ := intervals_telescope .twoDomains { taskCapacity := 0 } none {}
    (.ofTopology .twoDomains)
  obtain rfl : onTwoDomains = e₀ := Except.ok.inj (start_twoDomains.symm.trans hstart)
  obtain ⟨m₀, mₙ, -, -, hflows, hlasting⟩ := h before watchedStretches e _ rfl rfl
  have hgains : onTwoDomains.gains .enqueued (before ++ watchedStretches.flatten) < UInt64.size :=
    (gains_le (k := .enqueued) rfl _).trans_lt (by decide)
  obtain ⟨hfirst, hlast, hsum, hgained⟩ := hflows .enqueued hgains
  have hone : m₀.flows.get .enqueued = 1 := hfirst.trans (by decide +kernel)
  rw [hone, hlast] at hsum
  refine ⟨hgains, ?_, hsum, hgained.trans ?_, ?_⟩
  · decide +kernel
  · decide +kernel
  · rw [hlasting]
    decide +kernel

end Engine

end CoreSteer
