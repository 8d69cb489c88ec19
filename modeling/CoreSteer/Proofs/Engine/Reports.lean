import CoreSteer.Proofs.Engine.Findings
/-!
# What calls report

The stream of events may be full, so what a call reports cannot be read off the stream that it
leaves.  It can be read off what the call would leave for every stream that the engine might report
to: `Engine.Reports` lists the events that a call hands to the stream, whichever it is.  Nothing that
the engine decides depends on the stream.
-/
namespace CoreSteer

/-- The stream after several events, each of which was taken in or dropped. -/
def EventStream.emitAll (s : EventStream) (rs : List SchedEvent) : EventStream := rs.foldl emit s

namespace Machine

/-- The machine, reporting to another stream. -/
def reportingTo (m : Machine) (ev : EventStream) : Machine := { m with events := ev }

variable (m : Machine) (ev : EventStream) (task : Task)

/-! ## Classifying -/

/-- What classifying a task reports: that it is gaming, if it is and was not classified before. -/
def detected (s : TaskState) : List SchedEvent :=
  if s.flags.classified then []
  else if (m.classifyAnew task).1.gaming then [m.gamingDetected task (m.classifyAnew task).1]
  else []

lemma classify_reportingTo (s : TaskState) :
    (m.reportingTo ev).classify task s =
      ((m.classify task s).1, (m.classify task s).2.1,
        (m.classify task s).2.2.reportingTo (ev.emitAll (m.detected task s))) := by
  have hanew : (m.reportingTo ev).classifyAnew task =
      ((m.classifyAnew task).1, (m.classifyAnew task).2.reportingTo ev) := rfl
  unfold classify detected
  split
  · rfl
  · rw [hanew]
    dsimp only
    split <;> rfl

lemma refresh_reportingTo (s : TaskState) (prev : Nat) :
    (m.reportingTo ev).refresh task s prev =
      ((m.refresh task s prev).1,
        (m.refresh task s prev).2.reportingTo (ev.emitAll (m.detected task s))) := by
  unfold refresh
  rw [classify_reportingTo]
  rfl

/-! ## Placing -/

variable (set : CoreSet)

lemma countClaim_reportingTo (rank : Nat) (whole : Bool) :
    (m.reportingTo ev).countClaim set rank whole =
      (m.countClaim set rank whole).reportingTo ev := by
  unfold countClaim
  cases whole <;> cases set <;> dsimp only
  · split <;> rfl
  · rfl
  · rfl
  · split <;> rfl
  · rfl
  · rfl

lemma look_reportingTo (pool : CpuMask) (whole : Bool) :
    (m.reportingTo ev).look set pool whole =
      ((m.look set pool whole).1, (m.look set pool whole).2.reportingTo ev) := by
  have hbest : (m.reportingTo ev).bestOf? set pool = m.bestOf? set pool := rfl
  unfold look
  rw [hbest]
  rcases m.bestOf? set pool with _ | c
  · rfl
  · dsimp only
    rcases hc : m.host.claim c.cpu with ⟨won, host⟩
    have hclaim : (m.reportingTo ev).host.claim c.cpu = (won, host) := hc
    rw [hclaim]
    cases won with
    | false => rfl
    | true =>
      exact congrArg (Prod.mk _)
        (countClaim_reportingTo { m with host := host } ev set c.rank whole)

lemma pickIdle_reportingTo (whole : Bool) :
    (m.reportingTo ev).pickIdle task set whole =
      ((m.pickIdle task set whole).1, (m.pickIdle task set whole).2.reportingTo ev) := by
  unfold pickIdle
  have hset : (m.reportingTo ev).topology.coreSet? set = m.topology.coreSet? set := rfl
  rw [hset]
  rcases m.topology.coreSet? set with _ | cores
  · rfl
  · have hwhole : (m.reportingTo ev).prefersWhole = m.prefersWhole := rfl
    dsimp only
    rw [hwhole]
    split
    · have hlook := m.look_reportingTo ev set (cores ∩ task.allowed ∩ m.host.idleWhole) true
      have hhost : (m.reportingTo ev).host = m.host := rfl
      rw [hhost, hlook]
      rcases m.look set (cores ∩ task.allowed ∩ m.host.idleWhole) true with ⟨_ | cpu, m'⟩
      · exact m'.look_reportingTo ev set _ false
      · rfl
    · exact m.look_reportingTo ev set _ false

end Machine

/-! ## Calls -/

/-- What a call itself takes out of the stream. -/
def EngineCall.read : EngineCall → EventStream → EventStream
  | .readEvents => fun ev => ev.drain.2
  | _ => id

namespace Engine

/-- The engine, reporting to another stream. -/
def reportingTo (e : Engine) (ev : EventStream) : Engine := e.onMachine (·.reportingTo ev)

/-- Whatever stream an engine reports to, a call hands it the listed events, in order. -/
def Reports (e : Engine) (c : EngineCall) (rs : List SchedEvent) : Prop :=
  ∀ ev, ((e.reportingTo ev).after c).events = (c.read ev).emitAll rs

/-- What a call reports about classifications: that the task which wakes up is gaming, if it is and
was not classified before. -/
def detected (e : Engine) : EngineCall → List SchedEvent
  | .selectCpu task prev =>
    match e.woken? task prev with
    | some s => e.toMachine.detected task s
    | none => []
  | _ => []

lemma kind_of_mem_detected (e : Engine) {c : EngineCall} {r : SchedEvent}
    (h : r ∈ e.detected c) : r.kind = .gamingDetected := by
  unfold detected at h
  split at h
  · split at h
    · unfold Machine.detected at h
      split at h
      · cases h
      · split at h
        · rw [List.mem_singleton.1 h]
          rfl
        · cases h
    · cases h
  · cases h

lemma events_settle (e : Engine) (task : Task) (prev : Nat) (found : Option Nat) :
    (e.settle task prev found).2.events = e.events := by
  obtain ⟨_, _, -, hsettled⟩ := e.exists_settle task prev found
  rw [hsettled]
  rfl

lemma woken?_reportingTo (e : Engine) (ev : EventStream) (task : Task) (prev : Nat) :
    (e.reportingTo ev).woken? task prev = e.woken? task prev := rfl

end Engine

end CoreSteer
