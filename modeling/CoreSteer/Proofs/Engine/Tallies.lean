import CoreSteer.Proofs.Engine.Observers
import CoreSteer.Proofs.Engine.Reports
/-!
# Counters and events tell the same

Of most that an engine reports it also counts how often: the counter and the event are written one
beside the other, in different places for different kinds.  `Machine.Counted` says that a step counts
exactly what it reports, whether the stream has room for it or not, and kicks a core for each event
that says so; it holds of each step and of steps in sequence.  `Engine.Tells` says the same of a call.
-/
namespace CoreSteer

/-! ## Kinds of events -/

/-- The counter that counts the events of a kind, if there is one. -/
def EventKind.counter? : EventKind → Option Counter
  | domainMigration => some .lowLatencyMigrations
  | preemptKick => some .preemptKicks
  | highLatency => some .gamingLateFrames
  | domainImbalance => some .imbalanceEvents
  | gamingDetected | profileMatch => none

lemma EventKind.counter?_inj {j k : EventKind} {c : Counter} (hj : j.counter? = some c)
    (hk : k.counter? = some c) : j = k := by
  cases j <;> cases hj <;> cases k <;> first | rfl | cases hk

/-- The counters that count no events. -/
def CounterSet.unreported : CounterSet
  | .lowLatencyMigrations | .preemptKicks | .gamingLateFrames | .imbalanceEvents => false
  | _ => true

lemma CounterSet.unreported_of_counter? {kind : EventKind} {k : Counter}
    (h : kind.counter? = some k) : unreported k = false := by
  cases kind <;> cases h <;> rfl

/-- How many events are of a kind. -/
def tally (kind : EventKind) (rs : List SchedEvent) : Nat := rs.countP (·.kind == kind)

lemma tally_append (kind : EventKind) (as bs : List SchedEvent) :
    tally kind (as ++ bs) = tally kind as + tally kind bs := List.countP_append

lemma tally_singleton (kind : EventKind) (r : SchedEvent) :
    tally kind [r] = if r.kind = kind then 1 else 0 := by
  simp [tally, List.countP_singleton]

lemma tally_eq_zero {kind : EventKind} {rs : List SchedEvent} (h : ∀ r ∈ rs, r.kind ≠ kind) :
    tally kind rs = 0 :=
  List.countP_eq_zero.2 fun r hr => by simpa using h r hr

/-- Each event is of one kind. -/
lemma length_eq_tallies (rs : List SchedEvent) :
    rs.length = tally .domainMigration rs + tally .preemptKick rs + tally .highLatency rs +
      tally .domainImbalance rs + tally .gamingDetected rs + tally .profileMatch rs := by
  induction rs with
  | nil => rfl
  | cons r rs ih =>
    have hcons : ∀ kind, tally kind (r :: rs) = (if r.kind = kind then 1 else 0) + tally kind rs := by
      intro kind
      rw [← tally_singleton, ← tally_append]
      rfl
    simp only [hcons, List.length_cons, ih]
    cases r.kind <;> simp <;> omega

/-- Events all of which are counted. -/
def AllCounted (rs : List SchedEvent) : Prop := ∀ r ∈ rs, r.kind.counter? ≠ none

lemma allCounted_nil : AllCounted [] := fun _ h => absurd h List.not_mem_nil

lemma allCounted_singleton {r : SchedEvent} (h : r.kind.counter? ≠ none) : AllCounted [r] :=
  fun _ hr => List.mem_singleton.1 hr ▸ h

lemma AllCounted.append {as bs : List SchedEvent} (ha : AllCounted as) (hb : AllCounted bs) :
    AllCounted (as ++ bs) := fun r hr => (List.mem_append.1 hr).elim (ha r) (hb r)

lemma AllCounted.filter_eq_nil {rs : List SchedEvent} (h : AllCounted rs) {kind : EventKind}
    (hkind : kind.counter? = none) : rs.filter (·.kind == kind) = [] :=
  List.filter_eq_nil_iff.2 fun r hr heq => h r hr ((beq_iff_eq.1 heq).symm ▸ hkind)

lemma AllCounted.tally_eq_zero {rs : List SchedEvent} (h : AllCounted rs) {kind : EventKind}
    (hkind : kind.counter? = none) : tally kind rs = 0 := by
  rw [tally, List.countP_eq_length_filter, h.filter_eq_nil hkind]
  rfl

/-! ## Steps -/

namespace Machine

/-- A step that made the second machine of the first one counted the events of the list, and kicked
as many cores as they say. -/
structure Counted (m : Machine) (rs : List SchedEvent) (n : Machine) : Prop where
  /-- Counters went on by the number of events of their kind. -/
  counters : ∀ kind k, kind.counter? = some k → ∀ a, m.counters.get k = wrap64 a →
    n.counters.get k = wrap64 (a + tally kind rs)
  /-- As many cores were kicked as events say. -/
  kicks : n.host.kicks.size = m.host.kicks.size + tally .preemptKick rs

namespace Counted

variable {l m n : Machine} {rs rs' : List SchedEvent}

lemma trans (h : Counted l rs m) (h' : Counted m rs' n) : Counted l (rs ++ rs') n where
  counters kind k hk a ha := by
    rw [tally_append, ← Nat.add_assoc]
    exact h'.counters kind k hk _ (h.counters kind k hk a ha)
  kicks := by
    rw [h'.kicks, h.kicks, tally_append, Nat.add_assoc]

/-- A step that kicks nobody and counts elsewhere only may report what nobody counts. -/
lemma of_sameBut (h : m.counters.SameBut .unreported n.counters)
    (hk : n.host.kicks.size = m.host.kicks.size) (hrs : ∀ r ∈ rs, r.kind.counter? = none) :
    Counted m rs n := by
  have hzero : ∀ kind k, kind.counter? = some k → tally kind rs = 0 := by
    refine fun kind k hkind => tally_eq_zero fun r hr heq => ?_
    have hnone := hrs r hr
    rw [heq, hkind] at hnone
    cases hnone
  refine ⟨fun kind k hkind a ha => ?_, ?_⟩
  · rw [h k (CounterSet.unreported_of_counter? hkind), ha, hzero kind k hkind]
    rfl
  · rw [hk, hzero .preemptKick _ rfl]
    rfl

lemma silent (h : m.counters.SameBut .unreported n.counters)
    (hk : n.host.kicks.size = m.host.kicks.size) : Counted m [] n :=
  .of_sameBut h hk fun _ hr => absurd hr List.not_mem_nil

/-- A step that counts and reports one event. -/
lemma of_bump {r : SchedEvent} {k : Counter} (hr : r.kind.counter? = some k)
    (hc : n.counters = m.counters.bump k)
    (hk : n.host.kicks.size = m.host.kicks.size + tally .preemptKick [r]) : Counted m [r] n := by
  refine ⟨fun kind j hj a ha => ?_, hk⟩
  rw [hc, tally_singleton]
  split
  · next heq =>
    obtain rfl : k = j := Option.some.inj (hr.symm.trans (heq ▸ hj))
    rw [Counters.get_bump_self, ha, wrap64_wrap64_add]
  · next hne =>
    have hjk : j ≠ k := by
      rintro rfl
      exact hne (EventKind.counter?_inj hr hj)
    rw [Counters.get_bump_of_ne _ hjk, ha]
    rfl

end Counted

/-- What is done to a machine reports the events of the list, whatever stream the machine has, and
counts them. -/
structure Tells (f : Machine → Machine) (m : Machine) (rs : List SchedEvent) : Prop where
  /-- The events are reported, and the stream matters for nothing else. -/
  reports : ∀ ev, f (m.reportingTo ev) = (f m).reportingTo (ev.emitAll rs)
  /-- They are counted. -/
  counted : Counted m rs (f m)
  /-- They are of kinds that are counted. -/
  kinds : AllCounted rs

namespace Tells

variable {f g : Machine → Machine} {m : Machine} {rs rs' : List SchedEvent}

lemma comp (h : Tells f m rs) (h' : Tells g (f m) rs') :
    Tells (fun m => g (f m)) m (rs ++ rs') where
  reports ev := by
    rw [h.reports, h'.reports, EventStream.emitAll, EventStream.emitAll, EventStream.emitAll,
      List.foldl_append]
  counted := h.counted.trans h'.counted
  kinds := h.kinds.append h'.kinds

lemma silent (hr : ∀ ev, f (m.reportingTo ev) = (f m).reportingTo ev)
    (hc : m.counters.SameBut .unreported (f m).counters)
    (hk : (f m).host.kicks.size = m.host.kicks.size) : Tells f m [] :=
  ⟨hr, .silent hc hk, allCounted_nil⟩

/-- It is enough to know what is done, whatever stream the machine has. -/
lemma congr (h : Tells f m rs) (hg : ∀ ev, g (m.reportingTo ev) = f (m.reportingTo ev)) :
    Tells g m rs := by
  have hm : g m = f m := hg m.events
  exact ⟨fun ev => by rw [hg, hm, h.reports], hm ▸ h.counted, h.kinds⟩

lemma nothing (m : Machine) : Tells (fun m => m) m [] := .silent (fun _ => rfl) (.refl _ _) rfl

/-- A step that counts one event, and may kick a core for it, reports it. -/
lemma of_report {r : SchedEvent} {k : Counter} (hr : r.kind.counter? = some k)
    (hf : ∀ ev, f (m.reportingTo ev) = (f m).reportingTo (ev.emit r))
    (hc : (f m).counters = m.counters.bump k)
    (hk : (f m).host.kicks.size = m.host.kicks.size + tally .preemptKick [r]) : Tells f m [r] :=
  ⟨hf, .of_bump hr hc hk, allCounted_singleton fun hnone => by rw [hr] at hnone; cases hnone⟩

end Tells

variable (m : Machine) (task : Task)

/-! ### Waiting -/

lemma tells_countEnqueue : Tells (·.countEnqueue task) m [] :=
  .silent (fun _ => rfl) ((Counters.SameBut.refl _ _).bump rfl) rfl

lemma tells_countGamingEnqueue : Tells (·.countGamingEnqueue task) m [] :=
  .silent (fun _ => rfl) ((Counters.SameBut.refl _ _).bump rfl) rfl

lemma tells_countCall (cpu : Nat) : Tells (·.countCall cpu) m [] :=
  .silent (fun _ => rfl) (.refl _ _) rfl

lemma tells_bump {k : Counter} (hk : CounterSet.unreported k = true) : Tells (·.bump k) m [] :=
  .silent (fun _ => rfl) ((Counters.SameBut.refl _ _).bump hk) rfl

lemma tells_modifyCore (cpu : Nat) (f : CoreState → CoreState) : Tells (·.modifyCore cpu f) m [] :=
  .silent (fun _ => rfl) (.refl _ _) rfl

lemma tells_modifyLoadAt (cpu : Nat) (f : DomainLoad → DomainLoad) :
    Tells (·.modifyLoadAt cpu f) m [] := by
  refine .silent (fun ev => ?_) ?_ ?_
  · unfold modifyLoadAt
    rcases hd : m.topology.domainOf? cpu with _ | d
    · rw [show (m.reportingTo ev).topology.domainOf? cpu = none from hd]
    · rw [show (m.reportingTo ev).topology.domainOf? cpu = some d from hd]
      rfl
  · rw [modifyLoadAt_eq]
    exact .refl _ _
  · rw [modifyLoadAt_eq]

lemma tells_kickVictim (domain : Nat) : ∃ rs, Tells (·.kickVictim task domain) m rs := by
  have hvictim : ∀ ev, (m.reportingTo ev).victim? domain .gaming = m.victim? domain .gaming :=
    fun _ => rfl
  rcases hv : m.victim? domain .gaming with _ | cpu
  · exact ⟨[], (Tells.nothing m).congr fun ev => by rw [kickVictim, hvictim, hv]⟩
  · have hkick : Tells (fun m => ({ m with host := m.host.kick cpu { preempt := true } }.bump
        .preemptKicks).emit (((SchedEvent.make .preemptKick m.host.now task.pid cpu).inDomain
          domain).withValues Urgency.gaming.level 0)) m
        [((SchedEvent.make .preemptKick m.host.now task.pid cpu).inDomain domain).withValues
          Urgency.gaming.level 0] :=
      .of_report (k := .preemptKicks) rfl (fun _ => rfl) rfl (Array.size_push _)
    exact ⟨_, hkick.congr fun ev => by rw [kickVictim, hvictim, hv]⟩

lemma tells_attend (flags : TaskFlags) : ∃ rs, Tells (·.attend task flags) m rs := by
  have hcount := m.tells_countGamingEnqueue task
  unfold attend
  split
  · split
    · obtain ⟨rs, h⟩ := (m.countGamingEnqueue task).tells_kickVictim task m.topology.lowLatencyDomain
      exact ⟨_, hcount.comp (g := fun m => m.kickVictim task m.topology.lowLatencyDomain)
        ⟨h.reports, h.counted, h.kinds⟩⟩
    · exact ⟨[], hcount⟩
  · split
    · exact ⟨[], m.tells_bump rfl⟩
    · exact ⟨[], .silent (fun _ => rfl) (.refl _ _) rfl⟩

/-! ### Running -/

lemma tells_accountWait (gaming : Bool) (latency : Nat) :
    ∃ rs, Tells (·.accountWait task gaming latency) m rs := by
  have hwait : m.counters.SameBut .unreported (m.counters.wait latency) :=
    ((((Counters.SameBut.refl .unreported m.counters).add rfl _).bump rfl).set rfl _).set rfl _
  cases gaming with
  | false => exact ⟨[], .silent (fun _ => rfl) hwait rfl⟩
  | true =>
    have hgaming := ((hwait.add (k := .gamingLatencySumNs) rfl latency).bump
      (k := .gamingLatencyCount) rfl).add (k := .gamingLatencySumSqUs) rfl
      (saturate64 (latency / 1000 * (latency / 1000)))
    unfold accountWait Counters.waitGaming
    by_cases hlate : lateFrame < latency
    · simp only [hlate, decide_true, if_true]
      refine ⟨[m.lateEvent task latency], fun _ => rfl, ?_,
        allCounted_singleton fun h => by cases h⟩
      exact (Counted.silent (n := { m with counters := _ }) hgaming rfl).trans
        (.of_bump (k := .gamingLateFrames) rfl rfl rfl)
    · simp only [hlate, decide_false, if_false]
      exact ⟨[], .silent (fun _ => rfl) hgaming rfl⟩

lemma tells_reportImbalance (heavy light : Nat × Nat) :
    ∃ rs, Tells (·.reportImbalance heavy light) m rs :=
  ⟨[(((SchedEvent.make .domainImbalance m.host.now 0 0).inDomain heavy.1).withPeer
    light.1).withValues heavy.2 light.2], .of_report (k := .imbalanceEvents) rfl (fun _ => rfl) rfl rfl⟩

lemma tells_checkImbalance : ∃ rs, Tells (·.checkImbalance) m rs := by
  have hdomains : ∀ ev, (m.reportingTo ev).comparedDomains = m.comparedDomains := fun _ => rfl
  rcases hc : m.comparedDomains with _ | ⟨a, b⟩
  · exact ⟨[], (Tells.nothing m).congr fun ev => by rw [checkImbalance, hdomains, hc]⟩
  · have hcheck : ∀ ev, (m.reportingTo ev).checkImbalance =
        if outweighs a.2 b.2 then (m.reportingTo ev).reportImbalance a b
        else if outweighs b.2 a.2 then (m.reportingTo ev).reportImbalance b a
        else m.reportingTo ev := fun ev => by rw [checkImbalance, hdomains, hc]
    by_cases hab : outweighs a.2 b.2
    · obtain ⟨rs, h⟩ := m.tells_reportImbalance a b
      exact ⟨rs, h.congr fun ev => by rw [hcheck, if_pos hab]⟩
    · by_cases hba : outweighs b.2 a.2
      · obtain ⟨rs, h⟩ := m.tells_reportImbalance b a
        exact ⟨rs, h.congr fun ev => by rw [hcheck, if_neg hab, if_pos hba]⟩
      · exact ⟨[], (Tells.nothing m).congr fun ev => by rw [hcheck, if_neg hab, if_neg hba]⟩

lemma tells_beginRun (urgency : Urgency) : Tells (·.beginRun task urgency) m [] :=
  (m.tells_modifyLoadAt task.cpu _).comp
    (g := fun n => n.modifyCore task.cpu (·.beginRun urgency task.pid m.host.now))
    (Machine.tells_modifyCore _ _ _) |>.congr fun _ => rfl

lemma tells_endRun (gaming : Bool) : Tells (·.endRun task gaming) m [] :=
  (m.tells_modifyLoadAt task.cpu _).comp
    (g := fun n => n.modifyCore task.cpu (·.endRun task.pid m.host.now))
    (Machine.tells_modifyCore _ _ _) |>.congr fun _ => rfl

end Machine

/-! ## Placing -/

/-- A placement so credited is counted where events are counted only if it is reported. -/
def Credit.Plain : Credit → Prop
  | .counter k => CounterSet.unreported k = true
  | _ => True

namespace Machine

variable (m : Machine) (task : Task)

lemma sameBut_countClaim (set : CoreSet) (rank : Nat) (whole : Bool) :
    m.counters.SameBut .unreported (m.countClaim set rank whole).counters := by
  have h₀ : m.counters.SameBut .unreported
      (if whole then m.bump .smtIdlePicks else m).counters := by
    split
    · exact (Counters.SameBut.refl _ _).bump rfl
    · exact .refl _ _
  unfold countClaim
  cases set with
  | domain d =>
    dsimp only
    split
    · exact h₀.bump rfl
    · exact h₀
  | performance => exact h₀.bump rfl
  | efficiency => exact h₀.bump rfl

lemma sameBut_look (set : CoreSet) (pool : CpuMask) (whole : Bool) :
    m.counters.SameBut .unreported (m.look set pool whole).2.counters := by
  unfold look
  split
  · exact .refl _ _
  · dsimp only
    split
    · exact sameBut_countClaim _ _ _ _
    · exact .refl _ _

lemma sameBut_pickIdle (set : CoreSet) (whole : Bool) :
    m.counters.SameBut .unreported (m.pickIdle task set whole).2.counters := by
  unfold pickIdle
  split
  · exact .refl _ _
  · next cores hcores =>
    dsimp only
    split
    · have h₁ := m.sameBut_look set (cores ∩ task.allowed ∩ m.host.idleWhole) true
      split
      · next cpu m' hl =>
        rw [hl] at h₁
        exact h₁
      · next m' hl =>
        rw [hl] at h₁
        exact h₁.trans (m'.sameBut_look set _ false)
    · exact m.sameBut_look set _ false

lemma plain_of_mem_stages {m : Machine} {strategy : Strategy} {s : TaskState} {prev : Nat}
    {g : Stage} (h : g ∈ m.stages strategy s prev) : g.credit.Plain := by
  cases strategy with
  | hybrid =>
    simp only [stages, hybridStages, List.mem_append, List.mem_ite_nil_right,
      List.mem_singleton] at h
    rcases h with ⟨-, rfl⟩ | ⟨-, rfl⟩ <;> trivial
  | cacheDomain =>
    simp only [stages] at h
    split at h
    · rcases credit_of_mem_cacheStages h with hg | ⟨_, _, k, hk, rfl⟩
      · rw [hg, migrationCredit]
        split <;> trivial
      · show CounterSet.unreported k = true
        cases k <;> first | rfl | cases hk
    · cases h

lemma tells_creditPlacement (s : TaskState) (cpu : Nat) {credit : Credit} (h : credit.Plain) :
    ∃ rs, Tells (·.creditPlacement task s cpu credit) m rs := by
  cases credit with
  | quiet => exact ⟨[], .nothing m⟩
  | counter k => exact ⟨[], m.tells_bump h⟩
  | migration source =>
    exact ⟨[m.migrationEvent task s cpu source],
      .of_report (k := .lowLatencyMigrations) rfl (fun _ => rfl) rfl rfl⟩

/-- A search for a core tells of nothing. -/
lemma counted_pickIdle (set : CoreSet) (whole : Bool) :
    Counted m [] (m.pickIdle task set whole).2 := by
  obtain ⟨host, hsearch, _, _, -, hn⟩ := m.searched_pickIdle task set whole
  refine .silent (m.sameBut_pickIdle task set whole) ?_
  rw [hn]
  exact congrArg Array.size hsearch.kicks_eq

/-- Placing a task tells that it moves, if it does. -/
lemma tells_runStages (s : TaskState) {stages : List Stage} (h : ∀ g ∈ stages, g.credit.Plain) :
    ∃ rs, AllCounted rs ∧ Counted m rs (m.runStages task s stages).2 ∧
      ∀ ev, (m.reportingTo ev).runStages task s stages =
        ((m.runStages task s stages).1,
          (m.runStages task s stages).2.reportingTo (ev.emitAll rs)) := by
  induction stages generalizing m with
  | nil => exact ⟨[], allCounted_nil, .silent (.refl _ _) rfl, fun _ => rfl⟩
  | cons g stages ih =>
    have hpick := m.pickIdle_reportingTo
    have hcounted := m.counted_pickIdle task g.set g.whole
    unfold runStages
    rcases hp : m.pickIdle task g.set g.whole with ⟨_ | cpu, m'⟩ <;> rw [hp] at hcounted
    · obtain ⟨rs, hkinds, hrest, hreports⟩ := ih m' fun g hg => h g (List.mem_cons_of_mem _ hg)
      refine ⟨rs, hkinds, hcounted.trans hrest, fun ev => ?_⟩
      rw [hpick, hp]
      exact hreports ev
    · obtain ⟨rs, hcredit⟩ := m'.tells_creditPlacement task s cpu (h g List.mem_cons_self)
      refine ⟨rs, hcredit.kinds, hcounted.trans hcredit.counted, fun ev => ?_⟩
      rw [hpick, hp]
      exact congrArg (Prod.mk (some cpu)) (hcredit.reports ev)

lemma tells_place (strategy : Strategy) (s : TaskState) (prev : Nat) :
    ∃ rs, AllCounted rs ∧ Counted m rs (m.place strategy task s prev).2 ∧
      ∀ ev, (m.reportingTo ev).place strategy task s prev =
        ((m.place strategy task s prev).1,
          (m.place strategy task s prev).2.reportingTo (ev.emitAll rs)) := by
  have hstages : ∀ ev, (m.reportingTo ev).stages strategy s prev = m.stages strategy s prev :=
    fun _ => by cases strategy <;> rfl
  obtain ⟨rs, hkinds, hcounted, hreports⟩ := m.tells_runStages task s
    fun g (hg : g ∈ m.stages strategy s prev) => plain_of_mem_stages hg
  exact ⟨rs, hkinds, hcounted, fun ev => by rw [place, hstages, hreports]; rfl⟩

lemma counted_refresh (s : TaskState) (prev : Nat) :
    Counted m (m.detected task s) (m.refresh task s prev).2 := by
  obtain ⟨counters, events, hc, hn⟩ := m.noted_refresh task s prev
  rw [hn]
  refine .of_sameBut (hc.mono fun k hk => ?_) rfl fun r hr => ?_
  · cases k <;> first | rfl | cases hk
  · unfold detected at hr
    split at hr
    · cases hr
    · split at hr
      · rw [List.mem_singleton.1 hr]
        rfl
      · cases hr

end Machine

/-! ## Calls -/

/-- Whether a call does not read events and cannot tell of anything that is not counted. -/
def EngineCall.isPlain : EngineCall → Bool
  | .selectCpu _ _ | .noteProfileMatch _ | .readEvents => false
  | _ => true

lemma EngineCall.read_of_isPlain {c : EngineCall} (h : c.isPlain = true) (ev : EventStream) :
    c.read ev = ev := by
  cases c <;> first | rfl | cases h

namespace Engine

lemma detected_of_isPlain (e : Engine) {c : EngineCall} (h : c.isPlain = true) :
    e.detected c = [] := by
  cases c <;> first | rfl | cases h

/-- A call counts the events that it reports, whatever stream the engine reports to. -/
structure Tells (e : Engine) (c : EngineCall) (rs : List SchedEvent) : Prop where
  /-- The call reports these events. -/
  reports : e.Reports c rs
  /-- It counts them. -/
  counters : ∀ kind k, kind.counter? = some k → ∀ a, e.counters.get k = wrap64 a →
    (e.after c).counters.get k = wrap64 (a + tally kind rs)
  /-- It kicks as many cores as they say, unless somebody else changes the platform. -/
  kicks : (∀ host, c ≠ .platform host) →
    (e.after c).host.kicks.size = e.host.kicks.size + tally .preemptKick rs
  /-- They say that a task is gaming if that is found out. -/
  detected : rs.filter (·.kind == .gamingDetected) = e.detected c
  /-- They say that a profile was applied if somebody says so. -/
  profiles : tally .profileMatch rs = match c with | .noteProfileMatch _ => 1 | _ => 0

/-- Something done to the machine is all that becomes of it in a call that reads nothing and tells of
nothing that is not counted. -/
lemma Tells.of_machine {e : Engine} {c : EngineCall} {f : Machine → Machine}
    {rs : List SchedEvent} (h : Machine.Tells f e.toMachine rs) (hplain : c.isPlain = true)
    (hc : ∀ ev, ((e.reportingTo ev).after c).toMachine = f (e.toMachine.reportingTo ev)) :
    e.Tells c rs := by
  have hafter : (e.after c).toMachine = f e.toMachine := hc e.events
  refine ⟨fun ev => ?_, ?_, fun _ => ?_, ?_, ?_⟩
  · rw [hc, h.reports, c.read_of_isPlain hplain]
    rfl
  · rw [hafter]
    exact h.counted.counters
  · rw [hafter]
    exact h.counted.kicks
  · rw [e.detected_of_isPlain hplain]
    exact h.kinds.filter_eq_nil rfl
  · rw [h.kinds.tally_eq_zero rfl]
    cases c <;> first | rfl | cases hplain

/-- A call that tells of nothing may do what it likes, if it counts elsewhere only and kicks nobody. -/
lemma Tells.silent {e : Engine} {c : EngineCall}
    (hr : ∀ ev, ((e.reportingTo ev).after c).events = c.read ev)
    (hc : (e.after c).counters = e.counters)
    (hk : (∀ host, c ≠ .platform host) → (e.after c).host = e.host) (hdetected : e.detected c = [])
    (hprofile : ∀ task, c ≠ .noteProfileMatch task) : e.Tells c [] := by
  refine ⟨hr, fun kind k _ a ha => ?_, fun hp => ?_, ?_, ?_⟩
  · rw [hc, ha]
    rfl
  · rw [hk hp]
    rfl
  · rw [hdetected]
    rfl
  · split
    · exact absurd rfl (hprofile _)
    · rfl

lemma counted_settle (e : Engine) (task : Task) (prev : Nat) (found : Option Nat) :
    Machine.Counted e.toMachine [] (e.settle task prev found).2.toMachine := by
  obtain ⟨host, counted, hkicks, hsettled⟩ := e.exists_settle task prev found
  rw [hsettled]
  exact .silent ((Counters.SameBut.refl _ _).bumpIf rfl counted) (congrArg Array.size hkicks)

lemma tells_selectCpu (e : Engine) (task : Task) (prev : Nat) :
    ∃ rs, e.Tells (.selectCpu task prev) rs := by
  rcases hw : e.woken? task prev with _ | s
  · have hnot : ∀ ev, (e.reportingTo ev).after (.selectCpu task prev) =
        (e.reportingTo ev).onTasks (·.track task.pid) := fun ev => by
      rw [after, selectCpu_of_not_woken? ((e.woken?_reportingTo ev task prev).trans hw)]
    have hdetected : e.detected (.selectCpu task prev) = [] := by rw [detected, hw]
    exact ⟨[], .silent (fun ev => by rw [hnot]; rfl) (congrArg (·.counters) (hnot e.events))
      (fun _ => congrArg (·.host) (hnot e.events)) hdetected fun _ h => by cases h⟩
  · obtain ⟨rs, hkinds, hplaced, hreports⟩ := (e.toMachine.refresh task s prev).2.tells_place task
      e.strategy (e.toMachine.refresh task s prev).1 prev
    have hdetected : e.detected (.selectCpu task prev) = e.toMachine.detected task s := by
      rw [detected, hw]
    have hgaming : ∀ r ∈ e.toMachine.detected task s, r.kind = .gamingDetected :=
      fun r hr => e.kind_of_mem_detected (hdetected ▸ hr)
    -- the task is refreshed, a core is sought, and the task settles: only the last tells of nothing
    have hcounted := ((e.toMachine.counted_refresh task s prev).trans hplaced).trans (counted_settle
      ((e.onTasks fun t =>
        (t.track task.pid).put task.pid (e.toMachine.refresh task s prev).1).onMachine fun _ =>
          (e.seekCore task s prev).2) task prev (e.seekCore task s prev).1)
    rw [List.append_nil] at hcounted
    refine ⟨e.toMachine.detected task s ++ rs, fun ev => ?_, ?_, fun _ => ?_, ?_, ?_⟩
    · have hw' := (e.woken?_reportingTo ev task prev).trans hw
      have hrefresh : (e.reportingTo ev).toMachine.refresh task s prev = _ :=
        e.toMachine.refresh_reportingTo ev task s prev
      have hseek : (e.reportingTo ev).seekCore task s prev =
          ((e.seekCore task s prev).1,
            (e.seekCore task s prev).2.reportingTo
              ((ev.emitAll (e.toMachine.detected task s)).emitAll rs)) := by
        rw [seekCore, hrefresh]
        exact hreports _
      rw [after, selectCpu_of_woken? hw', events_settle, hseek]
      exact List.foldl_append.symm
    · rw [after, selectCpu_of_woken? hw]
      exact hcounted.counters
    · rw [after, selectCpu_of_woken? hw]
      exact hcounted.kicks
    · rw [List.filter_append, hkinds.filter_eq_nil rfl, hdetected, List.append_nil]
      exact List.filter_eq_self.2 fun r hr => beq_iff_eq.2 (hgaming r hr)
    · rw [tally_append, hkinds.tally_eq_zero rfl]
      exact tally_eq_zero fun r hr h => by
        rw [hgaming r hr] at h
        cases h

lemma tells_enqueue (e : Engine) (task : Task) : ∃ rs, e.Tells (.enqueue task) rs := by
  have hcount := e.toMachine.tells_countEnqueue task
  have htask : ∀ ev, ((e.reportingTo ev).tasks.track task.pid).get? task.pid =
      (e.tasks.track task.pid).get? task.pid := fun _ => rfl
  rcases hs : (e.tasks.track task.pid).get? task.pid with _ | s
  · exact ⟨[], .of_machine hcount rfl fun ev => by rw [after, toMachine_enqueue, htask, hs]; rfl⟩
  · obtain ⟨rs, hattend⟩ := (e.toMachine.countEnqueue task).tells_attend task s.flags
    exact ⟨_, .of_machine (hcount.comp hattend) rfl fun ev => by
      rw [after, toMachine_enqueue, htask, hs]; rfl⟩

lemma tells_dispatch (e : Engine) (cpu : Nat) : ∃ rs, e.Tells (.dispatch cpu) rs := by
  have hcall := e.toMachine.tells_countCall cpu
  have hqueues : ∀ ev, (e.reportingTo ev).queues.popFirst?
      (drainOrder (e.reportingTo ev).topology cpu) =
        e.queues.popFirst? (drainOrder e.topology cpu) := fun _ => rfl
  cases hp : (e.queues.popFirst? (drainOrder e.topology cpu)).isSome with
  | false =>
    exact ⟨[], .of_machine hcall rfl fun ev => by rw [after, toMachine_dispatch, hqueues, hp]; rfl⟩
  | true =>
    have hbump := Machine.tells_bump (e.toMachine.countCall cpu) (k := .dispatched) rfl
    exact ⟨_, .of_machine (hcall.comp hbump) rfl fun ev => by
      rw [after, toMachine_dispatch, hqueues, hp]; rfl⟩

lemma tells_running (e : Engine) (task : Task) : ∃ rs, e.Tells (.running task) rs := by
  have hbegin := fun m : Machine => m.tells_beginRun task (TaskState.urgency (e.task? task.pid))
  have htask : ∀ ev, (e.reportingTo ev).task? task.pid = e.task? task.pid := fun _ => rfl
  by_cases hwaited : ∃ s, e.task? task.pid = some s ∧ 0 < s.enqueuedAt
  · obtain ⟨s, hs, hpos⟩ := hwaited
    obtain ⟨rs, hwait⟩ := e.toMachine.tells_accountWait task s.flags.gaming
      (e.host.now - s.enqueuedAt)
    refine ⟨_, .of_machine (hwait.comp (hbegin _)) rfl fun ev => ?_⟩
    rw [after, toMachine_running, htask, hs]
    dsimp only
    rw [if_pos hpos]
    rfl
  · refine ⟨[], .of_machine (hbegin e.toMachine) rfl fun ev => ?_⟩
    rw [after, toMachine_running, htask]
    split
    · rfl
    · next s hs => rw [if_neg fun hpos => hwaited ⟨s, hs, hpos⟩]; rfl

lemma tells_stopping (e : Engine) (task : Task) (runnable : Bool) :
    ∃ rs, e.Tells (.stopping task runnable) rs := by
  have hend := fun m : Machine => m.tells_endRun task (TaskState.isGaming (e.task? task.pid))
  have htask : ∀ ev, (e.reportingTo ev).task? task.pid = e.task? task.pid := fun _ => rfl
  cases hp : TaskState.isGaming (e.task? task.pid) && runnable with
  | false =>
    exact ⟨[], .of_machine (hend e.toMachine) rfl fun ev => by
      rw [after, toMachine_stopping, htask, hp]; rfl⟩
  | true =>
    have hbump := Machine.tells_bump e.toMachine (k := .gamingPreempted) rfl
    exact ⟨_, .of_machine (hbump.comp (hend _)) rfl fun ev => by
      rw [after, toMachine_stopping, htask, hp]; rfl⟩

lemma tells_tick (e : Engine) (cpu : Nat) : ∃ rs, e.Tells (.tick cpu) rs := by
  have hsample := e.toMachine.tells_modifyCore cpu fun c =>
    { c with perf := c.perf.sample (e.host.perfOf cpu) e.host.now }
  have hcore : ∀ ev, (e.reportingTo ev).core? cpu = e.core? cpu := fun _ => rfl
  cases hc : (e.core? cpu).isNone with
  | true =>
    exact ⟨[], .of_machine (.nothing _) rfl fun ev => by rw [after, toMachine_tick, hcore, hc]; rfl⟩
  | false =>
    by_cases hcheck : cpu = e.config.monitorCpu ∧ 2 ≤ e.topology.nrDomains
    · obtain ⟨rs, hchecked⟩ := Machine.tells_checkImbalance (e.toMachine.modifyCore cpu _)
      refine ⟨_, .of_machine (hsample.comp hchecked) rfl fun ev => ?_⟩
      rw [after, toMachine_tick, hcore, hc]
      exact if_pos hcheck
    · refine ⟨[], .of_machine hsample rfl fun ev => ?_⟩
      rw [after, toMachine_tick, hcore, hc]
      exact if_neg hcheck

lemma tells_noteProfileMatch (e : Engine) (task : Task) :
    e.Tells (.noteProfileMatch task)
      [(SchedEvent.make .profileMatch e.host.now task.pid task.cpu).named task.name] := by
  have hcounted : Machine.Counted e.toMachine
      [(SchedEvent.make .profileMatch e.host.now task.pid task.cpu).named task.name]
      (e.noteProfileMatch task).toMachine :=
    .of_sameBut (.refl _ _) rfl fun r hr => by rw [List.mem_singleton.1 hr]; rfl
  exact ⟨fun _ => rfl, hcounted.counters, fun _ => hcounted.kicks, rfl, rfl⟩

/-- Every call counts the events that it reports. -/
theorem exists_tells (e : Engine) (c : EngineCall) : ∃ rs, e.Tells c rs := by
  cases c with
  | selectCpu task prev => exact e.tells_selectCpu task prev
  | enqueue task => exact e.tells_enqueue task
  | dispatch cpu => exact e.tells_dispatch cpu
  | running task => exact e.tells_running task
  | stopping task runnable => exact e.tells_stopping task runnable
  | tick cpu => exact e.tells_tick cpu
  | noteProfileMatch task => exact ⟨_, e.tells_noteProfileMatch task⟩
  | platform host =>
    exact ⟨[], .silent (fun _ => rfl) rfl (fun h => absurd rfl (h host)) rfl fun _ h => by cases h⟩
  | taskExit | exit | readEvents | settings | knowledge =>
    exact ⟨[], .silent (fun _ => rfl) rfl (fun _ => rfl) rfl fun _ h => by cases h⟩

/-- A call reports what it finds out about the task that it classifies, and nothing else about
classifications. -/
theorem reports_after (e : Engine) (c : EngineCall) :
    ∃ rs, e.Reports c rs ∧ rs.filter (·.kind == .gamingDetected) = e.detected c := by
  obtain ⟨rs, h⟩ := e.exists_tells c
  exact ⟨rs, h.reports, h.detected⟩

end Engine

end CoreSteer
