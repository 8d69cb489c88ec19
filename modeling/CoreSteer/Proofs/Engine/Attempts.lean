import CoreSteer.Proofs.Engine.Verdicts
/-!
# Counters and events tell the same

What a run reports cannot be read off the stream that it leaves, since the stream may be full, and be
read meanwhile.  `Engine.Attempts` lists it: the events that would be handed to the stream, whatever
the stream were.  The stream keeps track of what was handed to it by `EventStream.Took`, the counters
count it by `Engine.Tells`, and both go on so from one happening to the next.
-/
namespace CoreSteer

/-! ## The stream -/

namespace EventStream

lemma emit_of_full {s : EventStream} (h : s.capacity ≤ s.length) (r : SchedEvent) :
    s.emit r = { s with dropped := wrap64 (s.dropped + 1) } :=
  if_pos (decide_eq_true h)

lemma emit_of_room {s : EventStream} (h : s.length < s.capacity) (r : SchedEvent) :
    s.emit r = { s with waiting := s.waiting.push r, emitted := wrap64 (s.emitted + 1) } :=
  if_neg fun hfull => absurd (of_decide_eq_true hfull) (Nat.not_le_of_lt h)

/-- Where there is room for all events, all are taken in. -/
lemma waiting_emitAll (s : EventStream) {rs : List SchedEvent}
    (h : s.length + rs.length ≤ s.capacity) :
    (s.emitAll rs).waiting.toList = s.waiting.toList ++ rs := by
  induction rs generalizing s with
  | nil => exact (List.append_nil _).symm
  | cons r rs ih =>
    rw [List.length_cons] at h
    have hemit := emit_of_room (s := s) (by omega) r
    have hrest : (s.emit r).length + rs.length ≤ (s.emit r).capacity := by
      rw [hemit, length, Array.size_push, ← length]
      dsimp only
      omega
    rw [emitAll, List.foldl_cons, ← emitAll, ih _ hrest, hemit, Array.toList_push,
      List.append_assoc]
    rfl

/-- The oldest event that waits is read. -/
lemma pop?_eq_some {s s' : EventStream} {r : SchedEvent} (h : s.pop? = some (r, s')) :
    ∃ waiting : Array SchedEvent,
      s.waiting.toList = r :: waiting.toList ∧ s' = { s with waiting := waiting } := by
  unfold pop? at h
  split at h
  · next hr =>
    obtain ⟨rfl, rfl⟩ := Prod.mk.inj (Option.some.inj h)
    obtain ⟨hpos, hhead⟩ := Array.getElem?_eq_some_iff.1 hr
    refine ⟨_, ?_, rfl⟩
    rw [Array.eraseIdxIfInBounds, dif_pos hpos, Array.toList_eraseIdx, List.eraseIdx_zero, ← hhead,
      ← Array.getElem_toList, List.getElem_zero]
    exact (List.cons_head_tail _).symm
  · cases h

/-- A stream in which `capacity` events may wait was handed the events of the first list, and those
of the second list were read. -/
structure Took (s : EventStream) (capacity : Nat) (rs got : List SchedEvent) : Prop where
  /-- So many events may wait. -/
  capacity_eq : s.capacity = capacity
  /-- No more wait. -/
  length_le : s.length ≤ capacity
  /-- What was read and what waits was handed over in that order. -/
  order : (got ++ s.waiting.toList).Sublist rs
  /-- What was taken in was read or waits. -/
  emitted : s.emitted = wrap64 (got.length + s.length)
  /-- What was not taken in was dropped. -/
  dropped : ∃ n, s.dropped = wrap64 n ∧ got.length + s.length + n = rs.length

namespace Took

variable {s : EventStream} {capacity : Nat} {rs got : List SchedEvent}

lemma ofCapacity (n : Nat) : (ofCapacity n).Took (max n 1) [] [] :=
  ⟨rfl, Nat.zero_le _, .refl _, rfl, 0, rfl, rfl⟩

lemma emit (h : s.Took capacity rs got) (r : SchedEvent) :
    (s.emit r).Took capacity (rs ++ [r]) got := by
  obtain ⟨n, hdropped, hn⟩ := h.dropped
  rcases Nat.lt_or_ge s.length s.capacity with hroom | hfull
  · rw [emit_of_room hroom]
    have hsize : (s.waiting.push r).size = s.length + 1 := Array.size_push _
    refine ⟨h.capacity_eq, ?_, ?_, ?_, n, hdropped, ?_⟩
    · rw [length, hsize, ← h.capacity_eq]
      exact hroom
    · rw [Array.toList_push, ← List.append_assoc]
      exact h.order.append (.refl _)
    · rw [length, hsize, h.emitted, wrap64_wrap64_add, Nat.add_assoc]
    · rw [length, hsize, List.length_append, List.length_singleton, ← hn]
      omega
  · rw [emit_of_full hfull]
    refine ⟨h.capacity_eq, h.length_le, h.order.trans (List.sublist_append_left _ _), h.emitted,
      n + 1, ?_, ?_⟩
    · rw [hdropped, wrap64_wrap64_add]
    · rw [List.length_append, List.length_singleton, ← hn]
      rfl

lemma emitAll (h : s.Took capacity rs got) (as : List SchedEvent) :
    (s.emitAll as).Took capacity (rs ++ as) got := by
  induction as generalizing s rs with
  | nil => rwa [List.append_nil]
  | cons a as ih =>
    have hrest := ih (h.emit a)
    rwa [List.append_assoc] at hrest

/-- Reading moves events from those that wait to those that were read. -/
lemma read (h : s.Took capacity rs got) (as : List SchedEvent) {waiting : Array SchedEvent}
    (hw : s.waiting.toList = as ++ waiting.toList) :
    Took { s with waiting := waiting } capacity rs (got ++ as) := by
  have hsize : s.length = as.length + waiting.size := by
    have hlength := congrArg List.length hw
    rwa [List.length_append, Array.length_toList, Array.length_toList] at hlength
  have hlength : (got ++ as).length + waiting.size = got.length + s.length := by
    rw [List.length_append, hsize, Nat.add_assoc]
  obtain ⟨n, hdropped, hn⟩ := h.dropped
  refine ⟨h.capacity_eq, ?_, ?_, ?_, n, hdropped, ?_⟩
  · exact Nat.le_trans (hsize ▸ Nat.le_add_left _ _) h.length_le
  · rw [List.append_assoc, ← hw]
    exact h.order
  · rw [length, hlength]
    exact h.emitted
  · rw [length, hlength]
    exact hn

end Took

end EventStream

/-! ## Happenings -/

namespace Happening

/-- What is taken out of the stream. -/
def read : Happening → EventStream → EventStream
  | call c => c.read
  | platform _ => id
  | readEvent => fun ev => (ev.pop?.map (·.2)).getD ev

/-- The events that somebody gets to read. -/
def got : Happening → EventStream → List SchedEvent
  | call .readEvents, ev => ev.drain.1
  | readEvent, ev => (ev.pop?.map (·.1)).toList
  | _, _ => []

/-- Whether somebody says that a profile was applied. -/
def isProfileMatch : Happening → Bool
  | call (.noteProfileMatch _) => true
  | _ => false

lemma read_of_isEmpty (x : Happening) {ev : EventStream} (h : ev.waiting = #[]) :
    x.read ev = ev := by
  rcases ev with ⟨capacity, waiting, emitted, dropped⟩
  obtain rfl : waiting = #[] := h
  cases x with
  | call c => cases c <;> rfl
  | platform react => rfl
  | readEvent => rfl

end Happening

lemma EventStream.Took.happening {s : EventStream} {capacity : Nat} {rs got : List SchedEvent}
    (h : s.Took capacity rs got) (x : Happening) :
    (x.read s).Took capacity rs (got ++ x.got s) := by
  have hnothing : s.Took capacity rs (got ++ []) := by rwa [List.append_nil]
  cases x with
  | call c =>
    cases c with
    | readEvents => exact h.read _ (List.append_nil _).symm
    | _ => exact hnothing
  | platform react => exact hnothing
  | readEvent =>
    show Took ((s.pop?.map (·.2)).getD s) capacity rs (got ++ (s.pop?.map (·.1)).toList)
    rcases hpop : s.pop? with _ | ⟨r, s'⟩
    · exact hnothing
    · obtain ⟨waiting, hw, rfl⟩ := pop?_eq_some hpop
      exact h.read [r] hw

namespace Engine

variable {e : Engine} {x : Happening} {xs : List Happening} {as rs rs' : List SchedEvent}

/-- Whatever stream an engine reports to, it hands it the listed events when something happens, in
order. -/
def HandsOver (e : Engine) (x : Happening) (rs : List SchedEvent) : Prop :=
  ∀ ev, ((e.reportingTo ev).undergo x).events = (x.read ev).emitAll rs

lemma HandsOver.unique (h : e.HandsOver x rs) (h' : e.HandsOver x rs') : rs = rs' := by
  -- a stream without events that has room for both lists tells them apart
  have hread : ∀ {as}, e.HandsOver x as → as.length ≤ rs.length + rs'.length →
      ((e.reportingTo { capacity := rs.length + rs'.length }).undergo x).events.waiting.toList =
        as := by
    intro as has hroom
    rw [has, x.read_of_isEmpty rfl, EventStream.waiting_emitAll]
    · rfl
    · exact (Nat.zero_add _).symm ▸ hroom
  exact (hread h (Nat.le_add_right _ _)).symm.trans (hread h' (Nat.le_add_left _ _))

/-- What a run hands to the stream, whatever the stream is. -/
inductive Attempts : Engine → List Happening → List SchedEvent → Prop where
  /-- Nothing happens. -/
  | nil (e : Engine) : Attempts e [] []
  /-- Something happens, and then more. -/
  | cons {e : Engine} {x : Happening} {xs : List Happening} {as bs : List SchedEvent}
      (h : e.HandsOver x as) (hrest : Attempts (e.undergo x) xs bs) : Attempts e (x :: xs) (as ++ bs)

lemma Attempts.unique (h : e.Attempts xs rs) (h' : e.Attempts xs rs') : rs = rs' := by
  induction h generalizing rs' with
  | nil e =>
    cases h'
    rfl
  | cons h _ ih =>
    cases h' with
    | cons h' hrest' => rw [h.unique h', ih hrest']

/-! ### What a run can be seen to do -/

/-- What is collected over a run. -/
def collect {α : Type} (f : Engine → Happening → List α) (e : Engine) : List Happening → List α
  | [] => []
  | x :: xs => f e x ++ (e.undergo x).collect f xs

/-- The events that somebody gets to read. -/
def gets (e : Engine) (x : Happening) : List SchedEvent := x.got e.events

/-- The kicks that the engine asks the platform for. -/
def kicksFor (e : Engine) (x : Happening) : List Kick :=
  match x with
  | .platform _ | .call (.platform _) => []
  | x => (e.undergo x).host.kicks.toList.drop e.host.kicks.size

/-- The task that is classified as gaming for the first time, if one is. -/
def discovers (e : Engine) (x : Happening) : List Task :=
  match x with
  | .call (.selectCpu task prev) =>
    if e.verdict? task.pid = none ∧
        ((e.after (.selectCpu task prev)).verdict? task.pid).any (·.1.gaming) then [task] else []
  | _ => []

/-- A call that classifies a task passes a verdict on it. -/
lemma passes?_selectCpu (e : Engine) (task : Task) (prev : Nat) :
    e.passes? task.pid (.selectCpu task prev) =
      (e.classifies? (.selectCpu task prev)).map e.judgement := by
  rw [passes?]
  rcases hc : e.classifies? (.selectCpu task prev) with _ | task'
  · rfl
  · obtain ⟨_, _, hcall, -, -⟩ := classifies?_eq_some hc
    obtain ⟨rfl, -⟩ := EngineCall.selectCpu.inj hcall
    rw [Option.filter_some, beq_self_eq_true]
    rfl

/-- What is reported about classifications is what is found out. -/
lemma length_detected (h : e.tasks.Sound) (c : EngineCall) :
    (e.detected c).length = (e.discovers (.call c)).length := by
  cases c with
  | selectCpu task prev =>
    have hpasses := e.passes?_selectCpu task prev
    rw [discovers]
    rcases hc : e.classifies? (.selectCpu task prev) with _ | task'
    · rw [hc, Option.map_none] at hpasses
      have hkept := verdict?_of_not_passes? h (fun h => by cases h) hpasses
      -- the verdict stays what it was, so the task is gaming now only if it was before
      have hnothing : ¬(e.verdict? task.pid = none ∧ (e.verdict? task.pid).any (·.1.gaming)) := by
        rintro ⟨hnone, hany⟩
        rw [hnone] at hany
        cases hany
      rw [detected_of_not_classifies? hc, hkept, if_neg hnothing]
      rfl
    · rw [hc, Option.map_some] at hpasses
      obtain ⟨hnone, hsome⟩ := verdict?_of_passes? h hpasses
      rw [detected_of_classifies? hc, hnone, hsome]
      by_cases hgaming : (e.judgement task').1.gaming = true
      · rw [if_pos hgaming, if_pos ⟨rfl, hgaming⟩]
        rfl
      · rw [if_neg hgaming, if_neg fun h => hgaming h.2]
        rfl
  | _ => rfl

/-! ### One happening -/

/-- What happens hands the listed events to the stream, and they tell all that there is to count. -/
structure Yields (e : Engine) (x : Happening) (as : List SchedEvent) : Prop where
  /-- They are handed to the stream. -/
  handsOver : e.HandsOver x as
  /-- They are counted. -/
  counters : ∀ kind k, kind.counter? = some k → ∀ a, e.counters.get k = wrap64 a →
    (e.undergo x).counters.get k = wrap64 (a + tally kind as)
  /-- Some say that a core was kicked. -/
  kicks : tally .preemptKick as = (e.kicksFor x).length
  /-- Some say that a task was classified as gaming. -/
  detected : tally .gamingDetected as = (e.discovers x).length
  /-- Some say that a profile was applied. -/
  profiles : tally .profileMatch as = if x.isProfileMatch then 1 else 0

lemma yields_of_silent (hx : e.HandsOver x []) (hc : (e.undergo x).counters = e.counters)
    (hk : e.kicksFor x = []) (hd : e.discovers x = []) (hp : x.isProfileMatch = false) :
    e.Yields x [] := by
  refine ⟨hx, fun kind k _ a ha => ?_, ?_, ?_, ?_⟩
  · rw [hc, ha]
    rfl
  · rw [hk]
    rfl
  · rw [hd]
    rfl
  · rw [hp]
    rfl

lemma length_kicksFor (e : Engine) {c : EngineCall} (hc : ∀ host, c ≠ .platform host) :
    (e.kicksFor (.call c)).length = (e.after c).host.kicks.size - e.host.kicks.size := by
  unfold kicksFor
  split
  · next h => cases h
  · next host h => exact absurd (Happening.call.inj h) (hc host)
  · exact List.length_drop

/-- Whatever happens, it yields some list of events. -/
lemma exists_yields (h : e.tasks.Sound) (x : Happening) : ∃ as, e.Yields x as := by
  cases x with
  | platform react => exact ⟨[], yields_of_silent (fun _ => rfl) rfl rfl rfl rfl⟩
  | readEvent =>
    have hkicks : e.kicksFor .readEvent = [] :=
      List.drop_eq_nil_of_le (Nat.le_of_eq Array.length_toList)
    exact ⟨[], yields_of_silent (fun _ => rfl) rfl hkicks rfl rfl⟩
  | call c =>
    by_cases hplatform : ∃ host, c = .platform host
    · -- kicks that come with another platform are not the engine's
      obtain ⟨host, rfl⟩ := hplatform
      exact ⟨[], yields_of_silent (fun _ => rfl) rfl rfl rfl rfl⟩
    · have hc : ∀ host, c ≠ .platform host := fun host hc => hplatform ⟨host, hc⟩
      obtain ⟨as, htells⟩ := e.exists_tells c
      refine ⟨as, htells.reports, htells.counters, ?_, ?_, ?_⟩
      · rw [e.length_kicksFor hc, htells.kicks hc, Nat.add_sub_cancel_left]
      · rw [tally, List.countP_eq_length_filter, htells.detected, length_detected h]
      · rw [htells.profiles]
        cases c <;> rfl

/-! ### Runs -/

/-- What became of the events that a run handed to the stream. -/
structure Recounts (e : Engine) (capacity : Nat) (rs got : List SchedEvent) : Prop where
  /-- The stream took them, unless it was full. -/
  stream : e.events.Took capacity rs got
  /-- They are counted. -/
  counters : ∀ kind k, kind.counter? = some k → e.counters.get k = wrap64 (tally kind rs)

lemma sound_undergo (h : e.tasks.Sound) (x : Happening) : (e.undergo x).tasks.Sound := by
  cases x with
  | call c => exact sound_after h c
  | platform react => exact h
  | readEvent => exact h

lemma Recounts.undergo {capacity : Nat} {got : List SchedEvent} (h : e.Recounts capacity rs got)
    (hx : e.Yields x as) : (e.undergo x).Recounts capacity (rs ++ as) (got ++ e.gets x) := by
  refine ⟨?_, fun kind k hk => ?_⟩
  · rw [show (e.undergo x).events = (x.read e.events).emitAll as from hx.handsOver e.events]
    exact (h.stream.happening x).emitAll as
  · rw [tally_append]
    exact hx.counters kind k hk _ (h.counters kind k hk)

/-- A run hands events to the stream, which are counted; so many of them say that cores were kicked,
that tasks were classified as gaming and that profiles were applied. -/
lemma Recounts.undergoAll {capacity : Nat} {got : List SchedEvent}
    (h : e.Recounts capacity rs got) (hs : e.tasks.Sound) (xs : List Happening) :
    ∃ as, e.Attempts xs as ∧
      (e.undergoAll xs).Recounts capacity (rs ++ as) (got ++ e.collect gets xs) ∧
      tally .preemptKick as = (e.collect kicksFor xs).length ∧
      tally .gamingDetected as = (e.collect discovers xs).length ∧
      tally .profileMatch as = xs.countP (·.isProfileMatch) := by
  induction xs generalizing e rs got with
  | nil =>
    refine ⟨[], .nil e, ?_, rfl, rfl, rfl⟩
    rw [List.append_nil, collect, List.append_nil]
    exact h
  | cons x xs ih =>
    obtain ⟨as, hx⟩ := exists_yields hs x
    obtain ⟨bs, hrest, hend, hkicks, hdetected, hprofiles⟩ :=
      ih (h.undergo hx) (sound_undergo hs x)
    refine ⟨as ++ bs, .cons hx.handsOver hrest, ?_, ?_, ?_, ?_⟩
    · rw [collect, ← List.append_assoc, ← List.append_assoc]
      exact hend
    · rw [tally_append, hx.kicks, hkicks, collect, List.length_append]
    · rw [tally_append, hx.detected, hdetected, collect, List.length_append]
    · rw [tally_append, hx.profiles, hprofiles, List.countP_cons, Nat.add_comm]

lemma recounts_start (t : Topology) (config : EngineConfig) (tunables : TunablesCell)
    (hints : Hints) (host : Host) (tasks : TaskTable) (queues : DispatchQueues) :
    Recounts ⟨.make t config tunables hints host, tasks, queues, none⟩ (max config.eventCapacity 1)
      [] [] :=
  ⟨.ofCapacity _, fun _ k _ => Ledger.get_zero k⟩

/-- Counters and events tell the same.  Whatever happens to an engine from its start on, and however
many events may wait, the run hands one list of events to the stream.  Four counters are the numbers
of events of their kinds in it, and so many cores were kicked as events say.  What was taken in and
what was dropped are together the events of the list, which are those that are counted, one for each
task that was classified as gaming for the first time and one for each profile that somebody said was
applied.  What was taken in was read or waits, in order, and no more wait than may. -/
theorem counters_tell_events (t : Topology) (config : EngineConfig) (tunables : TunablesCell)
    (hints : Hints) (host : Host) :
    ∃ e₀, start t config tunables hints host = .ok e₀ ∧ ∀ xs e, e₀.undergoAll xs = e →
      ∃ rs, e₀.Attempts xs rs ∧ (∀ rs', e₀.Attempts xs rs' → rs' = rs) ∧
        e.counters.get .lowLatencyMigrations = wrap64 (tally .domainMigration rs) ∧
        e.counters.get .preemptKicks = wrap64 (tally .preemptKick rs) ∧
        e.counters.get .gamingLateFrames = wrap64 (tally .highLatency rs) ∧
        e.counters.get .imbalanceEvents = wrap64 (tally .domainImbalance rs) ∧
        e.counters.get .preemptKicks = wrap64 (e₀.collect kicksFor xs).length ∧
        wrap64 (e.events.emitted + e.events.dropped) =
          wrap64 (e.counters.get .lowLatencyMigrations + e.counters.get .preemptKicks +
            e.counters.get .gamingLateFrames + e.counters.get .imbalanceEvents +
            (e₀.collect discovers xs).length + xs.countP (·.isProfileMatch)) ∧
        e.events.emitted = wrap64 ((e₀.collect gets xs).length + e.events.length) ∧
        (e₀.collect gets xs ++ e.events.waiting.toList).Sublist rs ∧
        e.events.length ≤ max config.eventCapacity 1 := by
  obtain ⟨queues, -, hstart⟩ := exists_start t config tunables hints host
  refine ⟨_, hstart, fun xs e he => ?_⟩
  obtain ⟨rs, hattempts, hend, hkicks, hdetected, hprofiles⟩ :=
    (recounts_start t config tunables hints host (.ofCapacity config.taskCapacity)
      queues).undergoAll (TaskTable.sound_ofCapacity _) xs
  rw [he, List.nil_append, List.nil_append] at hend
  have hmigrations := hend.counters .domainMigration _ rfl
  have hpreempted := hend.counters .preemptKick _ rfl
  have hlate := hend.counters .highLatency _ rfl
  have himbalance := hend.counters .domainImbalance _ rfl
  obtain ⟨n, hdropped, hn⟩ := hend.stream.dropped
  refine ⟨rs, hattempts, fun rs' h => h.unique hattempts, hmigrations, hpreempted, hlate, himbalance,
    ?_, ?_, hend.stream.emitted, hend.stream.order, hend.stream.length_le⟩
  · rw [hpreempted, hkicks]
  · -- every event is of one kind, and each kind is counted here or there
    have htallies := length_eq_tallies rs
    rw [← hn, hdetected, hprofiles] at htallies
    rw [hend.stream.emitted, hdropped, hmigrations, hpreempted, hlate, himbalance]
    simp only [wrap64, UInt64.size]
    omega

/-- An engine for two domains on which nothing has happened yet, and whose stream has room for one
event. -/
def onTwoDomainsNarrow : Engine where
  toMachine := .make .twoDomains { taskCapacity := 0, eventCapacity := 0 } none {}
    (.ofTopology .twoDomains)
  tasks := .ofCapacity 0
  queues := ⟨.empty, #[.empty, .empty], 64, 0⟩

lemma start_twoDomains_narrow :
    start .twoDomains { taskCapacity := 0, eventCapacity := 0 } none {} (.ofTopology .twoDomains) =
      .ok onTwoDomainsNarrow :=
  rfl

/-- A game takes the only idle core away from a compiler while somebody reads events, and has a
profile. -/
def profiledGame : List Happening :=
  watchedCore ++ [.call (.noteProfileMatch (player 5 "wine64"))]

theorem counters_tell_events_profiledGame :
    ∃ rs, onTwoDomainsNarrow.Attempts profiledGame rs ∧
      wrap64 (tally .preemptKick rs) = 1 ∧
      (onTwoDomainsNarrow.collect kicksFor profiledGame).length = 1 ∧
      (onTwoDomainsNarrow.collect discovers profiledGame).length = 1 ∧
      (onTwoDomainsNarrow.undergoAll profiledGame).events.emitted = 2 ∧
      wrap64 (2 + (onTwoDomainsNarrow.undergoAll profiledGame).events.dropped) = 3 ∧
      ∃ taken : List SchedEvent, taken.Sublist rs ∧
        taken.map (·.kind) = [.gamingDetected, .profileMatch] := by
  obtain ⟨e₀, hstart, h⟩ := counters_tell_events .twoDomains
    { taskCapacity := 0, eventCapacity := 0 } none {} (.ofTopology .twoDomains)
  obtain rfl : onTwoDomainsNarrow = e₀ := Except.ok.inj (start_twoDomains_narrow.symm.trans hstart)
  obtain ⟨rs, hrs, -, -, hpreempted, -, -, hkicks, hsum, hemitted, horder, -⟩ :=
    h profiledGame _ rfl
  have hcount : (onTwoDomainsNarrow.undergoAll profiledGame).counters.get .preemptKicks = 1 := by
    decide +kernel
  have htwo : (onTwoDomainsNarrow.undergoAll profiledGame).events.emitted = 2 :=
    hemitted.trans (by decide +kernel)
  rw [htwo] at hsum
  refine ⟨rs, hrs, hpreempted.symm.trans hcount, by decide +kernel, by decide +kernel, htwo,
    hsum.trans (by decide +kernel), _, horder, by decide +kernel⟩

end Engine

end CoreSteer
