import CoreSteer.Decimal.Fixed
import CoreSteer.Engine.Dump
import CoreSteer.Metrics.Basic
/-!
# Metrics in a box

Metrics as lines of text with a frame on the left.  Numbers are set flush right in columns, shares
are whole per cents, and the deviation has one decimal place.
-/
namespace CoreSteer.Metrics

/-- A number with a label before it, in a column of a given width. -/
def column (label : String) (width n : Nat) : String :=
  label ++ " " ++ Text.flushRight width (toString n)

/-- A flow with a label before it, in a column of a given width. -/
def flowColumn (m : Metrics) (label : String) (width : Nat) (f : Flow) : String :=
  column label width (m.flows.get f)

/-- The share of a part in the whole in per cents, in a column; zero of nothing. -/
def share (part other : Nat) : String :=
  let x : Float :=
    if 0 < other + part then LatencyTotals.real part * 100 / LatencyTotals.real (other + part)
    else 0
  "(" ++ Text.flushRight 4 (Decimal.fixed 0 x) ++ "%)"

/-- The lines of the box, given the time of day. -/
def lines (m : Metrics) (clock : String) : List String := [
  "┌─ " ++ programName ++ " " ++ clock ++ " ─",
  "│ q: " ++ "  ".intercalate [
    m.flowColumn "enq" 6 .enqueued,
    m.flowColumn "dsp" 6 .dispatched,
    m.flowColumn "dir" 6 .direct ++ " " ++ share (m.flows.get .direct) (m.flows.get .enqueued),
    column "queued" 4 m.queued,
    column "tasks" 5 m.tasks],
  "│ class: " ++ "  ".intercalate [
    m.flowColumn "game" 6 .gaming,
    m.flowColumn "inter" 6 .interactive,
    m.flowColumn "proton" 3 .proton,
    m.flowColumn "gpu" 3 .gpuFeeders,
    m.flowColumn "hint" 3 .hintDetects,
    m.flowColumn "parent" 3 .parentChain,
    m.flowColumn "cg" 3 .cgroupHits,
    m.flowColumn "vm" 3 .vmVcpus,
    m.flowColumn "ctr" 3 .containers],
  "│ place: " ++ "  ".intercalate [
    m.flowColumn "local" 6 .domainLocal ++ " " ++
      share (m.flows.get .domainLocal) (m.flows.get .domainCross),
    m.flowColumn "cross" 6 .domainCross,
    m.flowColumn "ll_mig" 5 .lowLatencyMigrations,
    m.flowColumn "smt" 5 .smtIdle,
    m.flowColumn "pref" 5 .prefcore,
    m.flowColumn "compact" 5 .compaction],
  "│ core: " ++ "  ".intercalate [
    m.flowColumn "pcore" 5 .pcore,
    m.flowColumn "ecore" 5 .ecore,
    m.flowColumn "freq" 5 .freqDomain,
    " " ++ m.flowColumn "kicks" 5 .preemptKicks,
    m.flowColumn "preempted" 5 .gamingPreempted,
    m.flowColumn "imbal" 3 .imbalance],
  "│ lat: " ++ "  ".intercalate [
    column "avg" 5 m.latencyAvg ++ "us",
    column "min" 5 m.latencyMin ++ "us",
    column "max" 6 m.latencyMax ++ "us",
    " " ++ column "game avg" 5 m.gamingLatencyAvg ++ "us",
    "jitter " ++ Text.flushRight 6 (Decimal.fixed 1 m.gamingJitter) ++ "us",
    m.flowColumn "late" 4 .lateFrames],
  "│ domains: " ++ m.domains ++ "  drops " ++ toString m.eventsDropped,
  "└─"]

/-- The box, given the time of day. -/
def render (m : Metrics) (clock : String) : String :=
  String.join ((m.lines clock).map (· ++ "\n"))

end CoreSteer.Metrics
