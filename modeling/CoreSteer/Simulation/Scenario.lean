import CoreSteer.Hints
import CoreSteer.Random.Draw
import CoreSteer.Word
/-!
# Scenarios

A scenario lists threads that take turns in running and sleeping, processes that exist but never
run, and hints about them.
-/
namespace CoreSteer

/-- A length of time between two bounds, both included. -/
structure Span where
  /-- The lower bound. -/
  lo : Nat
  /-- The upper bound; the lower one if that is higher. -/
  hi : Nat
deriving DecidableEq, Repr, Inhabited

/-- Draw a length of time. -/
def Span.draw {ρ : Type} [Random.DrawSource ρ] (s : Span) (r : ρ) : Nat × ρ :=
  Random.DrawSource.draw64 s.lo (max s.hi s.lo) r

/-- A thread that takes turns in running and sleeping. -/
structure ThreadSpec where
  /-- The id of the thread. -/
  pid : Nat
  /-- The id of its process. -/
  tgid : Nat
  /-- The process that started it. -/
  parent : Nat
  /-- Its name. -/
  name : String
  /-- How long it runs after it wakes up. -/
  run : Span
  /-- How long it sleeps. -/
  sleep : Span
  /-- The id of its control group; zero for none. -/
  cgroup : Nat := 0
  /-- When it has lived so long, another thread takes its place. -/
  lifetime : Option Nat := none
deriving DecidableEq, Repr, Inhabited

/-- What there is to simulate. -/
structure Scenario where
  /-- Processes that never run: the id, the parent and the name of each. -/
  processes : List (Nat × Nat × String) := []
  /-- The threads. -/
  threads : List ThreadSpec := []
  /-- Hints about processes. -/
  processHints : List (Nat × WorkloadClass) := []
  /-- Hints about containers. -/
  containerHints : List (Nat × WorkloadClass) := []
  /-- Hints about control groups. -/
  cgroupHints : List (Nat × WorkloadClass) := []
deriving DecidableEq, Repr, Inhabited

namespace Scenario

/-- A span whose bounds are given in microseconds. -/
def micros (lo hi : Nat) : Span := ⟨lo * 1000, hi * 1000⟩

/-- A span whose bounds are given in milliseconds. -/
def millis (lo hi : Nat) : Span := ⟨lo * 1000000, hi * 1000000⟩

/-- A job of a compiler; each job is a process of its own. -/
def compilerJob (pid : Nat) : ThreadSpec where
  pid := pid
  tgid := pid
  parent := 900
  name := "cc1plus"
  run := millis 15 40
  sleep := micros 200 1000
  lifetime := some 300000000

/-- A desktop on which a game runs under its launcher, beside a compositor, a container that trains
models, and a number of compiler jobs, kept in a 32-bit word. -/
def desktop (jobs : Nat) : Scenario where
  processes := [(1, 1, "systemd"), (900, 1, "make")]
  threads := [
    ⟨100, 100, 1, "steam", micros 100 300, millis 5 15, 0, none⟩,
    ⟨200, 200, 100, "Game.exe", millis 2 4, millis 2 6, 0, none⟩,
    ⟨201, 200, 100, "vkThread0", micros 500 1500, millis 2 5, 0, none⟩,
    ⟨202, 200, 100, "GameWorker", millis 1 3, millis 1 4, 0, none⟩,
    ⟨400, 400, 1, "kwin_wayland", micros 200 600, millis 4 12, 0, none⟩,
    ⟨600, 600, 1, "python3", millis 10 30, millis 1 2, 0, none⟩] ++
    (List.range (wrap32 jobs)).map fun i => compilerJob (1000 + i)
  containerHints := [(600, .ai)]

end Scenario

end CoreSteer
