import CoreSteer.Profile.Shelf
import Mathlib.Tactic.Lemma
/-!
# What profiles are layered on

Putting a profile in force layers its overrides on a base, and putting none in force restores that
base.  The base is what was in force before the first profile ever was: it is noted once, and nobody
forgets it.  A profile that takes the place of another one therefore changes the same tunables as if
it came first.  But what somebody changes while no profile is in force is lost as soon as one is, and
does not come back (`later_change_is_lost`).
-/
namespace CoreSteer

/-- A shelf of profiles, and the tunables that it changes. -/
structure Tuning where
  /-- The shelf. -/
  shelf : Shelf
  /-- The tunables. -/
  cell : TunablesCell

/-- Anything that may happen to tunables. -/
inductive TuningCall where
  /-- Somebody asks for a profile. -/
  | activate (name : String)
  /-- Somebody asks for no profile. -/
  | deactivate
  /-- Somebody changes the tunables. -/
  | change (cell : TunablesCell)

namespace Tuning

/-- After something happened. -/
def after (x : Tuning) : TuningCall → Tuning
  | .activate name => ⟨(x.shelf.activate name x.cell).2.1, (x.shelf.activate name x.cell).2.2⟩
  | .deactivate => ⟨(x.shelf.deactivate x.cell).1, (x.shelf.deactivate x.cell).2⟩
  | .change cell => ⟨x.shelf, cell⟩

/-- Tunables are changed from outside only while no profile is in force. -/
def Permits (x : Tuning) : TuningCall → Prop
  | .change _ => x.shelf.active = none
  | _ => True

/-- After several things happened in order. -/
def afterAll (x : Tuning) (cs : List TuningCall) : Tuning := cs.foldl after x

/-- Tunables are changed from outside only while no profile is in force, all along. -/
def PermitsAll (x : Tuning) : List TuningCall → Prop
  | [] => True
  | c :: cs => x.Permits c ∧ (x.after c).PermitsAll cs

instance (x : Tuning) : (c : TuningCall) → Decidable (x.Permits c)
  | .change _ => inferInstanceAs (Decidable (_ = _))
  | .activate _ | .deactivate => .isTrue trivial

instance decidablePermitsAll (x : Tuning) : (cs : List TuningCall) → Decidable (x.PermitsAll cs)
  | [] => .isTrue trivial
  | c :: cs =>
    have := decidablePermitsAll (x.after c) cs
    inferInstanceAs (Decidable (x.Permits c ∧ (x.after c).PermitsAll cs))

end Tuning

namespace Shelf

/-- Finding profiles puts none in force, and notes no base. -/
lemma unused_ofProfiles (ps : List GameProfile) :
    (ofProfiles ps).active = none ∧ (ofProfiles ps).base = none :=
  List.foldlRecOn (motive := fun s : Shelf => s.active = none ∧ s.base = none) ps add ⟨rfl, rfl⟩
    fun _ hs _ _ => hs

/-- A profile is put in force, or nothing happens. -/
lemma activate_cases (s : Shelf) (name : String) (cell : TunablesCell) :
    s.activate name cell = (false, s, cell) ∨
      ∃ p, s.get? name = some p ∧ s.activate name cell =
        (true, { s with active := some name, base := some (s.base.getD cell.load) },
          some (p.overrides.apply (s.base.getD cell.load))) := by
  unfold activate
  split
  · exact .inl rfl
  · cases s.get? name with
    | none => exact .inl rfl
    | some p => exact .inr ⟨p, rfl, rfl⟩

end Shelf

/-! ## The history -/

/-- Tunables that were in force before profiles. -/
structure Bases where
  /-- Those before the first profile ever was put in force. -/
  first : Option Tunables := none
  /-- Those before the first profile was put in force since none was. -/
  latest : Option Tunables := none
  /-- Somebody changed the tunables after the first profile ever was put in force. -/
  changed : Bool := false

namespace Bases

/-- Go on with the history over a call. -/
def note (b : Bases) (x : Tuning) : TuningCall → Bases
  | .activate name =>
    if (x.shelf.activate name x.cell).1 then
      { b with first := b.first.or (some x.cell.load), latest := b.latest.or (some x.cell.load) }
    else b
  | .deactivate => { b with latest := none }
  | .change _ => { b with changed := b.changed || b.first.isSome }

/-- The history over calls in order. -/
def noteAll (b : Bases) (x : Tuning) : List TuningCall → Bases
  | [] => b
  | c :: cs => (b.note x c).noteAll (x.after c) cs

/-- What a shelf notes, and what is in force, is what the history says. -/
structure Explains (b : Bases) (x : Tuning) : Prop where
  /-- The base is the first one. -/
  base : x.shelf.base = b.first
  /-- A profile in force is layered on the first base. -/
  inForce : ∀ name, x.shelf.active = some name → ∃ p base, x.shelf.get? name = some p ∧
    b.first = some base ∧ x.cell = some (p.overrides.apply base)
  /-- While a profile is in force there is a latest base, which is the first one unless somebody
  changed the tunables since. -/
  layered : x.shelf.active.isSome → b.latest.isSome ∧ (b.changed = false → b.latest = b.first)
  /-- While no profile is in force there is no latest base, and the first one is in force unless
  somebody changed the tunables since. -/
  bare : x.shelf.active = none → b.latest = none ∧
    (b.changed = false → ∀ base, b.first = some base → x.cell.load = base)

namespace Explains

variable {b : Bases} {x : Tuning}

lemma activate (h : b.Explains x) (name : String) :
    (b.note x (.activate name)).Explains (x.after (.activate name)) := by
  rcases x.shelf.activate_cases name x.cell with hrefused | ⟨p, hp, hdone⟩
  · rw [note, Tuning.after, hrefused]
    exact h
  · rw [note, Tuning.after, hdone, h.base, if_pos rfl]
    have hfirst : b.first.or (some x.cell.load) = some (b.first.getD x.cell.load) := by
      cases b.first <;> rfl
    refine ⟨hfirst.symm, fun name' hname => ?_, fun _ => ⟨?_, fun hchanged => ?_⟩, fun hnone => ?_⟩
    · obtain rfl : name = name' := Option.some.inj hname
      exact ⟨p, _, hp, hfirst, rfl⟩
    · exact Option.isSome_or.trans (Bool.or_true _)
    · dsimp only
      rcases hactive : x.shelf.active with _ | name'
      · -- the tunables in force are the first base, if there was one
        obtain ⟨hlatest, hbare⟩ := h.bare hactive
        rw [hlatest]
        rcases hbase : b.first with _ | base
        · rfl
        · rw [hbare hchanged base hbase]
          rfl
      · rw [(h.layered (by rw [hactive]; rfl)).2 hchanged]
    · cases hnone

lemma deactivate (h : b.Explains x) : (b.note x .deactivate).Explains (x.after .deactivate) := by
  refine ⟨h.base, fun name hname => ?_, fun hsome => ?_, fun _ => ⟨rfl, fun hchanged base hbase => ?_⟩⟩
  · cases hname
  · cases hsome
  · unfold Tuning.after Shelf.deactivate
    dsimp only
    have hbase : b.first = some base := hbase
    rw [h.base, hbase]
    rcases hactive : x.shelf.active with _ | name
    · -- there is no profile to put out of force, so the tunables stay
      exact (h.bare hactive).2 hchanged base hbase
    · rfl

lemma change (h : b.Explains x) (hactive : x.shelf.active = none) (cell : TunablesCell) :
    (b.note x (.change cell)).Explains (x.after (.change cell)) := by
  refine ⟨h.base, fun name hname => ?_, fun hsome => ?_, fun _ => ⟨(h.bare hactive).1, ?_⟩⟩
  · exact absurd (hactive.symm.trans hname) (by simp)
  · have hsome : x.shelf.active.isSome = true := hsome
    rw [hactive] at hsome
    cases hsome
  · -- a change after the first profile is noted as one, and then nothing is said of what is in force
    intro hchanged base hbase
    have hbase : b.first = some base := hbase
    rw [note, hbase] at hchanged
    exact absurd hchanged (by simp)

/-- Whatever happens, as long as tunables are changed from outside only while no profile is in force,
the history explains what is in force. -/
lemma after (h : b.Explains x) {c : TuningCall} (hp : x.Permits c) :
    (b.note x c).Explains (x.after c) := by
  cases c with
  | activate name => exact h.activate name
  | deactivate => exact h.deactivate
  | change cell => exact h.change hp cell

lemma afterAll (h : b.Explains x) {cs : List TuningCall} (hp : x.PermitsAll cs) :
    (b.noteAll x cs).Explains (x.afterAll cs) := by
  induction cs generalizing b x with
  | nil => exact h
  | cons c cs ih => exact ih (h.after hp.1) hp.2

/-- At first no profile was ever in force. -/
lemma start (ps : List GameProfile) (cell : TunablesCell) :
    Explains {} ⟨.ofProfiles ps, cell⟩ := by
  obtain ⟨hactive, hbase⟩ := Shelf.unused_ofProfiles ps
  refine ⟨hbase, fun name hname => ?_, fun hsome => ?_, fun _ => ⟨rfl, fun _ base h => ?_⟩⟩
  · exact absurd (hactive.symm.trans hname) (by simp)
  · have hsome : (Shelf.ofProfiles ps).active.isSome = true := hsome
    rw [hactive] at hsome
    cases hsome
  · cases h

/-- Putting no profile in force restores the first base. -/
lemma cell_deactivate (h : b.Explains x) {name : String} (hname : x.shelf.active = some name) :
    (x.after .deactivate).cell = b.first := by
  obtain ⟨p, base, -, hfirst, -⟩ := h.inForce name hname
  unfold Tuning.after Shelf.deactivate
  dsimp only
  rw [hname, h.base, hfirst]

end Explains

end Bases

/-! ## Runs -/

namespace Tuning

/-- All profiles are layered on the first base.  Take any profiles and any tunables, and let profiles
be put in force and out of force in any order, while the tunables are changed from outside only when
none is in force.  Whenever a profile is in force, whichever were before it, the tunables are its
overrides applied to those that were in force before the first profile ever was, and the latter come
back when no profile is in force any more.  They are the tunables before the first profile since none
was in force, as long as nobody changed the tunables after the first profile ever was put in force. -/
theorem layered_on_first_base (ps : List GameProfile) (cell : TunablesCell) (cs : List TuningCall)
    (hp : PermitsAll ⟨.ofProfiles ps, cell⟩ cs) :
    ∀ b x, Bases.noteAll {} ⟨.ofProfiles ps, cell⟩ cs = b →
      afterAll ⟨.ofProfiles ps, cell⟩ cs = x →
      ∀ name, x.shelf.active = some name →
        ∃ p base, x.shelf.get? name = some p ∧ b.first = some base ∧
          x.cell = some (p.overrides.apply base) ∧ (x.after .deactivate).cell = some base ∧
          (b.changed = false → b.latest = some base) := by
  intro b x hb hx name hname
  have h := (Bases.Explains.start ps cell).afterAll hp
  rw [hb, hx] at h
  obtain ⟨p, base, hget, hfirst, hcell⟩ := h.inForce name hname
  refine ⟨p, base, hget, hfirst, hcell, (h.cell_deactivate hname).trans hfirst, fun hchanged => ?_⟩
  rw [(h.layered (by rw [hname]; rfl)).2 hchanged, hfirst]

/-- A profile for a game. -/
def quake : GameProfile := { name := "Quake", overrides := { burstThreshold := some 500000 } }

/-- A game is played, then slices are made shorter, and the game is played again. -/
def playedTwice : List TuningCall :=
  [.activate "Quake", .deactivate, .change (some { slice := 1000000 }), .activate "Quake"]

/-- The second time the longer slices of the first time are in force, and they stay in force
afterwards. -/
theorem later_change_is_lost :
    PermitsAll ⟨.ofProfiles [quake], none⟩ playedTwice ∧
      (Bases.noteAll {} ⟨.ofProfiles [quake], none⟩ playedTwice).latest =
        some { slice := 1000000 } ∧
      (afterAll ⟨.ofProfiles [quake], none⟩ playedTwice).shelf.active = some "Quake" ∧
      (afterAll ⟨.ofProfiles [quake], none⟩ playedTwice).cell = some (quake.overrides.apply {}) ∧
      quake.overrides.apply {} ≠ quake.overrides.apply { slice := 1000000 } ∧
      ((afterAll ⟨.ofProfiles [quake], none⟩ playedTwice).after .deactivate).cell = some {} := by
  decide +kernel

/-- A profile for another game. -/
def doom : GameProfile := { name := "Doom", overrides := { gamingMode := some false } }

/-- Slices are made shorter, and then one game is played after the other. -/
def playedBoth : List TuningCall :=
  [.change (some { slice := 1000000 }), .activate "Quake", .activate "Doom"]

theorem layered_on_first_base_playedBoth :
    PermitsAll ⟨.ofProfiles [quake, doom], none⟩ playedBoth ∧
      (afterAll ⟨.ofProfiles [quake, doom], none⟩ playedBoth).shelf.active = some "Doom" ∧
      (afterAll ⟨.ofProfiles [quake, doom], none⟩ playedBoth).cell =
        some { slice := 1000000, gamingMode := false } ∧
      ((afterAll ⟨.ofProfiles [quake, doom], none⟩ playedBoth).after .deactivate).cell =
        some { slice := 1000000 } ∧
      (Bases.noteAll {} ⟨.ofProfiles [quake, doom], none⟩ playedBoth).latest =
        some { slice := 1000000 } := by
  have hpermits : PermitsAll ⟨.ofProfiles [quake, doom], none⟩ playedBoth := by decide +kernel
  have hactive : (afterAll ⟨.ofProfiles [quake, doom], none⟩ playedBoth).shelf.active =
      some "Doom" := by decide +kernel
  obtain ⟨p, base, hp, hfirst, hcell, hrestored, hlatest⟩ :=
    layered_on_first_base [quake, doom] none playedBoth hpermits _ _ rfl rfl "Doom" hactive
  obtain ⟨hdoom, hbefore, hchanged⟩ :
      (afterAll ⟨.ofProfiles [quake, doom], none⟩ playedBoth).shelf.get? "Doom" = some doom ∧
        (Bases.noteAll {} ⟨.ofProfiles [quake, doom], none⟩ playedBoth).first =
          some { slice := 1000000 } ∧
        (Bases.noteAll {} ⟨.ofProfiles [quake, doom], none⟩ playedBoth).changed = false := by
    decide +kernel
  obtain rfl := Option.some.inj (hdoom.symm.trans hp)
  obtain rfl := Option.some.inj (hbefore.symm.trans hfirst)
  exact ⟨hpermits, hactive, hcell, hrestored, hlatest hchanged⟩

end Tuning

end CoreSteer
