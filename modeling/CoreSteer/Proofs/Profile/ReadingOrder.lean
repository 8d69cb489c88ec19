import CoreSteer.Proofs.Profile.Matching
import Mathlib.Data.List.Find
/-!
# In which order profiles are read

A directory lists its files in no order one could rely on.  What is on a shelf is the last profile of
each name, and what the index knows is the last one of each executable, so the profile of a task is the
same in any order in which these are the same (`Shelf.matchTask?_congr`).

Where no two profiles share a name or an executable there is nothing that could be last of several.
Where two do, the one that happens to be read last is matched.
-/
namespace CoreSteer.Shelf

variable {ps qs : List GameProfile} {files files' : List (String × ByteArray)}

/-- The profiles in the files of a directory, in the order in which they are read. -/
def profilesIn (files : List (String × ByteArray)) : List GameProfile :=
  (files.filter fun f => isProfileFile f.1).filterMap fun f => profileOfFile? f.2

lemma ofFiles_eq (files : List (String × ByteArray)) : ofFiles files = ofProfiles (profilesIn files) :=
  rfl

lemma profilesIn_perm (h : files.Perm files') : (profilesIn files).Perm (profilesIn files') :=
  (h.filter _).filterMap _

/-- No two profiles share a name or an executable, whatever the case of its letters. -/
structure Unambiguous (ps : List GameProfile) : Prop where
  eq_of_name : ∀ p ∈ ps, ∀ q ∈ ps, p.name = q.name → p = q
  eq_of_exeKey : ∀ p ∈ ps, ∀ q ∈ ps, p.exeKey ≠ none → p.exeKey = q.exeKey → p = q

/-- Which profile a task gets is told by the profile of each name and the one of each executable. -/
lemma matchTask?_congr {s s' : Shelf} (hnames : ∀ name, s.get? name = s'.get? name)
    (hexes : ∀ key : String, s.byExe[key]? = s'.byExe[key]?) (name : String) :
    s.matchTask? name = s'.matchTask? name := by
  have hprofiles : s.profiles = s'.profiles := Std.ExtTreeMap.ext_getElem? fun {name} => hnames name
  have hbyExe : s.byExe = s'.byExe := Std.ExtTreeMap.ext_getElem? fun {key} => hexes key
  unfold matchTask? matchProcess? matchExe? get?
  rw [hprofiles, hbyExe]
  rfl

/-- The last profile of a name or of an executable is the same in any order, if it is the only one. -/
lemma find?_reverse_eq_of_perm {f : GameProfile → Bool} (h : ps.Perm qs)
    (honly : ∀ p ∈ ps, ∀ q ∈ ps, f p = true → f q = true → p = q) :
    ps.reverse.find? f = qs.reverse.find? f := by
  have hrev : ps.reverse.Perm qs.reverse := (ps.reverse_perm.trans h).trans qs.reverse_perm.symm
  refine List.find?_eq_find?_of_perm hrev ?_
  rintro p ⟨hp, hfp⟩ q ⟨hq, hfq⟩
  exact honly p (List.mem_reverse.1 hp) q (List.mem_reverse.1 hq) hfp hfq

/-- In whatever order the files of a directory are listed, a task gets the same profile, if no two of
the profiles in them share a name or an executable. -/
theorem matchTask?_eq_of_perm (h : files.Perm files') (hps : Unambiguous (profilesIn files))
    (name : String) : (ofFiles files).matchTask? name = (ofFiles files').matchTask? name := by
  rw [ofFiles_eq, ofFiles_eq]
  have hperm := profilesIn_perm h
  refine matchTask?_congr (fun name => ?_) (fun key => ?_) name
  · rw [get?_ofProfiles, get?_ofProfiles]
    refine find?_reverse_eq_of_perm hperm fun p hp q hq hpn hqn => ?_
    exact hps.eq_of_name p hp q hq ((eq_of_beq hpn).trans (eq_of_beq hqn).symm)
  · rw [byExe_ofProfiles, byExe_ofProfiles]
    congr 1
    refine find?_reverse_eq_of_perm hperm fun p hp q hq hpk hqk => ?_
    have hkey : p.exeKey = some key := eq_of_beq hpk
    exact hps.eq_of_exeKey p hp q hq (by simp [hkey]) (hkey.trans (eq_of_beq hqk).symm)

/-- Two files of a directory, with profiles of different games. -/
def twoGames : List (String × ByteArray) :=
  [("a.json", "\x7b\"name\":\"A\",\"exe_name\":\"quake\"\x7d".toUTF8),
    ("b.json", "\x7b\"name\":\"B\",\"exe_name\":\"Doom\"\x7d".toUTF8)]

theorem matchTask?_eq_of_perm_twoGames :
    twoGames.Perm twoGames.reverse ∧ Unambiguous (profilesIn twoGames) ∧
      (ofFiles twoGames).matchTask? "doom" = (ofFiles twoGames.reverse).matchTask? "doom" := by
  have hperm : twoGames.Perm twoGames.reverse := (List.reverse_perm _).symm
  have hps : Unambiguous (profilesIn twoGames) := ⟨by decide +kernel, by decide +kernel⟩
  exact ⟨hperm, hps, matchTask?_eq_of_perm hperm hps "doom"⟩

/-- Two files of a directory, with profiles for one executable. -/
def oneGame : List (String × ByteArray) :=
  [("a.json", "\x7b\"name\":\"A\",\"exe_name\":\"quake\"\x7d".toUTF8),
    ("b.json", "\x7b\"name\":\"B\",\"exe_name\":\"Quake\"\x7d".toUTF8)]

/-- Of two profiles for one executable, the one that is read last is matched. -/
theorem matchTask?_ne_of_oneGame :
    oneGame.Perm oneGame.reverse ∧
      (ofFiles oneGame).matchTask? "quake" = some { name := "B", exeName := some "Quake" } ∧
      (ofFiles oneGame.reverse).matchTask? "quake" = some { name := "A", exeName := some "quake" } :=
  ⟨(List.reverse_perm _).symm, by decide +kernel, by decide +kernel⟩

end CoreSteer.Shelf
