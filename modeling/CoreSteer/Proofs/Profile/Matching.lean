import CoreSteer.Profile.Shelf
import Mathlib.Data.List.Infix
/-!
# Which profile matches a task

Three tables are filled while profiles are found, and a later profile takes the place of an earlier one
in each of them on its own.  What is in them is told by the last profile of each name and the last one
of each executable (`Shelf.get?_ofProfiles`, `Shelf.byExe_ofProfiles`).

So the index of executables may lead to a profile that has taken the place of the one it was made for.
It always leads to some profile, though, which is why a task for which there is a profile does not go
without one.
-/
namespace CoreSteer

/-! ## Text -/

namespace Text

lemma lowerChar_ne_nil (c : Char) : lowerChar c ≠ [] := by
  unfold lowerChar
  split
  · simp
  · split
    · simp
    · split <;> simp

/-- Only the empty text is empty in small letters. -/
lemma lower_eq_empty_iff {s : String} : lower s = "" ↔ s = "" := by
  constructor
  · intro h
    have hnil : lowerAfter [] s.toList = [] := by
      have hlist := congrArg String.toList h
      simpa [lower] using hlist
    cases hs : s.toList with
    | nil => exact String.toList_eq_nil_iff.1 hs
    | cons c rest =>
      rw [hs, lowerAfter] at hnil
      obtain ⟨hfirst, -⟩ := List.append_eq_nil_iff.1 hnil
      split at hfirst
      · cases hfirst
      · exact absurd hfirst (lowerChar_ne_nil c)
  · rintro rfl
    rfl

lemma contains_iff {whole part : String} :
    contains whole part = true ↔ part.toList <:+: whole.toList := occursIn_iff

lemma beginsWith_iff {whole start : String} :
    beginsWith whole start = true ↔ start.toList <+: whole.toList :=
  List.isPrefixOf_iff_prefix

end Text

/-! ## What a profile is for -/

namespace GameProfile

/-- The executable of a profile, in small letters. -/
def exeKey (p : GameProfile) : Option String := p.exeName.map Text.lower

/-- A profile is for a task by its executable: that is not empty and, in small letters, is the name of
the task or a part of it, or has the name as a part. -/
def FitsByExe (p : GameProfile) (name : String) : Prop :=
  ∃ exe ∈ p.exeName, exe ≠ "" ∧ (Text.lower exe = Text.lower name ∨
    (Text.lower exe).toList <:+: (Text.lower name).toList ∨
    (Text.lower name).toList <:+: (Text.lower exe).toList)

/-- A profile is for a task by how its name begins. -/
def FitsByStart (p : GameProfile) (name : String) : Prop :=
  ∃ start ∈ p.taskStart, start ≠ "" ∧ start.toList <+: name.toList

/-- A profile is for a task. -/
def Fits (p : GameProfile) (name : String) : Prop := p.FitsByExe name ∨ p.FitsByStart name

instance (p : GameProfile) (name : String) : Decidable (p.FitsByExe name) :=
  inferInstanceAs (Decidable (∃ exe ∈ p.exeName, _))

instance (p : GameProfile) (name : String) : Decidable (p.FitsByStart name) :=
  inferInstanceAs (Decidable (∃ start ∈ p.taskStart, _))

instance (p : GameProfile) (name : String) : Decidable (p.Fits name) :=
  inferInstanceAs (Decidable (_ ∨ _))

end GameProfile

namespace Shelf

variable {ps : List GameProfile} {s : Shelf} {p : GameProfile} {name key : String}

lemma overlaps_iff {a b : String} :
    overlaps a b = true ↔ b.toList <:+: a.toList ∨ a.toList <:+: b.toList := by
  rw [overlaps, Bool.or_eq_true, Text.contains_iff, Text.contains_iff]

lemma fitsTask_iff : fitsTask name p = true ↔ p.FitsByStart name := by
  unfold fitsTask GameProfile.FitsByStart
  cases p.taskStart with
  | none => simp
  | some start => simp [Text.beginsWith_iff]

/-! ## What is on a shelf -/

lemma ofProfiles_concat (ps : List GameProfile) (p : GameProfile) :
    ofProfiles (ps ++ [p]) = (ofProfiles ps).add p := List.foldl_concat _ _ _ _

lemma get?_add (s : Shelf) (p : GameProfile) (name : String) :
    (s.add p).get? name = if p.name = name then some p else s.get? name := by
  unfold get? add
  simp [Std.ExtTreeMap.getElem?_insert]

lemma byExe_add (s : Shelf) (p : GameProfile) (key : String) :
    (s.add p).byExe[key]? = if p.exeKey = some key then some p.name else s.byExe[key]? := by
  unfold add GameProfile.exeKey
  cases p.exeName with
  | none => simp
  | some exe => simp [Std.ExtTreeMap.getElem?_insert]

/-- The profile of a name is the last one of that name. -/
lemma get?_ofProfiles (ps : List GameProfile) (name : String) :
    (ofProfiles ps).get? name = ps.reverse.find? (·.name == name) := by
  induction ps using List.reverseRecOn with
  | nil => simp [ofProfiles, get?]
  | append_singleton ps p ih =>
    rw [ofProfiles_concat, get?_add, ih, List.reverse_concat, List.find?_cons]
    by_cases hname : p.name = name
    · simp [hname]
    · rw [if_neg hname, beq_eq_false_iff_ne.2 hname]

/-- The index leads to the name of the last profile with an executable. -/
lemma byExe_ofProfiles (ps : List GameProfile) (key : String) :
    (ofProfiles ps).byExe[key]? = (ps.reverse.find? (·.exeKey == some key)).map (·.name) := by
  induction ps using List.reverseRecOn with
  | nil => simp [ofProfiles]
  | append_singleton ps p ih =>
    rw [ofProfiles_concat, byExe_add, ih, List.reverse_concat, List.find?_cons]
    by_cases hkey : p.exeKey = some key
    · simp [hkey]
    · rw [if_neg hkey, beq_eq_false_iff_ne.2 hkey]

/-- A profile on the shelf was found, and is there under its name. -/
lemma mem_of_get? (h : (ofProfiles ps).get? name = some p) : p ∈ ps ∧ p.name = name := by
  rw [get?_ofProfiles] at h
  exact ⟨List.mem_reverse.1 (List.mem_of_find?_eq_some h), by simpa using List.find?_some h⟩

/-- Under the name of a profile that was found there is some profile. -/
lemma isSome_get? (hp : p ∈ ps) : ((ofProfiles ps).get? p.name).isSome = true := by
  rw [get?_ofProfiles, List.find?_isSome]
  exact ⟨p, List.mem_reverse.2 hp, by simp⟩

/-- The index leads to the name of a profile that was found with that executable. -/
lemma mem_of_byExe (h : (ofProfiles ps).byExe[key]? = some name) :
    ∃ q ∈ ps, q.exeKey = some key ∧ q.name = name := by
  rw [byExe_ofProfiles] at h
  obtain ⟨q, hq, rfl⟩ := Option.map_eq_some_iff.1 h
  exact ⟨q, List.mem_reverse.1 (List.mem_of_find?_eq_some hq), by simpa using List.find?_some hq, rfl⟩

/-- Under the executable of a profile that was found the index leads somewhere. -/
lemma isSome_byExe (hp : p ∈ ps) (hkey : p.exeKey = some key) :
    (ofProfiles ps).byExe[key]?.isSome = true := by
  rw [byExe_ofProfiles, Option.isSome_map, List.find?_isSome]
  exact ⟨p, List.mem_reverse.2 hp, by simp [hkey]⟩

/-! ## Matching -/

/-- A profile is matched by its executable if the index leads to its name under the name of the task,
or under a name that contains it or is contained in it. -/
lemma exists_byExe_of_matchExe? {exe : String} (h : s.matchExe? exe = some p) :
    exe ≠ "" ∧ ∃ key name : String, s.byExe[key]? = some name ∧ s.get? name = some p ∧
      (key.toList <:+: exe.toList ∨ exe.toList <:+: key.toList) := by
  unfold matchExe? at h
  split at h
  · cases h
  · next hne =>
    refine ⟨fun he => hne (by rw [he]; rfl), ?_⟩
    split at h
    · next name hname => exact ⟨exe, name, hname, h, .inl (List.infix_refl _)⟩
    · split at h
      · next e he =>
        have hmem := List.mem_of_find?_eq_some he
        have hover := List.find?_some he
        exact ⟨e.1, e.2, Std.ExtTreeMap.mem_toList_iff_getElem?_eq_some.1 hmem, h,
          overlaps_iff.1 hover⟩
      · cases h

/-- Where the index knows some name that contains the name of a task, or is contained in it, some
profile is matched. -/
lemma isSome_matchExe? {exe : String} (hne : exe ≠ "")
    (hkey : (ofProfiles ps).byExe[key]?.isSome = true)
    (hover : key.toList <:+: exe.toList ∨ exe.toList <:+: key.toList) :
    ((ofProfiles ps).matchExe? exe).isSome = true := by
  -- wherever the index leads there is a profile
  have hleads : ∀ {key name : String}, (ofProfiles ps).byExe[key]? = some name →
      ((ofProfiles ps).get? name).isSome = true := by
    intro key name h
    obtain ⟨q, hq, -, rfl⟩ := mem_of_byExe h
    exact isSome_get? hq
  unfold matchExe?
  rw [if_neg (by simpa using hne)]
  split
  · next name hname => exact hleads hname
  · obtain ⟨name, hname⟩ := Option.isSome_iff_exists.1 hkey
    have hmem := Std.ExtTreeMap.mem_toList_iff_getElem?_eq_some.2 hname
    split
    · next e he =>
      exact hleads (Std.ExtTreeMap.mem_toList_iff_getElem?_eq_some.1 (List.mem_of_find?_eq_some he))
    · next hnone =>
      have hfalse := List.find?_eq_none.1 hnone _ hmem
      exact absurd (overlaps_iff.2 hover) hfalse

/-- A task that has no name has no profile. -/
lemma matchTask?_empty (ps : List GameProfile) : (ofProfiles ps).matchTask? "" = none := by
  have hexe : (ofProfiles ps).matchProcess? "" none = none := by
    unfold matchProcess? matchExe?
    simp [Text.lower_eq_empty_iff]
  unfold matchTask?
  rw [hexe]
  refine List.find?_eq_none.2 fun p _ hp => ?_
  obtain ⟨start, -, hne, hstart⟩ := fitsTask_iff.1 hp
  exact hne (String.toList_eq_nil_iff.1 (List.prefix_nil.1 hstart))

/-- If no profile is matched, there is none for the task on the shelf. -/
lemma not_fits_of_matchTask?_eq_none (hname : name ≠ "")
    (h : (ofProfiles ps).matchTask? name = none)
    (hp : (ofProfiles ps).get? p.name = some p) : ¬ p.Fits name := by
  unfold matchTask? at h
  split at h
  · cases h
  · next hexe =>
    rintro (⟨exe, hmem, -, hfits⟩ | hstart)
    · -- the index knows the executable, even if it leads to another profile
      have hkey : p.exeKey = some (Text.lower exe) := by rw [GameProfile.exeKey, hmem]; rfl
      have hknown := isSome_byExe (mem_of_get? hp).1 hkey
      have hover : (Text.lower exe).toList <:+: (Text.lower name).toList ∨
          (Text.lower name).toList <:+: (Text.lower exe).toList := by
        rcases hfits with heq | hover
        · rw [heq]
          exact .inl (List.infix_refl _)
        · exact hover
      have hsome := isSome_matchExe? (fun he => hname (Text.lower_eq_empty_iff.1 he)) hknown hover
      have hnone : (ofProfiles ps).matchExe? (Text.lower name) = none := hexe
      rw [hnone] at hsome
      cases hsome
    · have hmem : p ∈ (ofProfiles ps).profiles.toList.map (·.2) :=
        List.mem_map.2 ⟨(p.name, p), Std.ExtTreeMap.mem_toList_iff_getElem?_eq_some.2 hp, rfl⟩
      exact List.find?_eq_none.1 h p hmem (fitsTask_iff.2 hstart)

/-- A profile that is matched is on the shelf.  It is for the task, unless the index led to it by an
executable that is empty, or that another profile of its name had before. -/
lemma fits_of_matchTask?_eq_some (h : (ofProfiles ps).matchTask? name = some p) :
    (ofProfiles ps).get? p.name = some p ∧
      ((∀ q ∈ ps, q.name = p.name → q.exeKey = p.exeKey) → p.exeName ≠ some "" →
        p.Fits name) := by
  unfold matchTask? at h
  split at h
  · next q hexe =>
    obtain rfl := Option.some.inj h
    have hexe : (ofProfiles ps).matchExe? (Text.lower name) = some q := hexe
    obtain ⟨-, key, n, hkey, hget, hover⟩ := exists_byExe_of_matchExe? hexe
    obtain ⟨-, hn⟩ := mem_of_get? hget
    refine ⟨hn ▸ hget, fun hsame hne => .inl ?_⟩
    obtain ⟨r, hr, hrkey, hrname⟩ := mem_of_byExe hkey
    have hexe : q.exeKey = some key := (hsame r hr (hrname.trans hn.symm)).symm.trans hrkey
    obtain ⟨exe, hmem, rfl⟩ := Option.map_eq_some_iff.1 hexe
    exact ⟨exe, hmem, fun he => hne (he ▸ hmem), .inr hover⟩
  · have hmem := List.mem_of_find?_eq_some h
    obtain ⟨e, he, rfl⟩ := List.mem_map.1 hmem
    have hget : (ofProfiles ps).get? e.1 = some e.2 :=
      Std.ExtTreeMap.mem_toList_iff_getElem?_eq_some.1 he
    obtain ⟨-, hn⟩ := mem_of_get? hget
    refine ⟨?_, fun _ _ => .inr (fitsTask_iff.1 (List.find?_some h))⟩
    rw [hn]
    exact hget

/-- A task that has a name gets a profile if there is one for it, and the one it gets is for it unless
a profile of that name had another executable; a task that has no name gets none. -/
theorem matchTask?_sound_and_complete (ps : List GameProfile) (name : String) :
    (ofProfiles ps).matchTask? "" = none ∧
    (name ≠ "" → (ofProfiles ps).matchTask? name = none →
      ∀ p, (ofProfiles ps).get? p.name = some p → ¬ p.Fits name) ∧
    ∀ p, (ofProfiles ps).matchTask? name = some p →
      (ofProfiles ps).get? p.name = some p ∧
        ((∀ q ∈ ps, q.name = p.name → q.exeKey = p.exeKey) → p.exeName ≠ some "" →
          p.Fits name) := by
  refine ⟨matchTask?_empty ps, ?_, ?_⟩
  · intro hname hnone p hp
    exact not_fits_of_matchTask?_eq_none hname hnone hp
  · intro p hp
    exact fits_of_matchTask?_eq_some hp

/-- A profile for an executable, one for how a name begins, and an older one that was replaced. -/
def sampleProfiles : List GameProfile :=
  [{ name := "Quake", exeName := some "Quake.exe" },
    { name := "Factorio", taskStart := some "doom" },
    { name := "Factorio", taskStart := some "factorio" }]

theorem matchTask?_sound_and_complete_sampleProfiles :
    ("bash" ≠ "" ∧ (ofProfiles sampleProfiles).matchTask? "bash" = none ∧
      ∀ p, (ofProfiles sampleProfiles).get? p.name = some p → ¬ p.Fits "bash") ∧
    ∃ p, (ofProfiles sampleProfiles).matchTask? "quake.ex" = some p ∧
      (∀ q ∈ sampleProfiles, q.name = p.name → q.exeKey = p.exeKey) ∧ p.exeName ≠ some "" ∧
      p.Fits "quake.ex" := by
  have hbash : (ofProfiles sampleProfiles).matchTask? "bash" = none := by decide +kernel
  have hquake : (ofProfiles sampleProfiles).matchTask? "quake.ex" =
      some { name := "Quake", exeName := some "Quake.exe" } := by decide +kernel
  refine ⟨⟨by decide, hbash,
    (matchTask?_sound_and_complete sampleProfiles "bash").2.1 (by decide) hbash⟩,
    _, hquake, by decide +kernel, by decide, ?_⟩
  exact ((matchTask?_sound_and_complete sampleProfiles "quake.ex").2.2 _ hquake).2
    (by decide +kernel) (by decide)

/-- The empty name is a part of every executable, and yet has no profile.  An empty executable is found
for every task.  And an executable leads to the profile that took the place of the one it was for. -/
theorem matchTask?_fails_both_ways :
    (∃ p : GameProfile, (ofProfiles [p]).get? p.name = some p ∧ p.Fits "" ∧
      (ofProfiles [p]).matchTask? "" = none) ∧
    (∃ p : GameProfile, (ofProfiles [p]).matchTask? "bash" = some p ∧ ¬ p.Fits "bash") ∧
    ∃ p q : GameProfile, (ofProfiles [p, q]).matchTask? "quake" = some q ∧ ¬ q.Fits "quake" :=
  ⟨⟨{ name := "Quake", exeName := some "quake" }, by decide +kernel, by decide +kernel,
      by decide +kernel⟩,
    ⟨{ name := "Any", exeName := some "" }, by decide +kernel, by decide +kernel⟩,
    { name := "Game", exeName := some "quake" }, { name := "Game", exeName := some "doom" },
    by decide +kernel, by decide +kernel⟩

end Shelf

end CoreSteer
