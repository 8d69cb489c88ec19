import CoreSteer.CpuMask.Ranges
import Mathlib.Data.List.Sort
/-!
# The range list of a set of cores tells which cores these are

A list of ranges is `CpuRange.Canonical` if every range has a core and the next range begins at least
two cores after its end.  Going through the cores of such a list and collecting their runs gives the
list back (`CpuRange.ofCpus_flatMap_toList`), and the runs of an ascending list of cores are such a list
(`CpuRange.ofCpus_spec`); so a set of cores has exactly one.

Its text is read back by splitting it at the commas and each item at the hyphen
(`CpuRange.listOfText?_intercalate`), hence no two sets have the same text.
-/
namespace CoreSteer

namespace CpuRange

variable {r : CpuRange} {rs : List CpuRange} {c first last : Nat} {cs : List Nat}

/-! ## The cores of a range -/

lemma toList_eq_range' (r : CpuRange) : r.toList = List.range' r.first (r.last + 1 - r.first) :=
  List.range'_eq_map_range.symm

lemma mem_toList : c ∈ r.toList ↔ r.first ≤ c ∧ c ≤ r.last := by
  rw [toList_eq_range', List.mem_range'_1]
  omega

lemma pairwise_toList (r : CpuRange) : r.toList.Pairwise (· < ·) := by
  rw [toList_eq_range']
  exact List.pairwise_lt_range'

lemma toList_cons (h : first ≤ last) : toList ⟨first, last⟩ = first :: toList ⟨first + 1, last⟩ := by
  rw [toList_eq_range', toList_eq_range', ← List.range'_succ]
  congr 1
  show last + 1 - first = last + 1 - (first + 1) + 1
  omega

/-! ## Canonical lists of ranges -/

/-- Ranges in ascending order, each with a core and with a core missing between any two. -/
structure Canonical (rs : List CpuRange) : Prop where
  first_le_last : ∀ r ∈ rs, r.first ≤ r.last
  gap : rs.Pairwise fun r s => r.last + 1 < s.first

lemma canonical_nil : Canonical [] := ⟨by simp, .nil⟩

lemma canonical_cons_iff :
    Canonical (r :: rs) ↔ r.first ≤ r.last ∧ (∀ s ∈ rs, r.last + 1 < s.first) ∧ Canonical rs := by
  constructor
  · rintro ⟨hle, hgap⟩
    obtain ⟨hr, hrs⟩ := List.forall_mem_cons.1 hle
    obtain ⟨hfirst, hrest⟩ := List.pairwise_cons.1 hgap
    exact ⟨hr, hfirst, hrs, hrest⟩
  · rintro ⟨hr, hfirst, hrs, hrest⟩
    exact ⟨List.forall_mem_cons.2 ⟨hr, hrs⟩, List.pairwise_cons.2 ⟨hfirst, hrest⟩⟩

/-- The cores of a canonical list come in ascending order, each once. -/
lemma Canonical.pairwise_flatMap (h : Canonical rs) : (rs.flatMap toList).Pairwise (· < ·) := by
  refine List.pairwise_flatMap.2 ⟨fun r _ => r.pairwise_toList, h.gap.imp fun {r s} hgap => ?_⟩
  intro c hc d hd
  have hle := (mem_toList.1 hc).2
  have hge := (mem_toList.1 hd).1
  omega

/-! ## Collecting runs -/

lemma Canonical.consCpu (h : Canonical rs) (hc : ∀ r ∈ rs, c < r.first) :
    Canonical (consCpu c rs) := by
  cases rs with
  | nil => exact canonical_cons_iff.2 ⟨Nat.le_refl c, by simp, canonical_nil⟩
  | cons r rs =>
    obtain ⟨hr, hgap, hrs⟩ := canonical_cons_iff.1 h
    have hcr := hc r List.mem_cons_self
    rw [CpuRange.consCpu]
    split
    · exact canonical_cons_iff.2 ⟨hcr.le.trans hr, hgap, hrs⟩
    · next hne =>
      refine canonical_cons_iff.2 ⟨Nat.le_refl c, List.forall_mem_cons.2 ⟨?_, fun s hs => ?_⟩, h⟩
      · exact Nat.lt_of_le_of_ne hcr fun heq => hne heq.symm
      · have hs := hgap s hs
        show c + 1 < s.first
        omega

lemma flatMap_toList_consCpu (h : Canonical rs) :
    (consCpu c rs).flatMap toList = c :: rs.flatMap toList := by
  have hone : toList ⟨c, c⟩ = [c] := by simp [toList_eq_range']
  cases rs with
  | nil => simp [consCpu, hone]
  | cons r rs =>
    have hr := (canonical_cons_iff.1 h).1
    rw [consCpu]
    split
    · next heq =>
      rw [List.flatMap_cons, List.flatMap_cons, toList_cons (by omega), ← heq, List.cons_append]
    · rw [List.flatMap_cons, hone, List.singleton_append]

/-- The runs of an ascending list of cores are a canonical list with these cores. -/
lemma ofCpus_spec (h : cs.Pairwise (· < ·)) :
    Canonical (ofCpus cs) ∧ (ofCpus cs).flatMap toList = cs := by
  induction cs with
  | nil => exact ⟨canonical_nil, rfl⟩
  | cons c cs ih =>
    obtain ⟨hc, hcs⟩ := List.pairwise_cons.1 h
    obtain ⟨hcanonical, hcores⟩ := ih hcs
    -- a range begins with one of its cores, and these are all above the new one
    have hfirst : ∀ r ∈ ofCpus cs, c < r.first := by
      intro r hr
      have hmem : r.first ∈ (ofCpus cs).flatMap toList :=
        List.mem_flatMap.2 ⟨r, hr, mem_toList.2 ⟨Nat.le_refl _, hcanonical.first_le_last r hr⟩⟩
      exact hc _ (hcores ▸ hmem)
    exact ⟨hcanonical.consCpu hfirst, (flatMap_toList_consCpu hcanonical).trans (by rw [hcores])⟩

/-- The cores of a range are collected into that range, if none of the ranges behind touches it. -/
lemma foldr_consCpu_toList (n first : Nat) (h : ∀ s ∈ rs, first + n + 1 < s.first) :
    (toList ⟨first, first + n⟩).foldr consCpu rs = ⟨first, first + n⟩ :: rs := by
  induction n generalizing first with
  | zero =>
    have hnil : toList ⟨first + 1, first⟩ = [] := by simp [toList_eq_range']
    rw [Nat.add_zero, toList_cons (Nat.le_refl first), hnil, List.foldr_cons, List.foldr_nil]
    cases rs with
    | nil => rfl
    | cons r rs => exact if_neg (h r List.mem_cons_self).ne'
  | succ n ih =>
    have hlast : first + (n + 1) = first + 1 + n := by omega
    rw [toList_cons (by omega), List.foldr_cons, hlast, ih (first + 1) (by rwa [← hlast])]
    exact if_pos rfl

lemma ofCpus_flatMap_toList (h : Canonical rs) : ofCpus (rs.flatMap toList) = rs := by
  induction rs with
  | nil => rfl
  | cons r rs ih =>
    obtain ⟨hr, hgap, hrs⟩ := canonical_cons_iff.1 h
    obtain ⟨n, hn⟩ := Nat.exists_eq_add_of_le hr
    obtain ⟨first, last⟩ := r
    obtain rfl : last = first + n := hn
    rw [List.flatMap_cons, ofCpus, List.foldr_append]
    exact (congrArg (List.foldr consCpu · (toList ⟨first, first + n⟩)) (ih hrs)).trans
      (foldr_consCpu_toList n first hgap)

/-! ## Reading a range list -/

/-- The number that some digits stand for. -/
def number? (cs : List Char) : Option Nat :=
  if !cs.isEmpty && cs.all Char.isDigit then some (Nat.ofDigitChars 10 cs 0) else none

/-- The range that an item stands for: a number, or a smaller and a larger one with a hyphen between
them. -/
def ofText? (item : List Char) : Option CpuRange :=
  match item.splitOn '-' with
  | [n] => (number? n).map fun c => ⟨c, c⟩
  | [a, b] => do
    let first ← number? a
    let last ← number? b
    if first < last then some ⟨first, last⟩ else none
  | _ => none

/-- The ranges that a text with commas between its items stands for. -/
def listOfText? (text : String) : Option (List CpuRange) :=
  if text = "" then some [] else (text.toList.splitOn ',').mapM ofText?

lemma isDigit_of_mem_toDigits {n : Nat} {x : Char} (h : x ∈ Nat.toDigits 10 n) : x.isDigit = true :=
  Nat.isDigit_of_mem_toDigits (by decide) (by decide) h

lemma number?_toDigits (n : Nat) : number? (Nat.toDigits 10 n) = some n := by
  have hall : (Nat.toDigits 10 n).all Char.isDigit = true :=
    List.all_eq_true.2 fun _ => isDigit_of_mem_toDigits
  have hne : (Nat.toDigits 10 n).isEmpty = false := List.isEmpty_eq_false_iff.2 Nat.toDigits_ne_nil
  simp [number?, hall, hne]

lemma render_of_eq (h : r.first = r.last) : r.render = toString r.first := if_pos h

lemma render_of_ne (h : r.first ≠ r.last) :
    r.render = toString r.first ++ "-" ++ toString r.last :=
  if_neg h

/-- The numbers in the text of a range. -/
def numerals (r : CpuRange) : List (List Char) :=
  if r.first = r.last then [Nat.toDigits 10 r.first]
  else [Nat.toDigits 10 r.first, Nat.toDigits 10 r.last]

lemma toList_render (r : CpuRange) : r.render.toList = ['-'].intercalate r.numerals := by
  by_cases h : r.first = r.last
  · simp [render_of_eq h, numerals, h]
  · simp [render_of_ne h, numerals, h]

lemma isDigit_of_mem_numerals {w : List Char} (hw : w ∈ r.numerals) {x : Char} (hx : x ∈ w) :
    x.isDigit = true := by
  have hdigits : ∃ n, w = Nat.toDigits 10 n := by
    rw [numerals] at hw
    split at hw
    · exact ⟨_, List.mem_singleton.1 hw⟩
    · rcases List.mem_pair.1 hw with h | h
      · exact ⟨_, h⟩
      · exact ⟨_, h⟩
  obtain ⟨n, rfl⟩ := hdigits
  exact isDigit_of_mem_toDigits hx

lemma splitOn_render (r : CpuRange) : r.render.toList.splitOn '-' = r.numerals := by
  rw [toList_render]
  refine List.splitOn_intercalate '-' (fun w hw hmem => ?_) ?_
  · exact absurd (isDigit_of_mem_numerals hw hmem) (by decide)
  · rw [numerals]
    split <;> simp

lemma ofText?_render (h : r.first ≤ r.last) : ofText? r.render.toList = some r := by
  obtain ⟨first, last⟩ := r
  rw [ofText?, splitOn_render]
  by_cases heq : first = last
  · subst heq
    simp [numerals, number?_toDigits]
  · have hlt : first < last := Nat.lt_of_le_of_ne h heq
    simp [numerals, heq, number?_toDigits, hlt]

lemma toList_render_ne_nil (r : CpuRange) : r.render.toList ≠ [] := by
  by_cases h : r.first = r.last
  · simp [render_of_eq h, Nat.toDigits_ne_nil]
  · simp [render_of_ne h]

lemma comma_notMem_render (r : CpuRange) : ',' ∉ r.render.toList := by
  intro hmem
  have hdigit : ∀ n, ',' ∉ Nat.toDigits 10 n := fun n h => by
    cases isDigit_of_mem_toDigits h
  by_cases h : r.first = r.last
  · simp [render_of_eq h, hdigit] at hmem
  · simp [render_of_ne h, hdigit] at hmem

lemma mapM_ofText?_render (h : ∀ r ∈ rs, r.first ≤ r.last) :
    (rs.map fun r => r.render.toList).mapM ofText? = some rs := by
  induction rs with
  | nil => rfl
  | cons r rs ih =>
    obtain ⟨hr, hrs⟩ := List.forall_mem_cons.1 h
    simp [ofText?_render hr, ih hrs]

/-- The text of a list of ranges is read back as that list. -/
lemma listOfText?_intercalate (h : ∀ r ∈ rs, r.first ≤ r.last) :
    listOfText? (",".intercalate (rs.map render)) = some rs := by
  cases rs with
  | nil => rfl
  | cons r rs =>
    have hsplit : (",".intercalate ((r :: rs).map render)).toList.splitOn ',' =
        (r :: rs).map fun r => r.render.toList := by
      rw [String.toList_intercalate, List.map_map]
      refine List.splitOn_intercalate ',' (fun w hw => ?_) (by simp)
      obtain ⟨s, -, rfl⟩ := List.mem_map.1 hw
      exact s.comma_notMem_render
    have hne : ",".intercalate ((r :: rs).map render) ≠ "" := by
      intro hempty
      rw [hempty] at hsplit
      -- the empty text would be one empty item
      have hnil : ([] : List Char) = r.render.toList := by
        simpa using congrArg List.head? hsplit
      exact r.toList_render_ne_nil hnil.symm
    rw [listOfText?, if_neg hne, hsplit, mapM_ofText?_render h]

end CpuRange

namespace CpuMask

variable {m n : CpuMask}

lemma canonical_ranges (m : CpuMask) : CpuRange.Canonical m.ranges :=
  (CpuRange.ofCpus_spec m.pairwise_toList).1

lemma flatMap_toList_ranges (m : CpuMask) : m.ranges.flatMap CpuRange.toList = m.toList :=
  (CpuRange.ofCpus_spec m.pairwise_toList).2

lemma listOfText?_render (m : CpuMask) : CpuRange.listOfText? m.render = some m.ranges :=
  CpuRange.listOfText?_intercalate m.canonical_ranges.first_le_last

/-- A canonical list with the cores of a set is the list of its runs. -/
lemma eq_ranges_of_canonical {rs : List CpuRange} (h : CpuRange.Canonical rs)
    (hcores : ∀ c, c ∈ rs.flatMap CpuRange.toList ↔ c ∈ m) : rs = m.ranges := by
  have hlist : rs.flatMap CpuRange.toList = m.toList :=
    h.pairwise_flatMap.eq_of_mem_iff m.pairwise_toList fun c => (hcores c).trans mem_toList.symm
  rw [ranges, ← hlist, CpuRange.ofCpus_flatMap_toList h]

lemma eq_of_ranges_eq (h : n.ranges = m.ranges) : n = m := by
  refine ext_mem fun c => ?_
  rw [← mem_toList, ← mem_toList, ← flatMap_toList_ranges, ← flatMap_toList_ranges, h]

/-- The text of a set of cores is a list of single cores and of longer ranges, in ascending order, with
commas between them and a core missing between any two; the cores that it lists are those of the set,
and no other such list has these cores.  Two sets with the same text are the same. -/
theorem render_faithful_and_canonical (m : CpuMask) :
    ∃ rs : List CpuRange,
      m.render = ",".intercalate (rs.map CpuRange.render) ∧
      (∀ r ∈ rs, r.first = r.last ∧ r.render = toString r.first ∨
        r.first < r.last ∧ r.render = toString r.first ++ "-" ++ toString r.last) ∧
      rs.Pairwise (fun r s => r.last + 1 < s.first) ∧
      CpuRange.listOfText? m.render = some rs ∧
      (∀ c, c ∈ rs.flatMap CpuRange.toList ↔ m.test c = true) ∧
      (∀ rs', CpuRange.Canonical rs' →
        (∀ c, c ∈ rs'.flatMap CpuRange.toList ↔ m.test c = true) → rs' = rs) ∧
      ∀ n : CpuMask, n.render = m.render → n = m := by
  refine ⟨m.ranges, rfl, fun r hr => ?_, m.canonical_ranges.gap, m.listOfText?_render, fun c => ?_,
    fun rs' hrs' hcores => eq_ranges_of_canonical hrs' hcores, fun n hn => ?_⟩
  · by_cases h : r.first = r.last
    · exact .inl ⟨h, CpuRange.render_of_eq h⟩
    · have hlt := Nat.lt_of_le_of_ne (m.canonical_ranges.first_le_last r hr) h
      exact .inr ⟨hlt, CpuRange.render_of_ne h⟩
  · rw [flatMap_toList_ranges]
    exact mem_toList
  · have hread := n.listOfText?_render
    rw [hn, m.listOfText?_render] at hread
    exact eq_of_ranges_eq (Option.some.inj hread).symm

/-- Cores on both sides of a word boundary and the last of all, entered in two orders. -/
theorem render_faithful_and_canonical_acrossWords :
    (ofList [255, 64, 63, 8]).render = "8,63-64,255" ∧
      (ofList [255, 64, 63, 8]).render = (ofList [8, 63, 64, 255]).render ∧
      ofList [255, 64, 63, 8] = ofList [8, 63, 64, 255] := by
  have htext : (ofList [255, 64, 63, 8]).render = (ofList [8, 63, 64, 255]).render := by decide +kernel
  obtain ⟨_, -, -, -, -, -, -, hunique⟩ := render_faithful_and_canonical (ofList [8, 63, 64, 255])
  exact ⟨by decide +kernel, htext, hunique _ htext⟩

end CpuMask

end CoreSteer
