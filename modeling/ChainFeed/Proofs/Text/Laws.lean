import Mathlib.Data.List.DropRight
import ChainFeed.Text.Blank
import ChainFeed.Text.Lowercase

/-!
# Laws of trimming and lowercasing

Blanks around a text make no difference once it is trimmed (`trim_append`), and a text without
blanks at its ends is trimmed already (`trim_eq_self_iff`).

A character is **lowered** if lowercasing leaves it alone, wherever it stands (`Lowered`). All that
lowercasing brings about is lowered, so lowercasing a text twice is lowercasing it once
(`lowercase_lowercase`). That is a property of the table: no run moves what a run brings about
(`CaseRun.Avoids`). Two texts that differ in the case of ASCII letters have the same lowercase form
(`lowercase_map_toLower`), and a text whose last character is not blank has a lowercase form whose
last character is not blank either (`lowercase_ends`).
-/

namespace ChainFeed.Text

/-- What holds of the items of a list can be looked up in the list. For characters this is not what
instances find: those go through all characters there are. -/
theorem forall_mem_of_all {α : Type} {P : α → Prop} [DecidablePred P] {xs : List α}
    (h : xs.all fun x => decide (P x)) : ∀ x ∈ xs, P x :=
  fun x hx => of_decide_eq_true (List.all_eq_true.mp h x hx)

/-! ### Trimming -/

/-- All the characters are blank. -/
def AllBlank (cs : List Char) : Prop := ∀ c ∈ cs, isBlank c

instance (cs : List Char) : Decidable (AllBlank cs) :=
  decidable_of_iff (cs.all isBlank = true) List.all_eq_true

/-- The characters begin with none that is blank. -/
def BeginsPlain (cs : List Char) : Prop := ∀ c, cs.head? = some c → ¬isBlank c

/-- The characters end with none that is blank. -/
def EndsPlain (cs : List Char) : Prop := ∀ c, cs.getLast? = some c → ¬isBlank c

section

variable {front cs behind : List Char}

theorem trimStart_append (h : AllBlank front) (cs : List Char) :
    trimStart (front ++ cs) = trimStart cs :=
  List.dropWhile_append_of_pos h

theorem trimStart_of_allBlank (h : AllBlank front) : trimStart front = [] :=
  List.dropWhile_eq_nil_iff.mpr h

theorem trimEnd_append (h : AllBlank behind) (cs : List Char) :
    trimEnd (cs ++ behind) = trimEnd cs := by
  have hreverse : AllBlank behind.reverse := fun c hc => h c (List.mem_reverse.mp hc)
  rw [trimEnd, trimEnd, List.reverse_append]
  exact congrArg List.reverse (trimStart_append hreverse cs.reverse)

theorem trimStart_eq_self_iff : trimStart cs = cs ↔ BeginsPlain cs := by
  rw [trimStart, List.dropWhile_eq_self_iff, BeginsPlain]
  cases cs <;> simp

theorem trimEnd_eq_self_iff : trimEnd cs = cs ↔ EndsPlain cs := by
  have hlast : trimEnd cs = cs ↔ ∀ hne : cs ≠ [], ¬isBlank (cs.getLast hne) :=
    List.rdropWhile_eq_self_iff
  rw [hlast]
  constructor
  · intro h c hc
    have hne : cs ≠ [] := List.ne_nil_of_mem (List.mem_of_getLast? hc)
    rw [List.getLast?_eq_some_getLast hne] at hc
    exact Option.some.inj hc ▸ h hne
  · intro h hne
    exact h _ (List.getLast?_eq_some_getLast hne)

/-- **A text is trimmed already if it has no blanks at its ends.** -/
theorem trim_eq_self_iff : trim cs = cs ↔ BeginsPlain cs ∧ EndsPlain cs := by
  rw [← trimStart_eq_self_iff, ← trimEnd_eq_self_iff]
  constructor
  · intro h
    -- both ends are cut from the text, so neither cut takes anything away
    have hprefix : trim cs <+: trimStart cs := List.rdropWhile_prefix isBlank _
    have hsuffix : trimStart cs <:+ cs := List.dropWhile_suffix isBlank
    rw [h] at hprefix
    have hstart : trimStart cs = cs := hsuffix.eq_of_length_le hprefix.length_le
    refine ⟨hstart, ?_⟩
    rwa [trim, hstart] at h
  · rintro ⟨hstart, hend⟩
    rw [trim, hstart, hend]

/-- A trimmed text does not end with a blank. -/
theorem endsPlain_trim (cs : List Char) : EndsPlain (trim cs) :=
  trimEnd_eq_self_iff.mp (List.rdropWhile_idempotent isBlank (trimStart cs))

/-- **Blanks around a text make no difference.** -/
theorem trim_append (hfront : AllBlank front) (hbehind : AllBlank behind)
    (hplain : trim cs = cs) : trim (front ++ cs ++ behind) = cs := by
  obtain ⟨hbegins, hends⟩ := trim_eq_self_iff.mp hplain
  rw [trim, List.append_assoc, trimStart_append hfront]
  cases cs with
  | nil => rw [List.nil_append, trimStart_of_allBlank hbehind]; rfl
  | cons c rest =>
    have hstart : trimStart (c :: rest ++ behind) = c :: rest ++ behind :=
      trimStart_eq_self_iff.mpr hbegins
    rw [hstart, trimEnd_append hbehind, trimEnd_eq_self_iff.mpr hends]

theorem endsPlain_singleton {c : Char} : EndsPlain [c] ↔ ¬isBlank c := by
  simp [EndsPlain]

/-- How two texts end together is decided by the second one, if it holds anything. -/
theorem EndsPlain.append (h : EndsPlain cs) (hfront : cs = [] → EndsPlain front) :
    EndsPlain (front ++ cs) := by
  cases cs with
  | nil =>
    rw [List.append_nil]
    exact hfront rfl
  | cons c rest =>
    intro d hd
    rw [List.getLast?_append_of_ne_nil _ (List.cons_ne_nil c rest)] at hd
    exact h d hd

theorem EndsPlain.of_append (h : EndsPlain (front ++ cs)) : EndsPlain cs := by
  intro c hc
  refine h c ?_
  rw [List.getLast?_append, hc]
  rfl

end

/-! ### The table of lowercase forms -/

/-- A code point that lies outside every range is not covered. -/
theorem CodePoints.covers_eq_false {ranges : CodePoints} {n : Nat}
    (h : ∀ range ∈ ranges, n < range.1 ∨ range.2 < n) : ranges.covers n = false := by
  induction ranges with
  | nil => rfl
  | cons range rest ih =>
    rw [List.forall_mem_cons] at h
    have hout := h.1
    rw [CodePoints.covers, ih h.2]
    simp only [Bool.or_false, Bool.and_eq_false_iff, decide_eq_false_iff_not]
    omega

namespace CaseRun

/-- The last code point that the run brings about. -/
def lastImage (run : CaseRun) : Nat := run.image + (run.last - run.first)

/-- Whether the other run moves none of the code points that this one brings about, since they lie
in front of it, behind it, or between its steps. -/
def avoids (run other : CaseRun) : Bool :=
  Nat.blt run.lastImage other.first || Nat.blt other.last run.image ||
    (other.step == 2 && (run.step == 2 || run.first == run.last) &&
      (run.image + other.first) % 2 == 1)

/-- The capital I with a dot, whose lowercase form has two characters. It stands in no run. -/
def dottedCapital : CaseRun := ⟨0x130, 0x130, 1, 0x69⟩

variable {run other : CaseRun} {n : Nat}

theorem covers_iff :
    run.covers n ↔ run.first ≤ n ∧ n ≤ run.last ∧ (n - run.first) % run.step = 0 := by
  simp [covers, and_assoc]

theorem not_covers_of_avoids (h : run.avoids other) (hn : run.covers n) :
    ¬other.covers (run.image + (n - run.first)) := by
  rw [covers_iff] at hn ⊢
  rintro ⟨hfirst, hlast, hstep⟩
  simp only [avoids, lastImage, Bool.or_eq_true, Bool.and_eq_true, Nat.blt_eq, beq_iff_eq] at h
  rcases h with (h | h) | ⟨⟨hother, hrun⟩, hodd⟩
  · omega
  · omega
  · -- a run of a single code point makes no step at all
    rw [hother] at hstep
    rcases hrun with hrun | hrun
    · rw [hrun] at hn
      omega
    · omega

/-- **No run moves what a run brings about.** -/
theorem avoids_of_mem (hrun : run ∈ caseRuns) (hother : other ∈ dottedCapital :: caseRuns) :
    run.avoids other := by
  have hall : caseRuns.all fun run => (dottedCapital :: caseRuns).all run.avoids := by
    decide +kernel
  exact List.all_eq_true.mp (List.all_eq_true.mp hall run hrun) other hother

/-- What a run brings about are code points of characters. -/
theorem valid_of_mem (hrun : run ∈ caseRuns) :
    run.lastImage < 0xD800 ∨ 0xDFFF < run.image ∧ run.lastImage < 0x110000 := by
  have hall : ∀ run ∈ caseRuns,
      run.lastImage < 0xD800 ∨ 0xDFFF < run.image ∧ run.lastImage < 0x110000 := by
    decide +kernel
  exact hall run hrun

/-- None of them is blank. -/
theorem apart_of_mem (hrun : run ∈ caseRuns) :
    ∀ range ∈ blankCodePoints, run.lastImage < range.1 ∨ range.2 < run.image := by
  have hall : ∀ run ∈ caseRuns, ∀ range ∈ blankCodePoints,
      run.lastImage < range.1 ∨ range.2 < run.image := by
    decide +kernel
  exact hall run hrun

end CaseRun

/-! ### Lowered characters -/

/-- Lowercasing leaves the character alone, wherever it stands. -/
structure Lowered (c : Char) : Prop where
  /-- The character does not look at its neighbours. -/
  ne_sigma : c.toNat ≠ 0x3A3
  /-- It is its own lowercase form. -/
  lowerChar_eq : lowerChar c = [c]

/-- A character that no run moves is lowered. -/
theorem lowered_of_not_covers {c : Char}
    (h : ∀ run ∈ CaseRun.dottedCapital :: caseRuns, ¬run.covers c.toNat) : Lowered c where
  ne_sigma := by
    have hmoved : caseRuns.any (·.covers 0x3A3) := by decide
    obtain ⟨run, hrun, hcovers⟩ := List.any_eq_true.mp hmoved
    intro hsigma
    exact h run (List.mem_cons_of_mem _ hrun) (hsigma ▸ hcovers)
  lowerChar_eq := by
    rw [List.forall_mem_cons] at h
    have hdotted : c.toNat ≠ 0x130 := by
      intro heq
      exact h.1 (by rw [heq]; rfl)
    have hnone : caseRuns.find? (·.covers c.toNat) = none :=
      List.find?_eq_none.mpr h.2
    rw [lowerChar, if_neg hdotted, lowerCodePoint, hnone, Char.ofNat_toNat]

theorem toNat_ofNat_image {run : CaseRun} (hrun : run ∈ caseRuns) {n : Nat}
    (hn : run.covers n) :
    (Char.ofNat (run.image + (n - run.first))).toNat = run.image + (n - run.first) := by
  have hvalid : (run.image + (n - run.first)).isValidChar := by
    have hlast := (CaseRun.covers_iff.mp hn).2.1
    have himages := CaseRun.valid_of_mem hrun
    unfold CaseRun.lastImage at himages
    unfold Nat.isValidChar
    omega
  rw [Char.ofNat, dif_pos hvalid]
  rfl

/-- **The lowercase form of one character**: two characters for the capital I with a dot, the
character itself if no run moves it, and otherwise the character that its run moves it to. -/
theorem lowerChar_cases (c : Char) :
    lowerChar c = ['i', Char.ofNat 0x307] ∨
      (lowerChar c = [c] ∧ Lowered c) ∨
      ∃ run ∈ caseRuns, run.covers c.toNat ∧
        ∃ x, lowerChar c = [x] ∧ x.toNat = run.image + (c.toNat - run.first) := by
  by_cases hdotted : c.toNat = 0x130
  · exact .inl (if_pos hdotted)
  · cases hfind : caseRuns.find? (·.covers c.toNat) with
    | none =>
      have hlowered : Lowered c := by
        refine lowered_of_not_covers (List.forall_mem_cons.mpr ⟨fun h => hdotted ?_, ?_⟩)
        · obtain ⟨hfirst, hlast, -⟩ := CaseRun.covers_iff.mp h
          exact Nat.le_antisymm hlast hfirst
        · exact List.find?_eq_none.mp hfind
      exact .inr (.inl ⟨hlowered.lowerChar_eq, hlowered⟩)
    | some run =>
      have hrun : run ∈ caseRuns := List.mem_of_find?_eq_some hfind
      have hcovers : run.covers c.toNat := by simpa using List.find?_some hfind
      refine .inr (.inr ⟨run, hrun, hcovers, _, ?_, toNat_ofNat_image hrun hcovers⟩)
      rw [lowerChar, if_neg hdotted, lowerCodePoint, hfind]

/-- The lowercase form of a character is lowered. -/
theorem lowered_of_mem_lowerChar {c x : Char} (hx : x ∈ lowerChar c) : Lowered x := by
  rcases lowerChar_cases c with heq | ⟨heq, hlowered⟩ | ⟨run, hrun, hcovers, y, heq, hy⟩
  · have hboth : ∀ x ∈ ['i', Char.ofNat 0x307], x.toNat ≠ 0x3A3 ∧ lowerChar x = [x] :=
      forall_mem_of_all (by decide +kernel)
    obtain ⟨hsigma, hself⟩ := hboth x (heq ▸ hx)
    exact ⟨hsigma, hself⟩
  · rw [heq, List.mem_singleton] at hx
    exact hx ▸ hlowered
  · rw [heq, List.mem_singleton] at hx
    refine hx ▸ lowered_of_not_covers fun other hother => ?_
    rw [hy]
    exact CaseRun.not_covers_of_avoids (CaseRun.avoids_of_mem hrun hother) hcovers

/-- The lowercase forms of the sigma are lowered and not blank. -/
theorem lowerSigma_spec (before after : List Char) :
    Lowered (lowerSigma before after) ∧ ¬isBlank (lowerSigma before after) := by
  have hboth : ∀ x ∈ [Char.ofNat 0x3C2, Char.ofNat 0x3C3],
      x.toNat ≠ 0x3A3 ∧ lowerChar x = [x] ∧ ¬isBlank x :=
    forall_mem_of_all (by decide +kernel)
  have hmem : lowerSigma before after ∈ [Char.ofNat 0x3C2, Char.ofNat 0x3C3] := by
    rw [lowerSigma]
    split
    · exact List.mem_cons_self
    · exact List.mem_cons_of_mem _ List.mem_cons_self
  obtain ⟨hsigma, hself, hblank⟩ := hboth _ hmem
  exact ⟨⟨hsigma, hself⟩, hblank⟩

/-! ### Lowercase texts -/

theorem lowered_of_mem_lowerFrom {before cs : List Char} {x : Char}
    (hx : x ∈ lowerFrom before cs) : Lowered x := by
  induction cs generalizing before with
  | nil => cases hx
  | cons c rest ih =>
    rw [lowerFrom, List.mem_append] at hx
    rcases hx with hx | hx
    · split at hx
      · exact List.mem_singleton.mp hx ▸ (lowerSigma_spec before rest).1
      · exact lowered_of_mem_lowerChar hx
    · exact ih hx

theorem lowerFrom_eq_self {before cs : List Char} (h : ∀ c ∈ cs, Lowered c) :
    lowerFrom before cs = cs := by
  induction cs generalizing before with
  | nil => rfl
  | cons c rest ih =>
    rw [List.forall_mem_cons] at h
    rw [lowerFrom, if_neg h.1.ne_sigma, h.1.lowerChar_eq, ih h.2, List.singleton_append]

/-- **Lowercasing a text twice is lowercasing it once.** -/
theorem lowercase_lowercase (cs : List Char) : lowercase (lowercase cs) = lowercase cs :=
  lowerFrom_eq_self fun _ hx => lowered_of_mem_lowerFrom hx

/-! ### Letter case -/

/-- The ASCII letters that have a lowercase form of their own. -/
def capitals : List Char := (List.range 26).map fun n => Char.ofNat (0x41 + n)

theorem toLower_eq_self_or_mem (c : Char) : c.toLower = c ∨ c ∈ capitals := by
  by_cases hupper : c.val ≥ 'A'.val ∧ c.val ≤ 'Z'.val
  · have hfirst : 0x41 ≤ c.toNat := hupper.1
    have hlast : c.toNat ≤ 0x5A := hupper.2
    refine .inr (List.mem_map.mpr ⟨c.toNat - 0x41, List.mem_range.mpr (by omega), ?_⟩)
    rw [Nat.add_sub_cancel' hfirst, Char.ofNat_toNat]
  · exact .inl (dif_neg hupper)

/-- Characters that differ in the case of an ASCII letter at most are the same to lowercasing and
to trimming. -/
theorem toLower_alike (c : Char) :
    lowerChar c.toLower = lowerChar c ∧ (c.toLower.toNat = 0x3A3 ↔ c.toNat = 0x3A3) ∧
      caseIgnorableCodePoints.contains c.toLower = caseIgnorableCodePoints.contains c ∧
      casedCodePoints.contains c.toLower = casedCodePoints.contains c ∧
      isBlank c.toLower = isBlank c := by
  have hcapitals : ∀ c ∈ capitals,
      lowerChar c.toLower = lowerChar c ∧ (c.toLower.toNat = 0x3A3 ↔ c.toNat = 0x3A3) ∧
        caseIgnorableCodePoints.contains c.toLower = caseIgnorableCodePoints.contains c ∧
        casedCodePoints.contains c.toLower = casedCodePoints.contains c ∧
        isBlank c.toLower = isBlank c :=
    forall_mem_of_all (by decide +kernel)
  rcases toLower_eq_self_or_mem c with hself | hmem
  · simp only [hself, and_self]
  · exact hcapitals c hmem

theorem meetsCased_map_toLower (cs : List Char) :
    meetsCased (cs.map Char.toLower) = meetsCased cs := by
  have hignorable : caseIgnorableCodePoints.contains ∘ Char.toLower =
      caseIgnorableCodePoints.contains := funext fun c => (toLower_alike c).2.2.1
  rw [meetsCased, meetsCased, List.dropWhile_map, hignorable]
  cases cs.dropWhile caseIgnorableCodePoints.contains with
  | nil => rfl
  | cons c rest => exact (toLower_alike c).2.2.2.1

theorem lowerFrom_map_toLower (before cs : List Char) :
    lowerFrom (before.map Char.toLower) (cs.map Char.toLower) = lowerFrom before cs := by
  induction cs generalizing before with
  | nil => rfl
  | cons c rest ih =>
    obtain ⟨hlower, hsigma, -⟩ := toLower_alike c
    have hrest := ih (c :: before)
    rw [List.map_cons] at hrest
    rw [List.map_cons, lowerFrom, lowerFrom, hrest, hlower, lowerSigma, lowerSigma,
      meetsCased_map_toLower, meetsCased_map_toLower]
    simp only [hsigma]

/-- **The case of ASCII letters makes no difference** to a lowercase form. -/
theorem lowercase_map_toLower (cs : List Char) :
    lowercase (cs.map Char.toLower) = lowercase cs :=
  lowerFrom_map_toLower [] cs

theorem isBlank_toLower (c : Char) : isBlank c.toLower = isBlank c :=
  (toLower_alike c).2.2.2.2

/-- Nor does it to the blanks at the ends. -/
theorem trim_map_toLower_iff {cs : List Char} :
    trim (cs.map Char.toLower) = cs.map Char.toLower ↔ trim cs = cs := by
  rw [trim_eq_self_iff, trim_eq_self_iff]
  unfold BeginsPlain EndsPlain
  simp only [List.head?_map, List.getLast?_map, Option.map_eq_some_iff, forall_exists_index,
    and_imp, forall_apply_eq_imp_iff₂, isBlank_toLower]

/-! ### The end of a lowercase text -/

/-- The lowercase form of a character that is not blank does not end with a blank. -/
theorem lowerChar_ends {c : Char} (h : ¬isBlank c) : EndsPlain (lowerChar c) := by
  rcases lowerChar_cases c with heq | ⟨heq, -⟩ | ⟨run, hrun, hcovers, x, heq, hx⟩
  · rw [heq]
    have hdot : EndsPlain [Char.ofNat 0x307] := endsPlain_singleton.mpr (by decide)
    have hboth : EndsPlain (['i'] ++ [Char.ofNat 0x307]) :=
      hdot.append fun hnil => absurd hnil (List.cons_ne_nil _ _)
    exact hboth
  · rw [heq, endsPlain_singleton]
    exact h
  · have hlast := (CaseRun.covers_iff.mp hcovers).2.1
    have houtside : blankCodePoints.covers x.toNat = false := by
      refine CodePoints.covers_eq_false fun range hrange => ?_
      have happart := CaseRun.apart_of_mem hrun range hrange
      unfold CaseRun.lastImage at happart
      omega
    rw [heq, endsPlain_singleton, isBlank, CodePoints.contains, houtside]
    exact Bool.false_ne_true

theorem lowerFrom_eq_nil {before cs : List Char} (h : lowerFrom before cs = []) : cs = [] := by
  cases cs with
  | nil => rfl
  | cons c rest =>
    rw [lowerFrom, List.append_eq_nil_iff] at h
    have hpiece := h.1
    split at hpiece
    · cases hpiece
    · rcases lowerChar_cases c with heq | ⟨heq, -⟩ | ⟨-, -, -, x, heq, -⟩ <;>
        cases heq.symm.trans hpiece

theorem lowerFrom_ends {before cs : List Char} (h : EndsPlain cs) :
    EndsPlain (lowerFrom before cs) := by
  induction cs generalizing before with
  | nil => exact h
  | cons c rest ih =>
    rw [lowerFrom]
    have hsplit : EndsPlain ([c] ++ rest) := h
    refine (ih hsplit.of_append).append fun hnil => ?_
    -- nothing stands behind the character, so it is the one that the text ends with
    obtain rfl := lowerFrom_eq_nil hnil
    split
    · exact endsPlain_singleton.mpr (lowerSigma_spec before []).2
    · exact lowerChar_ends (endsPlain_singleton.mp h)

/-- **A text that does not end with a blank has a lowercase form that does not.** -/
theorem lowercase_ends {cs : List Char} (h : EndsPlain cs) : EndsPlain (lowercase cs) :=
  lowerFrom_ends h

end ChainFeed.Text
