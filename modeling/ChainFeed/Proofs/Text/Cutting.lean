import Mathlib.Data.List.TakeWhile
import Std.Data.String.ToNat
import ChainFeed.Text.Numeral
import ChainFeed.Text.Pieces

/-!
# Cutting texts

A text that is put together of two parts with a mark between them is cut into these parts at its
first mark if the first part holds none (`cut_append`), and at its last mark if the second part
holds none (`cutLast_append`).

A number is written in decimal digits only (`isDigit_of_mem_toString`), so it holds no mark, and it
is read again wherever it fits (`numeral?_toString`).
-/

namespace ChainFeed.Text

/-! ### Marks -/

variable {mark : Char} {front rest : List Char}

/-- A text is cut at its first mark. -/
theorem cut_append (h : mark ∉ front) (rest : List Char) :
    cut mark (front ++ mark :: rest) = (front, some rest) := by
  have hplain : ∀ c ∈ front, decide (c ≠ mark) = true := fun c hc =>
    decide_eq_true (ne_of_mem_of_not_mem hc h)
  rw [cut, List.dropWhile_append_of_pos hplain, List.takeWhile_append_of_pos hplain]
  simp

/-- A text is cut at its last mark. -/
theorem cutLast_append (front : List Char) (h : mark ∉ rest) :
    cutLast mark (front ++ mark :: rest) = some (front, rest) := by
  have hreverse : (front ++ mark :: rest).reverse = rest.reverse ++ mark :: front.reverse := by
    simp
  rw [cutLast, hreverse, cut_append (by simpa using h)]
  simp

/-- A text without separators is its only piece. -/
theorem pieces_eq_singleton {separates : Char → Bool} {cs : List Char}
    (h : ∀ c ∈ cs, ¬separates c) : pieces separates cs = [cs] := by
  induction cs with
  | nil => rfl
  | cons c rest ih =>
    rw [List.forall_mem_cons] at h
    rw [pieces, if_neg h.1, ih h.2]

/-! ### Numbers -/

/-- A number is written in digits. -/
theorem isDigit_of_mem_toString {n : Nat} {c : Char} (h : c ∈ (toString n).toList) :
    c.isDigit = true := by
  rw [Nat.toString_eq_ofList_toDigits, String.toList_ofList] at h
  exact Nat.isDigit_of_mem_toDigits (by decide) (by decide) h

theorem not_mem_toString {n : Nat} (h : ¬mark.isDigit) : mark ∉ (toString n).toList :=
  fun hmem => h (isDigit_of_mem_toString hmem)

theorem digits?_of_isDigit {cs : List Char} (h : ∀ c ∈ cs, c.isDigit = true) :
    digits? cs = some (cs.map fun c => c.toNat - '0'.toNat) := by
  have hdigit (c : Char) (hc : c.isDigit = true) : digit? c = some (c.toNat - '0'.toNat) := by
    refine if_pos ?_
    simpa [Char.isDigit, Char.le_def] using hc
  rw [digits?]
  induction cs with
  | nil => rfl
  | cons c rest ih =>
    rw [List.forall_mem_cons] at h
    rw [List.mapM_cons, hdigit c h.1, ih h.2]
    rfl

/-- **A number that fits is read as it was written.** -/
theorem numeral?_toString {bound n : Nat} (h : n < bound) :
    numeral? bound (toString n) = some n := by
  have hplus : dropPlus (toString n).toList = (toString n).toList := by
    unfold dropPlus
    split
    · rename_i heq
      have hmem : '+' ∈ (toString n).toList := heq ▸ List.mem_cons_self
      exact absurd (isDigit_of_mem_toString hmem) (by decide)
    · rfl
  have hdigits : digits? (toString n).toList = some _ :=
    digits?_of_isDigit fun c hc => isDigit_of_mem_toString hc
  have hvalue : ofDigits ((toString n).toList.map fun c => c.toNat - '0'.toNat) = n := by
    rw [ofDigits, List.foldl_map, Nat.toString_eq_ofList_toDigits, String.toList_ofList]
    refine Eq.trans ?_ (Nat.ofDigitChars_ten_toDigits (n := n))
    simp only [Nat.ofDigitChars, Nat.mul_comm]
  have hnonempty : ((toString n).toList.map fun c => c.toNat - '0'.toNat).isEmpty = false := by
    rw [Nat.toString_eq_ofList_toDigits, String.toList_ofList, List.isEmpty_map]
    exact List.isEmpty_eq_false_iff.mpr Nat.toDigits_ne_nil
  rw [numeral?, hplus, hdigits]
  dsimp only [Option.bind_eq_bind, Option.bind_some]
  rw [hvalue, hnonempty, if_neg (by simpa using h)]

end ChainFeed.Text
