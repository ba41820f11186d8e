import ChainFeed.Address
import ChainFeed.Proofs.Text.Laws

/-!
# Spellings of an address

A **bare** address has no blanks at its ends and no mark in front (`IsBare`). It is spelled in any
case of its ASCII letters, behind either mark or none, and with any blanks around (`Spells`). All
spellings of one bare address have the same canonical spelling (`canonical_of_spells`), and a
canonical spelling is its own canonical spelling (`canonical_isCanonical`).

The bare spelling is what stands behind the first two bytes of the canonical one, and these two
bytes are always there and never end inside a character (`behindBytes?_canonical`).
-/

namespace ChainFeed

/-- What stands behind the first bytes of a text. There is nothing to be had if the text has fewer
bytes, or if they end inside a character. -/
def Text.behindBytes? (count : Nat) (text : String) : Option String :=
  (text.pos? ⟨count⟩).map fun position => (text.sliceFrom position).copy

/-- What stands behind the bytes of a first part is the other part. -/
theorem Text.behindBytes?_append (front behind : String) :
    behindBytes? front.utf8ByteSize (front ++ behind) = some behind := by
  have hvalid : (String.Pos.Raw.mk front.utf8ByteSize).IsValid (front ++ behind) :=
    String.Pos.Raw.isValid_iff_exists_append.mpr ⟨front, behind, rfl, rfl⟩
  have hposition : (front ++ behind).pos? ⟨front.utf8ByteSize⟩ =
      some ((front ++ behind).pos _ hvalid) := by
    rw [String.pos?, String.Slice.pos?,
      dif_pos (String.Pos.Raw.isValidForSlice_eq_true_iff.mpr hvalid.toSlice)]
    rfl
  rw [behindBytes?, hposition, Option.map_some, Option.some_inj,
    String.copy_sliceFrom_eq_iff_exists_splits]
  exact ⟨front, rfl, rfl⟩

end ChainFeed

namespace ChainFeed.Address

open Text

/-- The address is in its canonical spelling. -/
def IsCanonical (address : String) : Prop := canonical address = address

instance (address : String) : Decidable (IsCanonical address) :=
  inferInstanceAs (Decidable (_ = _))

/-! ### Canonical spellings -/

theorem dropMark_of_unmarked {cs : List Char} (hlower : ¬['0', 'x'] <+: cs)
    (hupper : ¬['0', 'X'] <+: cs) : dropMark cs = cs := by
  unfold dropMark
  split
  · exact absurd ⟨_, rfl⟩ hlower
  · exact absurd ⟨_, rfl⟩ hupper
  · rfl

/-- Taking a mark away leaves the end as it is. -/
theorem dropMark_ends {cs : List Char} (h : EndsPlain cs) : EndsPlain (dropMark cs) := by
  have hsuffix : dropMark cs <:+ cs := by
    unfold dropMark
    split
    · exact ⟨['0', 'x'], rfl⟩
    · exact ⟨['0', 'X'], rfl⟩
    · exact List.suffix_rfl
  obtain ⟨front, heq⟩ := hsuffix
  rw [← heq] at h
  exact h.of_append

/-- Behind a mark, a text that ends without a blank is trimmed. -/
theorem trim_marked {x : Char} (hx : ¬isBlank x) {cs : List Char} (h : EndsPlain cs) :
    trim ('0' :: x :: cs) = '0' :: x :: cs := by
  have hends : EndsPlain (['0'] ++ ([x] ++ cs)) :=
    (h.append fun _ => endsPlain_singleton.mpr hx).append fun hnil => nomatch hnil
  refine trim_eq_self_iff.mpr ⟨fun c hc => ?_, hends⟩
  obtain rfl := Option.some.inj hc
  decide

/-- **A canonical spelling is canonical.** -/
theorem canonical_isCanonical (address : String) : IsCanonical (canonical address) := by
  have hends : EndsPlain (bareChars address.toList) :=
    lowercase_ends (dropMark_ends (endsPlain_trim address.toList))
  have htrim : trim (mark ++ bareChars address.toList) = mark ++ bareChars address.toList :=
    trim_marked (by decide) hends
  have hagain : bareChars (mark ++ bareChars address.toList) = bareChars address.toList := by
    rw [bareChars, htrim]
    exact lowercase_lowercase _
  rw [IsCanonical, canonical, canonical, String.toList_ofList, hagain]

/-! ### Bare addresses and their spellings -/

/-- The characters of an address without anything around it. -/
structure IsBare (bare : List Char) : Prop where
  /-- There are no blanks at the ends. -/
  trimmed : trim bare = bare
  /-- There is no mark in front. -/
  unmarked : ¬['0', 'x'] <+: bare ∧ ¬['0', 'X'] <+: bare

instance (bare : List Char) : Decidable (IsBare bare) :=
  decidable_of_iff (trim bare = bare ∧ ¬['0', 'x'] <+: bare ∧ ¬['0', 'X'] <+: bare)
    ⟨fun h => ⟨h.1, h.2⟩, fun h => ⟨h.trimmed, h.unmarked⟩⟩

/-- The address is spelled as a bare one whose ASCII letters may be in another case, behind a mark
or none, with blanks around. -/
def Spells (bare : List Char) (address : String) : Prop :=
  ∃ front mark cs behind, address.toList = front ++ (mark ++ cs) ++ behind ∧
    AllBlank front ∧ mark ∈ [[], ['0', 'x'], ['0', 'X']] ∧
    cs.map Char.toLower = bare.map Char.toLower ∧ AllBlank behind

theorem toLower_eq_zero_iff {c : Char} : c.toLower = '0' ↔ c = '0' := by
  have hcapitals : ∀ c ∈ capitals, c.toLower = '0' ↔ c = '0' := forall_mem_of_all (by decide)
  rcases toLower_eq_self_or_mem c with hself | hmem
  · rw [hself]
  · exact hcapitals c hmem

theorem toLower_eq_x_iff {c : Char} : c.toLower = 'x' ↔ c = 'x' ∨ c = 'X' := by
  have hcapitals : ∀ c ∈ capitals, c.toLower = 'x' ↔ c = 'x' ∨ c = 'X' :=
    forall_mem_of_all (by decide)
  rcases toLower_eq_self_or_mem c with hself | hmem
  · have hlower : c ≠ 'X' := fun heq => absurd (heq ▸ hself) (by decide)
    rw [hself, or_iff_left hlower]
  · exact hcapitals c hmem

/-- In lowercase, both marks are the same. -/
theorem marked_iff {cs : List Char} :
    ['0', 'x'] <+: cs.map Char.toLower ↔ ['0', 'x'] <+: cs ∨ ['0', 'X'] <+: cs := by
  match cs with
  | [] => simp
  | [c] => simp
  | c :: d :: rest =>
    simp [List.cons_prefix_cons, eq_comm (a := '0'), eq_comm (a := 'x'), eq_comm (a := 'X'),
      toLower_eq_zero_iff, toLower_eq_x_iff, ← and_or_left]

/-- The case of letters does not matter to being bare. -/
theorem IsBare.of_toLower_eq {bare cs : List Char} (h : IsBare bare)
    (hcase : cs.map Char.toLower = bare.map Char.toLower) : IsBare cs where
  trimmed := by
    rw [← trim_map_toLower_iff, hcase, trim_map_toLower_iff]
    exact h.trimmed
  unmarked := by
    rw [← not_or, ← marked_iff, hcase, marked_iff, not_or]
    exact h.unmarked

/-- **All spellings of a bare address have one canonical spelling.** -/
theorem canonical_of_spells {bare : List Char} (hbare : IsBare bare) {address : String}
    (h : Spells bare address) : canonical address = String.ofList (mark ++ lowercase bare) := by
  obtain ⟨front, mark, cs, behind, haddress, hfront, hmark, hcase, hbehind⟩ := h
  have hcs : IsBare cs := hbare.of_toLower_eq hcase
  have hends : EndsPlain cs := (trim_eq_self_iff.mp hcs.trimmed).2
  have hmarked : trim (mark ++ cs) = mark ++ cs ∧ dropMark (mark ++ cs) = cs := by
    simp only [List.mem_cons, List.not_mem_nil, or_false] at hmark
    rcases hmark with rfl | rfl | rfl
    · exact ⟨hcs.trimmed, dropMark_of_unmarked hcs.unmarked.1 hcs.unmarked.2⟩
    · exact ⟨trim_marked (by decide) hends, rfl⟩
    · exact ⟨trim_marked (by decide) hends, rfl⟩
  have hlower : lowercase cs = lowercase bare := by
    rw [← lowercase_map_toLower cs, hcase, lowercase_map_toLower]
  rw [canonical, haddress, bareChars, trim_append hfront hbehind hmarked.1, hmarked.2, hlower]

/-! ### Other spellings -/

/-- The two addresses are one, spelled in two ways or in the same way. -/
inductive Respelled : String → String → Prop
  /-- An address and itself. -/
  | same (address : String) : Respelled address address
  /-- Two spellings of a bare address. -/
  | spelled {bare : List Char} {a b : String} (hbare : IsBare bare) (ha : Spells bare a)
      (hb : Spells bare b) : Respelled a b

theorem Respelled.canonical_eq {a b : String} (h : Respelled a b) : canonical a = canonical b := by
  cases h with
  | same => rfl
  | spelled hbare ha hb => rw [canonical_of_spells hbare ha, canonical_of_spells hbare hb]

/-! ### A normal form -/

theorem canonical_eq_append (address : String) : canonical address = "0x" ++ bare address :=
  String.ofList_append

/-- Cutting off two bytes of a canonical spelling never fails, and leaves the bare spelling. -/
theorem behindBytes?_canonical (address : String) :
    behindBytes? "0x".utf8ByteSize (canonical address) = some (bare address) := by
  rw [canonical_eq_append]
  exact behindBytes?_append "0x" (bare address)

/-- **The canonical spelling is a normal form.** Of every text, it is its own canonical spelling,
and it is the mark with the bare spelling behind it, which is what stands behind the two bytes of
the mark. All spellings of a bare address, whatever the case of its ASCII letters, the mark and the
blanks around it, have the same one: the mark with the lowercase form of the address. -/
theorem canonical_isNormalForm :
    (∀ address : String,
      canonical (canonical address) = canonical address ∧
      canonical address = "0x" ++ bare address ∧
      behindBytes? "0x".utf8ByteSize (canonical address) = some (bare address)) ∧
    ∀ cs : List Char, IsBare cs → ∀ address, Spells cs address →
      canonical address = String.ofList (mark ++ lowercase cs) :=
  ⟨fun address => ⟨canonical_isCanonical address, canonical_eq_append address,
    behindBytes?_canonical address⟩, fun _ hbare _ hspells => canonical_of_spells hbare hspells⟩

/-- An address with a blank and a mark inside, spelled with another mark and blanks around it. -/
theorem canonical_isNormalForm_of_inner_mark :
    IsBare "A 0xB".toList ∧ Spells "A 0xB".toList "\t0Xa 0XB\n" ∧
      canonical "\t0Xa 0XB\n" = String.ofList (mark ++ lowercase "A 0xB".toList) := by
  have hbare : IsBare "A 0xB".toList := by decide
  have hspells : Spells "A 0xB".toList "\t0Xa 0XB\n" :=
    ⟨['\t'], ['0', 'X'], "a 0XB".toList, ['\n'], by decide, by decide, by decide, by decide,
      by decide⟩
  exact ⟨hbare, hspells, canonical_isNormalForm.2 _ hbare _ hspells⟩

end ChainFeed.Address
