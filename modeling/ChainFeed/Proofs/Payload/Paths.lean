import ChainFeed.Payload.Storage
import ChainFeed.Proofs.Gateway.Legible
import ChainFeed.Proofs.Resource.RoundTrip

/-!
# Paths of storage

A path is written as a slash, the name of a domain, another slash and an identifier
(`StorageDomain.IsPath`). Of all that, only the text between the first two slashes is looked at. So
a path is accepted if it can be **cut** there (`ofPath_eq_ok_iff`): whatever stands in front of the
first slash is ignored, and nothing has to stand behind the name. The paths that are accepted and
not written as they should be are the **loose** ones (`StorageDomain.Loose`).
-/

namespace ChainFeed

namespace StorageDomain

/-! ### The form of paths -/

/-- The path is a slash, the domain's name, a slash and an identifier, which may be any text but the
empty one. -/
def IsPath (domain : StorageDomain) (path : String) : Prop :=
  ∃ identifier, identifier ≠ [] ∧
    path.toList = '/' :: (domain.name.toList ++ '/' :: identifier)

/-- The domain's name stands behind the first slash of the path, up to the next one or to the end.
-/
structure Cut (domain : StorageDomain) (path : String) (front rest : List Char) : Prop where
  /-- The path falls into a front, a slash, the name and the rest. -/
  eq : path.toList = front ++ '/' :: (domain.name.toList ++ rest)
  /-- The slash is the first one. -/
  first : '/' ∉ front
  /-- The name ends at a slash or at the end. -/
  ends : rest = [] ∨ ∃ identifier, rest = '/' :: identifier

/-- The path can be cut, but something stands in front of its first slash, or there is no
identifier. -/
def Loose (domain : StorageDomain) (path : String) : Prop :=
  ∃ front rest, domain.Cut path front rest ∧ (front ≠ [] ∨ rest = [] ∨ rest = ['/'])

theorem slash_not_mem_name (domain : StorageDomain) : '/' ∉ domain.name.toList := by
  cases domain <;> decide

/-! ### Segments -/

/-- What stands in front of the first slash, and what begins with it. -/
theorem takeWhile_slash {front rest : List Char} (hfront : '/' ∉ front)
    (hrest : rest = [] ∨ ∃ more, rest = '/' :: more) :
    (front ++ rest).takeWhile (· ≠ '/') = front ∧ (front ++ rest).dropWhile (· ≠ '/') = rest := by
  have hplain : ∀ c ∈ front, decide (c ≠ '/') = true := fun c hc =>
    decide_eq_true (ne_of_mem_of_not_mem hc hfront)
  rw [List.takeWhile_append_of_pos hplain, List.dropWhile_append_of_pos hplain]
  rcases hrest with rfl | ⟨more, rfl⟩ <;> simp

/-- Every text falls into what stands in front of its first slash and what begins with it. -/
theorem exists_cut (cs : List Char) :
    ∃ front rest, cs = front ++ rest ∧ '/' ∉ front ∧ (rest = [] ∨ ∃ more, rest = '/' :: more) := by
  induction cs with
  | nil => exact ⟨[], [], rfl, List.not_mem_nil, .inl rfl⟩
  | cons c cs ih =>
    by_cases hc : c = '/'
    · exact ⟨[], c :: cs, rfl, List.not_mem_nil, .inr ⟨cs, hc ▸ rfl⟩⟩
    · obtain ⟨front, rest, rfl, hfront, hrest⟩ := ih
      exact ⟨c :: front, rest, rfl, by simp [Ne.symm hc, hfront], hrest⟩

theorem segment?_eq_some_iff {cs segment : List Char} :
    segment? cs = some segment ↔ ∃ front rest, cs = front ++ '/' :: (segment ++ rest) ∧
      '/' ∉ front ∧ '/' ∉ segment ∧ (rest = [] ∨ ∃ more, rest = '/' :: more) := by
  constructor
  · intro h
    obtain ⟨front, behind, rfl, hfront, hbehind⟩ := exists_cut cs
    rw [segment?, (takeWhile_slash hfront hbehind).2] at h
    rcases hbehind with rfl | ⟨more, rfl⟩
    · cases h
    · obtain ⟨name, rest, rfl, hname, hrest⟩ := exists_cut more
      obtain rfl := Option.some.inj h
      rw [(takeWhile_slash hname hrest).1]
      exact ⟨front, rest, rfl, hfront, hname, hrest⟩
  · rintro ⟨front, rest, rfl, hfront, hsegment, hrest⟩
    rw [segment?, (takeWhile_slash hfront (.inr ⟨_, rfl⟩)).2]
    exact congrArg some (takeWhile_slash hsegment hrest).1

/-- A text names a domain if it is the domain's name. -/
theorem parse_eq_ok_iff {text : String} {domain : StorageDomain} :
    parse text = .ok domain ↔ text = domain.name := by
  rw [parse, namedOr]
  constructor
  · intro h
    cases hfound : ofName? text with
    | none =>
      rw [hfound] at h
      cases h
    | some found =>
      rw [hfound] at h
      obtain rfl := Except.ok.inj h
      have hname := List.find?_some (p := fun known : StorageDomain => known.name == text) hfound
      exact (beq_iff_eq.mp hname).symm
  · rintro rfl
    rw [ofName?_name]

/-! ### Accepted paths -/

variable {domain : StorageDomain} {path : String}

/-- **A path is accepted if it can be cut.** -/
theorem ofPath_eq_ok_iff : ofPath path = .ok domain ↔ ∃ front rest, domain.Cut path front rest := by
  have hparse (segment : List Char) :
      (parse (String.ofList segment)).mapError Error.unknown = .ok domain ↔
        segment = domain.name.toList := by
    rw [← String.ofList_inj, String.ofList_toList, ← parse_eq_ok_iff]
    cases parse (String.ofList segment) <;> simp [Except.mapError]
  rw [ofPath]
  constructor
  · intro h
    cases hsegment : segment? path.toList with
    | none =>
      rw [hsegment] at h
      cases h
    | some segment =>
      rw [hsegment] at h
      obtain rfl := (hparse segment).mp h
      obtain ⟨front, rest, heq, hfront, -, hrest⟩ := segment?_eq_some_iff.mp hsegment
      exact ⟨front, rest, heq, hfront, hrest⟩
  · rintro ⟨front, rest, hcut⟩
    rw [segment?_eq_some_iff.mpr
      ⟨front, rest, hcut.eq, hcut.first, slash_not_mem_name domain, hcut.ends⟩]
    exact (hparse _).mpr rfl

/-- A path can be cut in one way only. -/
theorem Cut.unique {front rest front' rest' : List Char} (h : domain.Cut path front rest)
    (h' : domain.Cut path front' rest') : front = front' ∧ rest = rest' := by
  have heq := h.eq.symm.trans h'.eq
  have hfront : front = front' := by
    rw [← (takeWhile_slash h.first (.inr ⟨_, rfl⟩)).1, heq]
    exact (takeWhile_slash h'.first (.inr ⟨_, rfl⟩)).1
  subst hfront
  exact ⟨rfl, by simpa using heq⟩

/-- A path that is written as it should be is cut at its beginning and in front of its identifier.
-/
theorem isPath_iff : domain.IsPath path ↔
    ∃ identifier, identifier ≠ [] ∧ domain.Cut path [] ('/' :: identifier) := by
  refine exists_congr fun identifier => and_congr_right fun _ =>
    ⟨fun heq => ?_, fun hcut => hcut.eq⟩
  exact ⟨heq, List.not_mem_nil, .inr ⟨identifier, rfl⟩⟩

/-- **The accepted paths are those that are written as they should be, and the loose ones.** -/
theorem accepted_iff : ofPath path = .ok domain ↔ domain.IsPath path ∨ domain.Loose path := by
  rw [ofPath_eq_ok_iff, isPath_iff]
  constructor
  · rintro ⟨front, rest, hcut⟩
    by_cases hfront : front = []
    · subst hfront
      rcases hcut.ends with rfl | ⟨identifier, rfl⟩
      · exact .inr ⟨[], [], hcut, .inr (.inl rfl)⟩
      · by_cases hidentifier : identifier = []
        · exact .inr ⟨[], _, hcut, .inr (.inr (hidentifier ▸ rfl))⟩
        · exact .inl ⟨identifier, hidentifier, hcut⟩
    · exact .inr ⟨front, rest, hcut, .inl hfront⟩
  · rintro (⟨identifier, -, hcut⟩ | ⟨front, rest, hcut, -⟩)
    · exact ⟨[], _, hcut⟩
    · exact ⟨front, rest, hcut⟩

/-- No loose path is written as a path of any domain. -/
theorem not_isPath_of_loose (h : domain.Loose path) (other : StorageDomain) :
    ¬other.IsPath path := by
  intro hother
  -- an accepted path is one of a single domain
  have hsame : other = domain := Except.ok.inj
    ((accepted_iff.mpr (.inl hother)).symm.trans (accepted_iff.mpr (.inr h)))
  subst hsame
  obtain ⟨identifier, hidentifier, hcut⟩ := isPath_iff.mp hother
  obtain ⟨front, rest, hloose, hends⟩ := h
  obtain ⟨rfl, rfl⟩ := hcut.unique hloose
  simp [hidentifier] at hends

end StorageDomain

/-! ### Listings -/

namespace Payload

open StorageDomain

/-- An entry describes an item if it has a path that is accepted. -/
theorem exists_storageItem_iff {address : String} {entry : Json} :
    (∃ item, storageItem address entry = .ok item) ↔
      ∃ path domain, (entry.part "path").text? = some path ∧ ofPath path = .ok domain := by
  rw [storageItem]
  cases (entry.part "path").text? with
  | none => simp
  | some path =>
    cases hdomain : ofPath path with
    | error e => simp [hdomain]
    | ok domain => simp [hdomain]

/-- **Which paths and listings are accepted.** A path is accepted as one of a domain if it is a
slash, the domain's name, a slash and an identifier, and besides if it is loose; a loose path is not
written as a path of any domain. A listing is accepted if every entry has a path that is accepted.
-/
theorem paths_accepted (path : String) (domain : StorageDomain) (address : String)
    (listing : Json) :
    (ofPath path = .ok domain ↔ domain.IsPath path ∨ domain.Loose path) ∧
    (∀ other : StorageDomain, ¬(domain.Loose path ∧ other.IsPath path)) ∧
    ((∃ items, storageItems address listing = .ok items) ↔
      ∃ entries, listing.items? = some entries ∧ ∀ entry ∈ entries, ∃ path domain,
        (entry.part "path").text? = some path ∧ ofPath path = .ok domain) := by
  refine ⟨accepted_iff, fun other h => not_isPath_of_loose h.1 other h.2, ?_⟩
  simp only [← @exists_storageItem_iff (Address.canonical address)]
  rw [storageItems]
  cases listing.items? with
  | none => simp
  | some entries =>
    constructor
    · rintro ⟨items, hitems⟩
      exact ⟨entries, rfl, exists_eq_ok_of_mapM hitems⟩
    · rintro ⟨found, hfound, hall⟩
      obtain rfl := Option.some.inj hfound
      exact ⟨_, mapM_eq_ok hall⟩

/-- A path with something in front of its first slash, one without an identifier, and one with both
flaws are accepted, and they become parts of ids. -/
theorem loose_paths_accepted :
    (ofPath "x/storage/y" = .ok .storage ∧ ∀ domain, ¬IsPath domain "x/storage/y") ∧
    (ofPath "/public/" = .ok .public ∧ ∀ domain, ¬IsPath domain "/public/") ∧
    (ofPath "nopath/private" = .ok .private ∧ ∀ domain, ¬IsPath domain "nopath/private") ∧
    (storageItems "0x1" (.list [.record [("path", .text "x/storage/y")]])).toOption.map
      (·.map (·.id)) = some ["0x1.x/storage/y"] := by
  have hfront : Loose .storage "x/storage/y" :=
    ⟨['x'], ['/', 'y'], ⟨rfl, by decide, .inr ⟨_, rfl⟩⟩, .inl (by decide)⟩
  have hrest : Loose .public "/public/" :=
    ⟨[], ['/'], ⟨rfl, by decide, .inr ⟨_, rfl⟩⟩, .inr (.inr rfl)⟩
  have hboth : Loose .private "nopath/private" :=
    ⟨"nopath".toList, [], ⟨rfl, by decide, .inl rfl⟩, .inl (by decide)⟩
  exact ⟨⟨rfl, not_isPath_of_loose hfront⟩, ⟨rfl, not_isPath_of_loose hrest⟩,
    ⟨rfl, not_isPath_of_loose hboth⟩, rfl⟩

end Payload

end ChainFeed
