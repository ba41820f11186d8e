import Mathlib.Data.List.Basic
import ChainFeed.Text.Percent

/-!
# Decoding part by part

Bytes of ASCII characters are sequences of their own: they end what was open in front of them, and a
scan goes on behind them as it begins (`Utf8.scan_append`). A slash is such a byte, and since it is
no hexadecimal digit either, what stands in front of a slash and what stands behind it are decoded
apart (`Percent.decodeKeeping_append`).

ASCII text without a percent sign is **plain**: it is decoded to itself
(`Percent.decodeKeeping_eq_self`).
-/

namespace ChainFeed.Text

/-! ### Scanning -/

namespace Utf8

theorem toList_eq_data (bytes : ByteArray) : bytes.toList = bytes.data.toList := by
  have hloop (i : Nat) (done : List UInt8) :
      ByteArray.toList.loop bytes i done = done.reverse ++ bytes.data.toList.drop i := by
    induction i, done using ByteArray.toList.loop.induct bytes with
    | case1 i done hlt ih =>
      have hbyte : bytes.get! i = bytes.data.toList.get ⟨i, hlt⟩ :=
        getElem!_pos bytes.data i hlt
      have hdrop : bytes.data.toList.drop i = bytes.get! i :: bytes.data.toList.drop (i + 1) :=
        hbyte ▸ List.drop_eq_getElem_cons hlt
      rw [ByteArray.toList.loop, if_pos hlt, ih, hdrop, List.reverse_cons, List.append_assoc,
        List.singleton_append]
    | case2 i done hle =>
      have hdrop : bytes.data.toList.drop i = [] := List.drop_eq_nil_of_le (Nat.le_of_not_lt hle)
      rw [ByteArray.toList.loop, if_neg hle, hdrop, List.append_nil]
  exact hloop 0 []

/-- The bytes of a text are the bytes of its characters. -/
theorem encode_eq_flatMap (text : String) :
    encode text = text.toList.flatMap String.utf8EncodeChar := by
  rw [encode, toList_eq_data, String.toUTF8, ← String.utf8Encode_toList, List.utf8Encode,
    List.toList_data_toByteArray]

theorem encode_append (front rest : String) :
    encode (front ++ rest) = encode front ++ encode rest := by
  simp only [encode_eq_flatMap, String.toList_append, List.flatMap_append]

theorem toNat_ofNat_of_ascii {c : Char} (h : c.toNat < 128) :
    (UInt8.ofNat c.toNat).toNat = c.toNat :=
  UInt8.toNat_ofNat_of_lt (Nat.lt_of_lt_of_le h (by decide))

/-- The bytes of ASCII text are its characters. -/
theorem encode_of_ascii {text : String} (h : ∀ c ∈ text.toList, c.toNat < 128) :
    encode text = text.toList.map fun c => UInt8.ofNat c.toNat := by
  rw [encode_eq_flatMap, List.map_eq_flatMap]
  exact List.flatMap_congr fun c hc => if_pos (Nat.le_of_lt_succ (h c hc))

/-- Only bytes that are not ASCII go on with an open sequence. -/
def State.PastAscii : State → Prop
  | between => True
  | inside _ bounds _ => 128 ≤ bounds.1

theorem le_of_shape? {b missing bits : Nat} {bounds : Nat × Nat}
    (h : shape? b = some (missing, bounds, bits)) : 128 ≤ bounds.1 := by
  unfold shape? at h
  repeat' split at h
  all_goals cases h
  all_goals decide

theorem start_pastAscii (b : Nat) : (start b).1.PastAscii := by
  unfold start
  split
  · trivial
  · trivial
  · rename_i heq
    exact le_of_shape? heq

theorem step_pastAscii (state : State) (b : Nat) : (step state b).1.PastAscii := by
  unfold step
  split
  · exact start_pastAscii b
  · split
    · dsimp only
      split
      · trivial
      · exact Nat.le_refl 128
    · exact start_pastAscii b

/-- What is scanned already stays in front. -/
theorem scanFrom_eq_append (done : List (Option Char)) (state : State) (bytes : List UInt8) :
    scanFrom done state bytes = done.reverse ++ scanFrom [] state bytes := by
  have hcons (done : List (Option Char)) (state : State) (b : UInt8) (rest : List UInt8) :
      scanFrom done state (b :: rest) =
        scanFrom ((step state b.toNat).2.reverse ++ done) (step state b.toNat).1 rest := rfl
  induction bytes generalizing done state with
  | nil => cases state <;> simp [scanFrom]
  | cons b rest ih =>
    rw [hcons, hcons, ih, ih (_ ++ [])]
    simp only [List.reverse_append, List.reverse_reverse, List.append_nil, List.append_assoc]

theorem scanFrom_cons (state : State) (b : UInt8) (rest : List UInt8) :
    scanFrom [] state (b :: rest) =
      (step state b.toNat).2 ++ scanFrom [] (step state b.toNat).1 rest := by
  have hcons : scanFrom [] state (b :: rest) =
      scanFrom ((step state b.toNat).2.reverse ++ []) (step state b.toNat).1 rest := rfl
  rw [hcons, scanFrom_eq_append, List.append_nil, List.reverse_reverse]

theorem start_of_ascii {b : Nat} (h : b < 128) : start b = (.between, [some (Char.ofNat b)]) := by
  have hshape : shape? b = some (0, (128, 191), b) := if_pos h
  rw [start, hshape]
  rfl

/-- **A scan goes on behind an ASCII byte as it begins.** -/
theorem scanFrom_append {state : State} (hstate : state.PastAscii) (front : List UInt8) {b : UInt8}
    (hb : b.toNat < 128) (rest : List UInt8) :
    scanFrom [] state (front ++ b :: rest) =
      scanFrom [] state front ++ some (Char.ofNat b.toNat) :: scan rest := by
  -- the induction is on the bytes in front, from any state that ASCII does not go on with
  induction front generalizing state with
  | nil =>
    rw [List.nil_append, scanFrom_cons]
    cases state with
    | between =>
      have hstep : step .between b.toNat = (.between, [some (Char.ofNat b.toNat)]) :=
        start_of_ascii hb
      rw [hstep]
      rfl
    | inside bits bounds missing =>
      have hout : ¬(bounds.1 ≤ b.toNat ∧ b.toNat ≤ bounds.2) := fun h =>
        absurd (Nat.le_trans hstate h.1) (Nat.not_le_of_lt hb)
      have hstep : step (.inside bits bounds missing) b.toNat =
          (.between, [none, some (Char.ofNat b.toNat)]) := by
        rw [step, if_neg hout, start_of_ascii hb]
      rw [hstep]
      rfl
  | cons x front ih =>
    rw [List.cons_append, scanFrom_cons, scanFrom_cons, ih (step_pastAscii state x.toNat),
      List.append_assoc]

theorem scan_append (front : List UInt8) {b : UInt8} (hb : b.toNat < 128) (rest : List UInt8) :
    scan (front ++ b :: rest) = scan front ++ some (Char.ofNat b.toNat) :: scan rest := by
  have hbetween : State.between.PastAscii := trivial
  exact scanFrom_append hbetween front hb rest

/-- ASCII text is read as it is. -/
theorem decodeLenient_encode {text : String} (h : ∀ c ∈ text.toList, c.toNat < 128) :
    decodeLenient (encode text) = text := by
  have hscan (cs : List Char) (hcs : ∀ c ∈ cs, c.toNat < 128) :
      scan (cs.map fun c => UInt8.ofNat c.toNat) = cs.map some := by
    induction cs with
    | nil => rfl
    | cons c rest ih =>
      rw [List.forall_mem_cons] at hcs
      have hbyte := toNat_ofNat_of_ascii hcs.1
      have hfirst := scan_append [] (b := UInt8.ofNat c.toNat) (hbyte.symm ▸ hcs.1)
        (rest.map fun c => UInt8.ofNat c.toNat)
      rw [hbyte, Char.ofNat_toNat, ih hcs.2] at hfirst
      exact hfirst
  rw [decodeLenient, encode_of_ascii h, hscan _ h, List.map_map]
  exact (congrArg String.ofList (List.map_id text.toList)).trans String.ofList_toList

/-- What stands in front of an ASCII byte and what stands behind it are read apart. -/
theorem decodeLenient_append (front : List UInt8) {b : UInt8} (hb : b.toNat < 128)
    (rest : List UInt8) :
    decodeLenient (front ++ b :: rest) =
      decodeLenient front ++ String.singleton (Char.ofNat b.toNat) ++ decodeLenient rest := by
  rw [decodeLenient, scan_append front hb, List.map_append, List.map_cons, String.ofList_append,
    ← List.singleton_append, String.ofList_append, String.append_assoc]
  rfl

end Utf8

/-! ### Escapes -/

namespace Percent

variable {keep : UInt8 → Bool}

/-- An escape is three bytes, the last two of which are digits. -/
theorem front?_eq_some {s byte : UInt8} {bytes : List UInt8}
    (h : front? keep (s :: bytes) = some byte) :
    s = sign ∧
      ∃ a b rest, bytes = a :: b :: rest ∧ (hexValue? a).isSome ∧ (hexValue? b).isSome := by
  match bytes, h with
  | a :: b :: rest, h =>
    rw [front?] at h
    split at h
    · rename_i hsign
      obtain ⟨hescaped, -⟩ := Option.filter_eq_some_iff.mp h
      simp only [escaped?, Option.bind_eq_bind, Option.bind_eq_some_iff] at hescaped
      obtain ⟨x, hx, y, hy, -⟩ := hescaped
      exact ⟨hsign, a, b, rest, rfl, Option.isSome_of_eq_some hx, Option.isSome_of_eq_some hy⟩
    · cases h

theorem decodeFrom_of_none {b : UInt8} {rest : List UInt8} (h : front? keep (b :: rest) = none) :
    decodeFrom keep 0 (b :: rest) = b :: decodeFrom keep 0 rest := by
  rw [decodeFrom, h]

/-- No escape goes on behind a byte that is no digit. -/
theorem front?_append {b : UInt8} (hhex : hexValue? b = none) (s : UInt8)
    (front rest : List UInt8) :
    front? keep (s :: (front ++ b :: rest)) = front? keep (s :: front) := by
  match front with
  | [] =>
    refine Option.eq_none_iff_forall_ne_some.mpr fun byte heq => ?_
    obtain ⟨-, a, x, more, hbytes, ha, -⟩ := front?_eq_some heq
    obtain ⟨rfl, -⟩ := List.cons.inj hbytes
    rw [hhex] at ha
    cases ha
  | [_] =>
    refine Option.eq_none_iff_forall_ne_some.mpr fun byte heq => ?_
    obtain ⟨-, a, x, more, hbytes, -, hx⟩ := front?_eq_some heq
    obtain ⟨rfl, -⟩ := List.cons.inj (List.cons.inj hbytes).2
    rw [hhex] at hx
    cases hx
  | _ :: _ :: _ => rfl

/-- **What stands in front of a byte that belongs to no escape and what stands behind it are decoded
apart.** -/
theorem decodeFrom_append {b : UInt8} (hsign : b ≠ sign) (hhex : hexValue? b = none)
    (rest : List UInt8) {skip : Nat} {front : List UInt8} (hskip : skip ≤ front.length) :
    decodeFrom keep skip (front ++ b :: rest) =
      decodeFrom keep skip front ++ b :: decodeFrom keep 0 rest := by
  -- the induction is on the bytes in front, of which `skip` belong to an escape before them
  induction front generalizing skip with
  | nil =>
    obtain rfl := Nat.le_zero.mp hskip
    have hfront : front? keep (b :: rest) = none :=
      Option.eq_none_iff_forall_ne_some.mpr fun byte heq => hsign (front?_eq_some heq).1
    exact decodeFrom_of_none hfront
  | cons s front ih =>
    cases skip with
    | succ n => exact ih (Nat.le_of_succ_le_succ hskip)
    | zero =>
      rw [List.cons_append, decodeFrom, front?_append hhex, decodeFrom]
      cases hfront : front? keep (s :: front) with
      | none => exact congrArg (s :: ·) (ih (Nat.zero_le _))
      | some byte =>
        obtain ⟨-, x, y, more, rfl, -⟩ := front?_eq_some hfront
        exact congrArg (byte :: ·) (ih (by simp))

/-- What stands in front of a slash and what stands behind it are decoded apart. -/
theorem decodeKeeping_append (front rest : String) :
    decodeKeeping keep (front ++ "/" ++ rest) =
      decodeKeeping keep front ++ "/" ++ decodeKeeping keep rest := by
  have hslash : Utf8.encode "/" = [47] := by decide +kernel
  rw [decodeKeeping, Utf8.encode_append, Utf8.encode_append, hslash, List.append_assoc,
    List.singleton_append, decodeFrom_append (by decide) (by decide) _ (Nat.zero_le _),
    Utf8.decodeLenient_append _ (by decide)]
  rfl

/-- Whether a character is plain: ASCII, but not a percent sign. -/
def isPlain (c : Char) : Bool := decide (c.toNat < 128) && c != '%'

/-- Plain text is decoded to itself. -/
theorem decodeKeeping_eq_self {text : String} (h : text.toList.all isPlain) :
    decodeKeeping keep text = text := by
  have hplain : ∀ c ∈ text.toList, c.toNat < 128 ∧ c ≠ '%' := fun c hc => by
    simpa [isPlain] using List.all_eq_true.mp h c hc
  have hascii : ∀ c ∈ text.toList, c.toNat < 128 := fun c hc => (hplain c hc).1
  have hself (bytes : List UInt8) (hbytes : sign ∉ bytes) : decodeFrom keep 0 bytes = bytes := by
    induction bytes with
    | nil => rfl
    | cons b rest ih =>
      rw [List.mem_cons, not_or] at hbytes
      have hfront : front? keep (b :: rest) = none :=
        Option.eq_none_iff_forall_ne_some.mpr fun byte heq =>
          hbytes.1 (front?_eq_some heq).1.symm
      rw [decodeFrom_of_none hfront, ih hbytes.2]
  have hsign : sign ∉ Utf8.encode text := by
    rw [Utf8.encode_of_ascii hascii, List.mem_map]
    rintro ⟨c, hc, hbyte⟩
    have hnat := congrArg UInt8.toNat hbyte
    rw [Utf8.toNat_ofNat_of_ascii (hascii c hc)] at hnat
    exact (hplain c hc).2 (Char.toNat_inj.mp hnat)
  rw [decodeKeeping, hself _ hsign, Utf8.decodeLenient_encode hascii]

end Percent

end ChainFeed.Text
