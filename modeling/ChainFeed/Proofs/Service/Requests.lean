import ChainFeed.Proofs.Text.Cutting
import ChainFeed.Proofs.Text.Decoding
import ChainFeed.Service.Query
import ChainFeed.Service.Route

/-!
# What requests ask for

A part of a path **stands for** a text (`Route.StandsFor`) if the two decodings of the path make the
text of it, and the first one leaves no slash in it. Plain text without slashes stands for itself.

A path is decoded part by part, so behind the path of accounts, a part that stands for an address
leads to the account, or to what belongs to it: `ofPath?_account` and `ofPath?_slice` say which
route a path leads to. A query that gives a number as the `timestamp` asks for what changed after it
(`pollingQuery?_timestamp`).
-/

namespace ChainFeed.Service

open Text

/-! ### Queries -/

/-- Plain text without plus signs is meant as it is written. -/
theorem formText_eq_self {cs : List Char} (h : cs.all fun c => Percent.isPlain c && c != '+') :
    formText cs = String.ofList cs := by
  have hplain : ∀ c ∈ cs, Percent.isPlain c = true ∧ c ≠ '+' := fun c hc => by
    simpa using List.all_eq_true.mp h c hc
  have hmap : (cs.map fun c => if c = '+' then ' ' else c) = cs :=
    (List.map_congr_left fun c hc => if_neg (hplain c hc).2).trans (List.map_id cs)
  rw [formText, hmap]
  refine Percent.decodeKeeping_eq_self ?_
  rw [String.toList_ofList, List.all_eq_true]
  exact fun c hc => (hplain c hc).1

/-- **A number is a bound.** -/
theorem pollingQuery?_timestamp {n : Nat} (h : n < word64) :
    pollingQuery? ("timestamp=" ++ toString n) = some ⟨n⟩ := by
  have hchars : ("timestamp=" ++ toString n).toList =
      "timestamp".toList ++ '=' :: (toString n).toList := by
    rw [String.toList_append]
    rfl
  have hdigits : (toString n).toList.all fun c => Percent.isPlain c && c != '+' := by
    rw [List.all_eq_true]
    intro c hc
    have hdigit := isDigit_of_mem_toString hc
    have hascii : c.toNat < 128 := by
      simp only [Char.isDigit, Bool.and_eq_true, decide_eq_true_iff] at hdigit
      exact Nat.lt_of_le_of_lt (UInt32.le_iff_toNat_le.mp hdigit.2) (by decide)
    have hpercent : c ≠ '%' := ne_of_apply_ne Char.isDigit (by rw [hdigit]; decide)
    have hplus : c ≠ '+' := ne_of_apply_ne Char.isDigit (by rw [hdigit]; decide)
    simp [Percent.isPlain, hascii, hpercent, hplus]
  have hwhole : '&' ∉ ("timestamp=" ++ toString n).toList := by
    rw [String.toList_append, List.mem_append, not_or]
    exact ⟨by decide, not_mem_toString (by decide)⟩
  have hpieces : pieces (· = '&') ("timestamp=" ++ toString n).toList =
      [("timestamp=" ++ toString n).toList] :=
    pieces_eq_singleton fun c hc => by simpa using ne_of_mem_of_not_mem hc hwhole
  have hfields : formFields ("timestamp=" ++ toString n) = [("timestamp", toString n)] := by
    rw [formFields, hpieces, hchars, List.filter_cons_of_pos (by simp), List.filter_nil,
      List.map_singleton, cut_append (by decide)]
    dsimp only
    rw [Option.getD_some, formText_eq_self (by decide), formText_eq_self hdigits,
      String.ofList_toList, String.ofList_toList]
  have hfilter : [("timestamp", toString n)].filter (·.1 == "timestamp") =
      [("timestamp", toString n)] := rfl
  rw [pollingQuery?, hfields, hfilter]
  dsimp only
  rw [numeral?_toString h]
  rfl

end ChainFeed.Service

namespace ChainFeed.Service.Route

open Text

/-! ### Parts of paths -/

/-- The part of a path stands for a text. -/
structure StandsFor (part text : String) : Prop where
  /-- The first decoding leaves no slash in the part. -/
  whole : '/' ∉ (Percent.decodeKeeping keepsEscape part).toList
  /-- The second decoding makes the text of what the first one leaves. -/
  decode_eq : Percent.decode (Percent.decodeKeeping keepsEscape part) = text
  /-- The text is not empty. -/
  ne_empty : text ≠ ""

/-- Plain text without slashes stands for itself. -/
theorem standsFor_self {text : String} (hne : text ≠ "")
    (h : text.toList.all fun c => Percent.isPlain c && c != '/') : StandsFor text text := by
  have hchars : ∀ c ∈ text.toList, Percent.isPlain c = true ∧ c ≠ '/' := fun c hc => by
    simpa using List.all_eq_true.mp h c hc
  have hplain : text.toList.all Percent.isPlain :=
    List.all_eq_true.mpr fun c hc => (hchars c hc).1
  have hfirst : Percent.decodeKeeping keepsEscape text = text :=
    Percent.decodeKeeping_eq_self hplain
  refine ⟨?_, ?_, hne⟩
  · rw [hfirst]
    exact fun hmem => (hchars '/' hmem).2 rfl
  · rw [hfirst]
    exact Percent.decodeKeeping_eq_self hplain

/-- What a part that stands for a text is after the first decoding. -/
theorem StandsFor.ne_nil {part text : String} (h : StandsFor part text) :
    (Percent.decodeKeeping keepsEscape part).toList ≠ [] := by
  intro hnil
  have hempty : Percent.decodeKeeping keepsEscape part = "" := String.toList_inj.mp hnil
  have hdecode := h.decode_eq
  rw [hempty] at hdecode
  exact h.ne_empty (hdecode ▸ Percent.decodeKeeping_eq_self (by decide))

/-! ### Behind the path of a kind -/

/-- What stands behind the path of a kind and a slash is for that kind. -/
theorem ofPath?_scope (kind : Kind) (rest : String) :
    ofPath? (scope kind ++ "/" ++ rest) =
      some (within kind ('/' :: (Percent.decodeKeeping keepsEscape rest).toList)) := by
  have hscope : Percent.decodeKeeping keepsEscape (scope kind) = scope kind := by
    refine Percent.decodeKeeping_eq_self ?_
    cases kind <;> decide
  rw [ofPath?, Percent.decodeKeeping_append, hscope, String.toList_append, String.toList_append]
  cases kind <;> rfl

variable {owner behind : List Char}

/-- The owner in a path is what stands between its first two slashes. -/
theorem owner?_append (ending : String) (hwhole : '/' ∉ owner) (hne : owner ≠ [])
    (hbehind : ∀ c ∈ behind.head?, c = '/') :
    owner? ending ('/' :: (owner ++ behind)) =
      if behind = ending.toList then some (String.ofList owner) else none := by
  have hplain : ∀ c ∈ owner, decide (c ≠ '/') = true := fun c hc =>
    decide_eq_true (ne_of_mem_of_not_mem hc hwhole)
  have hstop : behind.takeWhile (fun c => decide (c ≠ '/')) = [] := by
    cases behind with
    | nil => rfl
    | cons c rest =>
      obtain rfl := hbehind c rfl
      rfl
  have htake : (owner ++ behind).takeWhile (fun c => decide (c ≠ '/')) = owner := by
    rw [List.takeWhile_append_of_pos hplain, hstop, List.append_nil]
  have hnonempty : (!owner.isEmpty) = true := by simpa using hne
  rw [owner?, htake, List.drop_left, hnonempty]
  simp

/-- Behind the owner, the further routes of accounts have their endings. -/
theorem further?_account (hwhole : '/' ∉ owner) (hne : owner ≠ []) (ending : String) :
    further? .account ('/' :: (owner ++ '/' :: ending.toList)) =
      if ending = "storage/polling" then
        some (accountStorage (Percent.decode (String.ofList owner)))
      else if ending = "contracts/polling" then
        some (accountContracts (Percent.decode (String.ofList owner)))
      else if ending = "transactions/polling" then
        some (accountTransactions (Percent.decode (String.ofList owner)))
      else none := by
  have howner (name : String) : owner? ("/" ++ name) ('/' :: (owner ++ '/' :: ending.toList)) =
      if ending = name then some (String.ofList owner) else none := by
    have hname : '/' :: ending.toList = ("/" ++ name).toList ↔ ending = name := by
      rw [String.toList_append, ← String.toList_inj]
      exact List.cons_inj_right '/'
    have hslash : ∀ c ∈ ('/' :: ending.toList).head?, c = '/' := fun c hc =>
      (Option.some.inj hc).symm
    rw [owner?_append _ hwhole hne hslash]
    exact if_congr hname rfl rfl
  have hstorage := howner "storage/polling"
  have hcontracts := howner "contracts/polling"
  have htransactions := howner "transactions/polling"
  rw [further?]
  dsimp only
  rw [show "/storage/polling" = "/" ++ "storage/polling" by decide, hstorage,
    show "/contracts/polling" = "/" ++ "contracts/polling" by decide, hcontracts,
    show "/transactions/polling" = "/" ++ "transactions/polling" by decide, htransactions]
  split
  · rfl
  · split
    · rfl
    · split <;> rfl

/-- Without an ending there is no further route. -/
theorem further?_account_eq_none (hwhole : '/' ∉ owner) (hne : owner ≠ []) :
    further? .account ('/' :: owner) = none := by
  have howner (ending : String) (hending : [] ≠ ending.toList) :
      owner? ending ('/' :: owner) = none := by
    have hcut : owner? ending ('/' :: (owner ++ [])) = _ :=
      owner?_append ending hwhole hne fun _ hc => nomatch hc
    rwa [List.append_nil, if_neg hending] at hcut
  rw [further?]
  dsimp only
  rw [howner _ (by decide), howner _ (by decide), howner _ (by decide)]
  rfl

/-! ### Behind the path of accounts -/

variable {part text : String}

theorem toList_polling : "/polling".toList = '/' :: "polling".toList := by decide

/-- A part that stands for an address, with more behind it, leads to what belongs to the account if
what is behind it is the ending of a further route. -/
theorem ofPath?_behind (h : StandsFor part text) {ending : String}
    (hending : ending.toList.all Percent.isPlain) :
    ofPath? ("/accounts/" ++ part ++ ("/" ++ ending)) =
      some (if ending = "storage/polling" then accountStorage text
        else if ending = "contracts/polling" then accountContracts text
        else if ending = "transactions/polling" then accountTransactions text
        else find .account (text ++ "/" ++ ending)) := by
  have hpath : "/accounts/" ++ part ++ ("/" ++ ending) =
      scope .account ++ "/" ++ (part ++ "/" ++ ending) := by
    rw [show "/accounts/" = scope .account ++ "/" by decide]
    simp only [String.append_assoc]
  have hdecoded : (Percent.decodeKeeping keepsEscape (part ++ "/" ++ ending)).toList =
      (Percent.decodeKeeping keepsEscape part).toList ++ '/' :: ending.toList := by
    rw [Percent.decodeKeeping_append, Percent.decodeKeeping_eq_self hending, String.toList_append,
      String.toList_append, List.append_assoc]
    rfl
  have hid : Percent.decode (String.ofList
      ((Percent.decodeKeeping keepsEscape part).toList ++ '/' :: ending.toList)) =
        text ++ "/" ++ ending := by
    rw [← hdecoded, String.ofList_toList, Percent.decodeKeeping_append,
      Percent.decodeKeeping_eq_self hending, Percent.decode, Percent.decodeKeeping_append,
      Percent.decodeKeeping_eq_self hending]
    exact congrArg (· ++ "/" ++ ending) h.decode_eq
  have hpolling : '/' :: ((Percent.decodeKeeping keepsEscape part).toList ++ '/' :: ending.toList) ≠
      "/polling".toList := by
    rw [toList_polling]
    intro heq
    have hslash : '/' ∉ "polling".toList := by decide
    rw [← (List.cons.inj heq).2] at hslash
    exact hslash (List.mem_append_right _ List.mem_cons_self)
  rw [hpath, ofPath?_scope, hdecoded, within, if_neg (List.cons_ne_nil _ _), if_neg hpolling,
    further?_account h.whole h.ne_nil, String.ofList_toList, h.decode_eq, List.drop_one,
    List.tail_cons, hid]
  split
  · rfl
  · split
    · rfl
    · split <;> rfl

/-- **The paths of what belongs to an account** lead to it. -/
theorem ofPath?_slice (h : StandsFor part text) :
    ofPath? ("/accounts/" ++ part ++ "/storage/polling") = some (accountStorage text) ∧
    ofPath? ("/accounts/" ++ part ++ "/contracts/polling") = some (accountContracts text) ∧
    ofPath? ("/accounts/" ++ part ++ "/transactions/polling") =
      some (accountTransactions text) := by
  have hstorage := ofPath?_behind h (by decide : "storage/polling".toList.all Percent.isPlain)
  have hcontracts := ofPath?_behind h (by decide : "contracts/polling".toList.all Percent.isPlain)
  have htransactions :=
    ofPath?_behind h (by decide : "transactions/polling".toList.all Percent.isPlain)
  exact ⟨hstorage, hcontracts, htransactions⟩

/-- **The path of an account** leads to it, unless it asks for what changed. -/
theorem ofPath?_account (h : StandsFor part text) (hpolling : text ≠ "polling") :
    ofPath? ("/accounts/" ++ part) = some (find .account text) := by
  have hpath : "/accounts/" ++ part = scope .account ++ "/" ++ part := by
    rw [show "/accounts/" = scope .account ++ "/" by decide]
  have hplain : Percent.decode "polling" = "polling" :=
    Percent.decodeKeeping_eq_self (by decide)
  have hne : '/' :: (Percent.decodeKeeping keepsEscape part).toList ≠ "/polling".toList := by
    rw [toList_polling]
    intro heq
    have hfirst : Percent.decodeKeeping keepsEscape part = "polling" :=
      String.toList_inj.mp (List.cons.inj heq).2
    have hread := h.decode_eq
    rw [hfirst, hplain] at hread
    exact hpolling hread.symm
  rw [hpath, ofPath?_scope, within, if_neg (List.cons_ne_nil _ _), if_neg hne,
    further?_account_eq_none h.whole h.ne_nil, Option.getD_none, List.drop_one, List.tail_cons,
    String.ofList_toList, h.decode_eq]

end ChainFeed.Service.Route
