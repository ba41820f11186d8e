import ChainFeed.Text.CombiningClass

/-!
# Composition

A letter with marks can be written in several ways: as one character, or as a letter with marks
behind it, in more than one order. The **composed** form of a text takes every character apart, puts
the marks behind a letter in the order of their classes, and joins a letter with the marks behind it
again as far as it goes. A syllable of Hangul is composed of two or three letters by arithmetic.

The table holds small letters and no forms for compatibility: text is brought into small letters and
plain forms before it is composed.
-/

namespace ChainFeed.Text

/-- Marks with the characters that they join: in each text, every character is followed by what it
makes with the mark. -/
def compositions : List (Nat × String) :=
  [(0x300, "aàeèiìnǹoòuùwẁyỳâầêềôồüǜăằēḕōṑơờưừαὰεὲηὴιὶοὸυὺωὼϊῒϋῢеѐиѝἀἂἁἃἐἒἑἓἠἢἡἣἰἲἱἳὀὂὁὃὐὒὑὓ"),
   (0x300, "ὠὢὡὣ"),
   (0x301, "aácćeégǵiíkḱlĺmḿnńoópṕrŕsśuúwẃyýzźâấåǻæǽçḉêếïḯôốõṍøǿüǘăắēḗōṓũṹơớưứαάεέηήιίοόυύωώ"),
   (0x301, "ϊΐϋΰгѓкќἀἄἁἅἐἔἑἕἠἤἡἥἰἴἱἵὀὄὁὅὐὔὑὕὠὤὡὥ"),
   (0x302, "aâcĉeêgĝhĥiîjĵoôsŝuûwŵyŷzẑạậẹệọộ"),
   (0x303, "aãeẽiĩnñoõuũvṽyỹâẫêễôỗăẵơỡưữ"),
   (0x304, "aāeēgḡiīoōuūyȳäǟæǣõȭöȫüǖǫǭȧǡȯȱαᾱιῑυῡиӣуӯḷḹṛṝ"),
   (0x306, "aăeĕgğiĭoŏuŭȩḝαᾰιῐυῠаӑеӗжӂийуўạặ"),
   (0x307, "aȧbḃcċdḋeėfḟgġhḣmṁnṅoȯpṗrṙsṡtṫwẇxẋyẏzżśṥšṧṣṩ"),
   (0x308, "aäeëhḧiïoötẗuüwẅxẍyÿõṏūṻιϊυϋаӓеёжӝзӟиӥоӧуӱчӵыӹэӭіїәӛөӫ"),
   (0x309, "aảeẻiỉoỏuủyỷâẩêểôổăẳơởưử"),
   (0x30A, "aåuůwẘyẙ"),
   (0x30B, "oőuűуӳ"),
   (0x30C, "aǎcčdďeěgǧhȟiǐjǰkǩlľnňoǒrřsštťuǔzžüǚʒǯ"),
   (0x30F, "aȁeȅiȉoȍrȑuȕѵѷ"),
   (0x311, "aȃeȇiȋoȏrȓuȗ"),
   (0x313, "αἀεἐηἠιἰοὀρῤυὐωὠ"),
   (0x314, "αἁεἑηἡιἱοὁρῥυὑωὡ"),
   (0x31B, "oơuư"),
   (0x323, "aạbḅdḍeẹhḥiịkḳlḷmṃnṇoọrṛsṣtṭuụvṿwẉyỵzẓơợưự"),
   (0x324, "uṳ"),
   (0x325, "aḁ"),
   (0x326, "sștț"),
   (0x327, "cçdḑeȩgģhḩkķlļnņrŗsştţ"),
   (0x328, "aąeęiįoǫuų"),
   (0x32D, "dḓeḙlḽnṋtṱuṷ"),
   (0x32E, "hḫ"),
   (0x330, "eḛiḭuṵ"),
   (0x331, "bḇdḏhẖkḵlḻnṉrṟtṯzẕ"),
   (0x338, "<≮=≠>≯←↚→↛↔↮⇐⇍⇒⇏⇔⇎∃∄∈∉∋∌∣∤∥∦∼≁≃≄≅≇≈≉≍≭≡≢≤≰≥≱≲≴≳≵≶≸≷≹≺⊀≻⊁≼⋠≽⋡⊂⊄⊃⊅⊆⊈⊇⊉⊑⋢⊒⋣⊢⊬⊨⊭⊩⊮⊫⊯"),
   (0x338, "⊲⋪⊳⋫⊴⋬⊵⋭"),
   (0x342, "αᾶηῆιῖυῦωῶϊῗϋῧἀἆἁἇἠἦἡἧἰἶἱἷὐὖὑὗὠὦὡὧ"),
   (0x93C, "नऩरऱळऴ"),
   (0xBD7, "ஒஔ"),
   (0x102E, "ဥဦ"),
   (0x1B35, "ᬅᬆᬇᬈᬉᬊᬋᬌᬍᬎᬑᬒ"),
   (0x3099, "うゔかがきぎくぐけげこごさざしじすずせぜそぞただちぢつづてでとどはばひびふぶへべほぼゝゞウヴカガキギクグケゲコゴサザシジスズセゼソゾタダチヂツヅテデトドハバヒビ"),
   (0x3099, "フブヘベホボワヷヰヸヱヹヲヺヽヾ"),
   (0x309A, "はぱひぴふぷへぺほぽハパヒピフプヘペホポ")]

/-- Marks that join characters from outside the tables of plain letters: marks themselves, letters
that are written from right to left, and letters of rare scripts. Each row holds the character, the
mark and what they make. -/
def rareCompositions : List (Nat × Nat × Nat) :=
  [(0x105D2, 0x307, 0x105C9), (0x105DA, 0x307, 0x105E4), (0x627, 0x653, 0x622),
   (0x627, 0x654, 0x623), (0x648, 0x654, 0x624), (0x64A, 0x654, 0x626), (0x6C1, 0x654, 0x6C2),
   (0x6D2, 0x654, 0x6D3), (0x6D5, 0x654, 0x6C0), (0x627, 0x655, 0x625), (0x9C7, 0x9BE, 0x9CB),
   (0x9C7, 0x9D7, 0x9CC), (0xB47, 0xB3E, 0xB4B), (0xB47, 0xB56, 0xB48), (0xB47, 0xB57, 0xB4C),
   (0xBC6, 0xBBE, 0xBCA), (0xBC7, 0xBBE, 0xBCB), (0xBC6, 0xBD7, 0xBCC), (0xC46, 0xC56, 0xC48),
   (0xCC6, 0xCC2, 0xCCA), (0xCBF, 0xCD5, 0xCC0), (0xCC6, 0xCD5, 0xCC7), (0xCCA, 0xCD5, 0xCCB),
   (0xCC6, 0xCD6, 0xCC8), (0xD46, 0xD3E, 0xD4A), (0xD47, 0xD3E, 0xD4B), (0xD46, 0xD57, 0xD4C),
   (0xDD9, 0xDCA, 0xDDA), (0xDDC, 0xDCA, 0xDDD), (0xDD9, 0xDCF, 0xDDC), (0xDD9, 0xDDF, 0xDDE),
   (0x1B3A, 0x1B35, 0x1B3B), (0x1B3C, 0x1B35, 0x1B3D), (0x1B3E, 0x1B35, 0x1B40),
   (0x1B3F, 0x1B35, 0x1B41), (0x1B42, 0x1B35, 0x1B43), (0x11099, 0x110BA, 0x1109A),
   (0x1109B, 0x110BA, 0x1109C), (0x110A5, 0x110BA, 0x110AB), (0x11131, 0x11127, 0x1112E),
   (0x11132, 0x11127, 0x1112F), (0x11347, 0x1133E, 0x1134B), (0x11347, 0x11357, 0x1134C),
   (0x113C2, 0x113B8, 0x113C7), (0x11384, 0x113BB, 0x11385), (0x1138B, 0x113C2, 0x1138E),
   (0x113C2, 0x113C2, 0x113C5), (0x11382, 0x113C9, 0x11383), (0x11390, 0x113C9, 0x11391),
   (0x113C2, 0x113C9, 0x113C8), (0x114B9, 0x114B0, 0x114BC), (0x114B9, 0x114BA, 0x114BB),
   (0x114B9, 0x114BD, 0x114BE), (0x115B8, 0x115AF, 0x115BA), (0x115B9, 0x115AF, 0x115BB),
   (0x11935, 0x11930, 0x11938), (0x1611E, 0x1611E, 0x16121), (0x1611E, 0x1611F, 0x16123),
   (0x16121, 0x1611F, 0x16126), (0x16122, 0x1611F, 0x16127), (0x16129, 0x1611F, 0x16124),
   (0x1611E, 0x16120, 0x16125), (0x16121, 0x16120, 0x16128), (0x1611E, 0x16129, 0x16122),
   (0x16D63, 0x16D67, 0x16D69), (0x16D67, 0x16D67, 0x16D68), (0x16D69, 0x16D67, 0x16D6A)]

/-- The pairs of a list. -/
def pairs {α : Type} : List α → List (α × α)
  | a :: b :: rest => (a, b) :: pairs rest
  | _ => []

/-! ### Syllables of Hangul -/

/-- The first syllable. -/
def firstSyllable : Nat := 0xAC00

/-- The letters that a syllable starts with: their first code point and their number. -/
def leadingLetters : Nat × Nat := (0x1100, 19)

/-- The vowels of syllables: their first code point and their number. -/
def vowelLetters : Nat × Nat := (0x1161, 21)

/-- The letters that a syllable may end with: the code point before the first of them, and their
number with that. -/
def trailingLetters : Nat × Nat := (0x11A7, 28)

/-- The place of a code point among letters. -/
def placeAmong (letters : Nat × Nat) (n : Nat) : Option Nat :=
  if letters.1 ≤ n ∧ n < letters.1 + letters.2 then some (n - letters.1) else none

/-- The place of a syllable among all. -/
def syllablePlace? (n : Nat) : Option Nat :=
  placeAmong (firstSyllable, leadingLetters.2 * vowelLetters.2 * trailingLetters.2) n

/-- The syllable that a letter and a vowel make, or a syllable without a last letter and one. -/
def joinSyllable? (a b : Nat) : Option Nat :=
  match placeAmong leadingLetters a, placeAmong vowelLetters b with
  | some i, some j => some (firstSyllable + (i * vowelLetters.2 + j) * trailingLetters.2)
  | _, _ =>
    match syllablePlace? a, placeAmong trailingLetters b with
    | some i, some (j + 1) => if i % trailingLetters.2 = 0 then some (a + (j + 1)) else none
    | _, _ => none

/-- The parts of a syllable. -/
def syllableParts? (n : Nat) : Option (Nat × Nat) :=
  (syllablePlace? n).map fun i =>
    if i % trailingLetters.2 ≠ 0 then
      (n - i % trailingLetters.2, trailingLetters.1 + i % trailingLetters.2)
    else
      let i := i / trailingLetters.2
      (leadingLetters.1 + i / vowelLetters.2, vowelLetters.1 + i % vowelLetters.2)

/-! ### Joining and taking apart -/

/-- The character that two characters make. -/
def join? (a b : Char) : Option Char :=
  match joinSyllable? a.toNat b.toNat with
  | some n => some (Char.ofNat n)
  | none =>
    match rareCompositions.find? fun (base, mark, _) => base == a.toNat && mark == b.toNat with
    | some (_, _, joined) => some (Char.ofNat joined)
    | none =>
      (compositions.filter (·.1 == b.toNat)).findSome? fun (_, row) =>
        (pairs row.toList).lookup a

/-- The two parts of a character. -/
def parts? (c : Char) : Option (Char × Char) :=
  if c.toNat < 128 then none
  else
    match syllableParts? c.toNat with
    | some (a, b) => some (Char.ofNat a, Char.ofNat b)
    | none =>
      match rareCompositions.find? (·.2.2 == c.toNat) with
      | some (base, mark, _) => some (Char.ofNat base, Char.ofNat mark)
      | none =>
        compositions.findSome? fun (mark, row) =>
          ((pairs row.toList).find? (·.2 == c)).map fun (base, _) => (base, Char.ofNat mark)

/-- How often a character can be taken apart: no letter bears more marks. -/
def mostMarks : Nat := 4

/-- The characters that a character is made of, of which it can be taken apart `depth` times. -/
def takenApart : Nat → Char → List Char
  | 0, c => [c]
  | depth + 1, c =>
    match parts? c with
    | some (base, mark) => takenApart depth base ++ [mark]
    | none => [c]

/-- A character put in front of the characters before it (the last one first) that have a greater
class. -/
def insertByClass (c : Char) : List Char → List Char
  | [] => [c]
  | before :: rest =>
    if combiningClass c ≠ 0 ∧ combiningClass c < combiningClass before then
      before :: insertByClass c rest
    else c :: before :: rest

/-- The characters taken apart, with marks in the order of their classes. -/
def decomposed (cs : List Char) : List Char :=
  ((cs.flatMap (takenApart mostMarks)).foldl (fun before c => insertByClass c before) []).reverse

/-- A text whose letters and marks are being joined. -/
structure Joining where
  /-- What is in front of the letter, the last character first. -/
  done : List Char
  /-- The letter that marks may still join. -/
  letter : Option Char
  /-- The marks behind the letter that did not join it, the last one first. -/
  marks : List Char

/-- The text with one more character. A mark does not reach the letter past one of its own class or
of a greater one. -/
def Joining.push (text : Joining) (c : Char) : Joining :=
  match text.letter with
  | none =>
    if combiningClass c = 0 then { text with letter := some c }
    else { text with done := c :: text.done }
  | some letter =>
    let isBlocked := text.marks.head?.any fun mark => combiningClass c ≤ combiningClass mark
    match if isBlocked then none else join? letter c with
    | some joined => { text with letter := some joined }
    | none =>
      if combiningClass c = 0 then ⟨text.marks ++ letter :: text.done, some c, []⟩
      else { text with marks := c :: text.marks }

/-- The characters of the text. -/
def Joining.chars (text : Joining) : List Char :=
  (text.marks ++ text.letter.toList ++ text.done).reverse

/-- The composed form of a text. -/
def composed (cs : List Char) : List Char :=
  ((decomposed cs).foldl Joining.push ⟨[], none, []⟩).chars

end ChainFeed.Text
