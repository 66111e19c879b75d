import Catalog.Text.Mark

/-!
# Composed characters

A letter with a mark can be one character or two, and so can a Korean syllable. A text is composed
when its marks are in the order of their classes and every pair that has a character of its own is
written by it. Only small letters and those without case are known here.

## Main definitions

* `compose?`, `decompose?` — the character for a pair, and the pair of a character.
* `composed` — the composed form of a text.
-/

namespace Catalog.Text

/-! ### Pairs -/

/-- By the second characters of the pairs: their first characters, each followed by the character
for the pair. -/
def pairRuns : List (Nat × String) :=
  [(0x300, "aàeèiìoòuùüǜnǹеѐиѝēḕōṑwẁâầăằêềôồơờưừyỳἀἂἁἃἐἒἑἓἠἢἡἣἰἲἱἳὀὂὁὃὐὒὑὓὠὢὡὣαὰεὲηὴιὶοὸυὺωὼϊῒϋῢ"),
   (0x301, "aáeéiíoóuúyýcćlĺnńrŕsśzźüǘgǵåǻæǽøǿϊΐαάεέηήιίϋΰοόυύωώгѓкќçḉēḗïḯkḱmḿõṍōṓpṕũṹwẃâấăắêếôố"),
   (0x301, "ơớưứἀἄἁἅἐἔἑἕἠἤἡἥἰἴἱἵὀὄὁὅὐὔὑὕὠὤὡὥ"), (0x302, "aâeêiîoôuûcĉgĝhĥjĵsŝwŵyŷzẑạậẹệọộ"),
   (0x303, "aãnñoõiĩuũvṽâẫăẵeẽêễôỗơỡưữyỹ"), (0x304, "aāeēiīoōuūüǖäǟȧǡæǣǫǭöȫõȭȯȱyȳиӣуӯgḡḷḹṛṝαᾱιῑυῡ"),
   (0x306, "aăeĕgğiĭoŏuŭийуўжӂаӑеӗȩḝạặαᾰιῐυῠ"),
   (0x307, "cċeėgġzżaȧoȯbḃdḋfḟhḣmṁnṅpṗrṙsṡśṥšṧṣṩtṫwẇxẋyẏ𐗒𐗉𐗚𐗤"),
   (0x308, "aäeëiïoöuüyÿιϊυϋеёіїаӓәӛжӝзӟиӥоӧөӫэӭуӱчӵыӹhḧõṏūṻwẅxẍtẗ"),
   (0x309, "aảâẩăẳeẻêểiỉoỏôổơởuủưửyỷ"), (0x30a, "aåuůwẘyẙ"), (0x30b, "oőuűуӳ"),
   (0x30c, "cčdďeělľnňrřsštťzžaǎiǐoǒuǔüǚgǧkǩʒǯjǰhȟ"), (0x30f, "aȁeȅiȉoȍrȑuȕѵѷ"),
   (0x311, "aȃeȇiȋoȏrȓuȗ"), (0x313, "αἀεἐηἠιἰοὀυὐωὠρῤ"), (0x314, "αἁεἑηἡιἱοὁυὑωὡρῥ"),
   (0x31b, "oơuư"), (0x323, "bḅdḍhḥkḳlḷmṃnṇrṛsṣtṭvṿwẉzẓaạeẹiịoọơợuụưựyỵ"), (0x324, "uṳ"),
   (0x325, "aḁ"), (0x326, "sștț"), (0x327, "cçgģkķlļnņrŗsştţeȩdḑhḩ"), (0x328, "aąeęiįuųoǫ"),
   (0x32d, "dḓeḙlḽnṋtṱuṷ"), (0x32e, "hḫ"), (0x330, "eḛiḭuṵ"), (0x331, "bḇdḏkḵlḻnṉrṟtṯzẕhẖ"),
   (0x338, "←↚→↛↔↮⇐⇍⇔⇎⇒⇏∃∄∈∉∋∌∣∤∥∦∼≁≃≄≅≇≈≉=≠≡≢≍≭<≮>≯≤≰≥≱≲≴≳≵≶≸≷≹≺⊀≻⊁⊂⊄⊃⊅⊆⊈⊇⊉⊢⊬⊨⊭⊩⊮⊫⊯≼⋠≽⋡⊑⋢⊒⋣⊲⋪⊳⋫"),
   (0x338, "⊴⋬⊵⋭"), (0x342, "ἀἆἁἇἠἦἡἧἰἶἱἷὐὖὑὗὠὦὡὧαᾶηῆιῖϊῗυῦϋῧωῶ"), (0x653, "\u0627\u0622"),
   (0x654, "\u0627\u0623\u0648\u0624\u064a\u0626\u06d5\u06c0\u06c1\u06c2\u06d2\u06d3"),
   (0x655, "\u0627\u0625"), (0x93c, "नऩरऱळऴ"), (0x9be, "\u09c7\u09cb"), (0x9d7, "\u09c7\u09cc"),
   (0xb3e, "\u0b47\u0b4b"), (0xb56, "\u0b47\u0b48"), (0xb57, "\u0b47\u0b4c"),
   (0xbbe, "\u0bc6\u0bca\u0bc7\u0bcb"), (0xbd7, "ஒஔ\u0bc6\u0bcc"), (0xc56, "\u0c46\u0c48"),
   (0xcc2, "\u0cc6\u0cca"), (0xcd5, "\u0cbf\u0cc0\u0cc6\u0cc7\u0cca\u0ccb"),
   (0xcd6, "\u0cc6\u0cc8"), (0xd3e, "\u0d46\u0d4a\u0d47\u0d4b"), (0xd57, "\u0d46\u0d4c"),
   (0xdca, "\u0dd9\u0dda\u0ddc\u0ddd"), (0xdcf, "\u0dd9\u0ddc"), (0xddf, "\u0dd9\u0dde"),
   (0x102e, "ဥဦ"),
   (0x1b35, "ᬅᬆᬇᬈᬉᬊᬋᬌᬍᬎᬑᬒ\u1b3a\u1b3b\u1b3c\u1b3d\u1b3e\u1b40\u1b3f\u1b41\u1b42\u1b43"),
   (0x3099, "かがきぎくぐけげこごさざしじすずせぜそぞただちぢつづてでとどはばひびふぶへべほぼうゔゝゞカガキギクグケゲコゴサザシジスズセゼソゾタダチヂツヅテデトドハバヒビフブヘベホボ"),
   (0x3099, "ウヴワヷヰヸヱヹヲヺヽヾ"), (0x309a, "はぱひぴふぷへぺほぽハパヒピフプヘペホポ"), (0x110ba, "𑂙𑂚𑂛𑂜𑂥𑂫"),
   (0x11127, "𑄱𑄮𑄲𑄯"), (0x1133e, "𑍇𑍋"), (0x11357, "𑍇𑍌"), (0x113b8, "𑏅𑎸"), (0x113bb, "𑎄𑎅"),
   (0x113c2, "𑎋𑎎𑏅𑏂"), (0x113c9, "𑎂𑎃𑎐𑎑𑏅𑏉"), (0x114b0, "𑒹𑒼"), (0x114ba, "𑒹𑒻"), (0x114bd, "𑒹𑒾"),
   (0x115af, "𑖸𑖺𑖹𑖻"), (0x11930, "𑤵𑤸"), (0x1611e, "𖄡𖄞"), (0x1611f, "𖄦𖄩𖄤𖄡𖄦𖄢𖄧"), (0x16120, "𖄨𖄡𖄨"),
   (0x16129, "𖄡𖄩"), (0x16d67, "𖵨𖵧𖵣𖵩𖵩𖵪")]

/-- A pair of characters and the character for it. -/
structure Composition where
  first : Char
  second : Char
  whole : Char

/-- The compositions of a second character. -/
def compositionsOf (second : Char) : List Char → List Composition
  | first :: whole :: rest => ⟨first, second, whole⟩ :: compositionsOf second rest
  | _ => []

/-- All pairs with a character of their own, Korean syllables aside. -/
def compositions : List Composition :=
  pairRuns.flatMap fun (second, list) => compositionsOf (Char.ofNat second) list.toList

/-! ### Korean syllables -/

/-- The first syllable. -/
def firstSyllable : Nat := 0xac00

/-- The first of the consonants that open a syllable. -/
def firstOpening : Nat := 0x1100

/-- The first of the vowels of syllables. -/
def firstVowel : Nat := 0x1161

/-- The place before the first of the consonants that close a syllable. -/
def noClosing : Nat := 0x11a7

/-- The syllable of an opening consonant and a vowel, or of such a syllable and a consonant that
closes it. -/
def composeSyllable? (a b : Char) : Option Char :=
  let a := a.toNat
  let b := b.toNat
  if firstOpening ≤ a ∧ a < firstOpening + 19 ∧ firstVowel ≤ b ∧ b < firstVowel + 21 then
    some (Char.ofNat (firstSyllable + ((a - firstOpening) * 21 + (b - firstVowel)) * 28))
  else if firstSyllable ≤ a ∧ a < firstSyllable + 19 * 21 * 28 ∧ (a - firstSyllable) % 28 = 0
      ∧ noClosing < b ∧ b < noClosing + 28 then
    some (Char.ofNat (a + (b - noClosing)))
  else none

/-- The characters that a syllable is composed of. -/
def decomposeSyllable? (c : Char) : Option (List Char) :=
  if firstSyllable ≤ c.toNat ∧ c.toNat < firstSyllable + 19 * 21 * 28 then
    let index := c.toNat - firstSyllable
    let closing := if index % 28 = 0 then [] else [Char.ofNat (noClosing + index % 28)]
    some (Char.ofNat (firstOpening + index / (21 * 28))
      :: Char.ofNat (firstVowel + index / 28 % 21) :: closing)
  else none

/-! ### Taking apart -/

/-- The character for a pair. -/
def compose? (a b : Char) : Option Char :=
  (composeSyllable? a b).or
    ((compositions.find? fun p => p.first == a && p.second == b).map (·.whole))

/-- The pair of a character. -/
def decompose? (c : Char) : Option (Char × Char) :=
  (compositions.find? fun p => p.whole == c).map fun p => (p.first, p.second)

/-- A character taken apart as far as it goes, when no pair is nested deeper than `depth`. -/
def parts : (depth : Nat) → Char → List Char
  | 0, c => [c]
  | depth + 1, c =>
    match decomposeSyllable? c, decompose? c with
    | some cs, _ => cs
    | none, some (a, b) => parts depth a ++ [b]
    | none, none => [c]

/-- How deep pairs are nested. -/
def maxNesting : Nat := 3

/-! ### Ordering marks -/

/-- Puts a character before marks that are in order, behind those of lower classes. -/
def insertMark (c : Char) : List Char → List Char
  | [] => [c]
  | d :: ds =>
    if 0 < combiningClass d && combiningClass d < combiningClass c then d :: insertMark c ds
    else c :: d :: ds

/-- A text with the marks at each letter in the order of their classes. -/
def orderMarks (cs : List Char) : List Char := cs.foldr insertMark []

/-! ### Putting together -/

/-- Puts a letter together with the marks that follow it, where `marks` are those that stay, in
reverse. A mark of the class of one that stays belongs behind it. -/
def composeFrom (letter : Char) (marks : List Char) : List Char → List Char
  | [] => letter :: marks.reverse
  | c :: cs =>
    let free := match marks with
      | [] => true
      | m :: _ => combiningClass m < combiningClass c
    match if free then compose? letter c else none with
    | some whole => composeFrom whole marks cs
    | none =>
      if combiningClass c = 0 then (letter :: marks.reverse) ++ composeFrom c [] cs
      else composeFrom letter (c :: marks) cs

/-- Puts the letters of a text together with their marks. -/
def composeAll : List Char → List Char
  | [] => []
  | c :: cs => if combiningClass c = 0 then composeFrom c [] cs else c :: composeAll cs

/-- The composed form of a text. -/
def composed (cs : List Char) : List Char :=
  composeAll (orderMarks (cs.flatMap (parts maxNesting)))

end Catalog.Text
