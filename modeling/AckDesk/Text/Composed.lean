import AckDesk.Text.Marks

/-!
# Composed texts

One character often stands for a letter and the marks on it. A text is composed by taking such characters apart,
putting the marks on a letter in the order of their classes, and joining again what can be joined. Korean syllables
are taken apart and joined by counting.
-/

namespace AckDesk.Text

/-- Second characters of pairs, each with a text in which the first character and the one for the pair alternate. -/
def pairRows : List (Nat × String) := [
  (0x300, "aàeèiìoòuùüǜnǹеѐиѝēḕōṑwẁâầăằêềôồơờưừyỳἀἂἁἃἐἒἑἓἠἢἡἣἰἲἱἳὀὂὁὃὐὒὑὓὠὢὡὣαὰεὲηὴιὶοὸυὺωὼϊῒϋῢ"),
  (0x301, "aáeéiíoóuúyýcćlĺnńrŕsśzźüǘgǵåǻæǽøǿϊΐαάεέηήιίϋΰοόυύωώгѓкќçḉēḗïḯkḱmḿõṍōṓpṕũṹwẃâấăắêếôốơớưứἀἄἁἅ"),
  (0x301, "ἐἔἑἕἠἤἡἥἰἴἱἵὀὄὁὅὐὔὑὕὠὤὡὥ"), (0x302, "aâeêiîoôuûcĉgĝhĥjĵsŝwŵyŷzẑạậẹệọộ"),
  (0x303, "aãnñoõiĩuũvṽâẫăẵeẽêễôỗơỡưữyỹ"), (0x304, "aāeēiīoōuūüǖäǟȧǡæǣǫǭöȫõȭȯȱyȳиӣуӯgḡḷḹṛṝαᾱιῑυῡ"),
  (0x306, "aăeĕgğiĭoŏuŭийуўжӂаӑеӗȩḝạặαᾰιῐυῠ"), (0x307, "cċeėgġzżaȧoȯbḃdḋfḟhḣmṁnṅpṗrṙsṡśṥšṧṣṩtṫwẇxẋyẏ𐗒𐗉𐗚𐗤"),
  (0x308, "aäeëiïoöuüyÿιϊυϋеёіїаӓәӛжӝзӟиӥоӧөӫэӭуӱчӵыӹhḧõṏūṻwẅxẍtẗ"), (0x309, "aảâẩăẳeẻêểiỉoỏôổơởuủưửyỷ"),
  (0x30A, "aåuůwẘyẙ"), (0x30B, "oőuűуӳ"), (0x30C, "cčdďeělľnňrřsštťzžaǎiǐoǒuǔüǚgǧkǩʒǯjǰhȟ"),
  (0x30F, "aȁeȅiȉoȍrȑuȕѵѷ"), (0x311, "aȃeȇiȋoȏrȓuȗ"), (0x313, "αἀεἐηἠιἰοὀυὐωὠρῤ"), (0x314, "αἁεἑηἡιἱοὁυὑωὡρῥ"),
  (0x31B, "oơuư"), (0x323, "bḅdḍhḥkḳlḷmṃnṇrṛsṣtṭvṿwẉzẓaạeẹiịoọơợuụưựyỵ"), (0x324, "uṳ"), (0x325, "aḁ"),
  (0x326, "sștț"), (0x327, "cçgģkķlļnņrŗsştţeȩdḑhḩ"), (0x328, "aąeęiįuųoǫ"), (0x32D, "dḓeḙlḽnṋtṱuṷ"),
  (0x32E, "hḫ"), (0x330, "eḛiḭuṵ"), (0x331, "bḇdḏkḵlḻnṉrṟtṯzẕhẖ"),
  (0x338, "←↚→↛↔↮⇐⇍⇔⇎⇒⇏∃∄∈∉∋∌∣∤∥∦∼≁≃≄≅≇≈≉=≠≡≢≍≭<≮>≯≤≰≥≱≲≴≳≵≶≸≷≹≺⊀≻⊁⊂⊄⊃⊅⊆⊈⊇⊉⊢⊬⊨⊭⊩⊮⊫⊯≼⋠≽⋡⊑⋢⊒⋣⊲⋪⊳⋫⊴⋬⊵⋭"),
  (0x342, "ἀἆἁἇἠἦἡἧἰἶἱἷὐὖὑὗὠὦὡὧαᾶηῆιῖϊῗυῦϋῧωῶ"), (0x653, "اآ"), (0x654, "اأوؤيئەۀہۂےۓ"), (0x655, "اإ"),
  (0x93C, "नऩरऱळऴ"), (0x9BE, "\u09c7\u09cb"), (0x9D7, "\u09c7\u09cc"), (0xB3E, "\u0b47\u0b4b"),
  (0xB56, "\u0b47\u0b48"), (0xB57, "\u0b47\u0b4c"), (0xBBE, "\u0bc6\u0bca\u0bc7\u0bcb"),
  (0xBD7, "ஒஔ\u0bc6\u0bcc"), (0xC56, "\u0c46\u0c48"), (0xCC2, "\u0cc6\u0cca"),
  (0xCD5, "\u0cbf\u0cc0\u0cc6\u0cc7\u0cca\u0ccb"), (0xCD6, "\u0cc6\u0cc8"), (0xD3E, "\u0d46\u0d4a\u0d47\u0d4b"),
  (0xD57, "\u0d46\u0d4c"), (0xDCA, "\u0dd9\u0dda\u0ddc\u0ddd"), (0xDCF, "\u0dd9\u0ddc"),
  (0xDDF, "\u0dd9\u0dde"), (0x102E, "ဥဦ"),
  (0x1B35, "ᬅᬆᬇᬈᬉᬊᬋᬌᬍᬎᬑᬒ\u1b3a\u1b3b\u1b3c\u1b3d\u1b3e\u1b40\u1b3f\u1b41\u1b42\u1b43"),
  (0x3099, "かがきぎくぐけげこごさざしじすずせぜそぞただちぢつづてでとどはばひびふぶへべほぼうゔゝゞカガキギクグケゲコゴサザシジスズセゼソゾタダチヂツヅテデトドハバヒビフブヘベホボウヴワヷヰヸヱヹ"),
  (0x3099, "ヲヺヽヾ"), (0x309A, "はぱひぴふぷへぺほぽハパヒピフプヘペホポ"), (0x110BA, "𑂙𑂚𑂛𑂜𑂥𑂫"), (0x11127, "𑄱𑄮𑄲𑄯"), (0x1133E, "𑍇𑍋"),
  (0x11357, "𑍇𑍌"), (0x113B8, "𑏅𑎸"), (0x113BB, "𑎄𑎅"), (0x113C2, "𑎋𑎎𑏅𑏂"), (0x113C9, "𑎂𑎃𑎐𑎑𑏅𑏉"), (0x114B0, "𑒹𑒼"),
  (0x114BA, "𑒹𑒻"), (0x114BD, "𑒹𑒾"), (0x115AF, "𑖸𑖺𑖹𑖻"), (0x11930, "𑤵𑤸"), (0x1611E, "𖄡𖄞"), (0x1611F, "𖄦𖄩𖄤𖄡𖄦𖄢𖄧"),
  (0x16120, "𖄨𖄡𖄨"), (0x16129, "𖄡𖄩"), (0x16D67, "𖵨𖵧𖵣𖵩𖵩𖵪")]

/-- The pairs of a row: the first and the second character, and the one that stands for them. -/
def pairsOf (second : Char) : List Char → List (Char × Char × Char)
  | a :: c :: cs => (a, second, c) :: pairsOf second cs
  | _ => []

/-- All pairs of characters for which one character stands. -/
def pairs : List (Char × Char × Char) := pairRows.flatMap fun row => pairsOf (.ofNat row.1) row.2.toList

/-! ## Korean syllables -/

/-- Splits off the last letter of a Korean syllable. -/
def splitSyllable? (c : Char) : Option (Char × Char) :=
  let n := c.toNat - 0xAC00
  if c.toNat < 0xAC00 ∨ 0xD7A3 < c.toNat then none
  else if n % 28 = 0 then some (.ofNat (0x1100 + n / 588), .ofNat (0x1161 + n % 588 / 28))
  else some (.ofNat (c.toNat - n % 28), .ofNat (0x11A7 + n % 28))

/-- Joins a Korean letter or syllable with the letter after it. -/
def joinSyllable? (a b : Char) : Option Char :=
  let i := a.toNat - 0x1100
  let v := b.toNat - 0x1161
  let s := a.toNat - 0xAC00
  let t := b.toNat - 0x11A7
  if 0x1100 ≤ a.toNat ∧ i < 19 ∧ 0x1161 ≤ b.toNat ∧ v < 21 then some (.ofNat (0xAC00 + (i * 21 + v) * 28))
  else if 0xAC00 ≤ a.toNat ∧ s < 11172 ∧ s % 28 = 0 ∧ 0x11A7 < b.toNat ∧ t < 28 then some (.ofNat (a.toNat + t))
  else none

/-! ## Composing -/

/-- The two characters that a character stands for. -/
def split? (c : Char) : Option (Char × Char) :=
  match splitSyllable? c with
  | some p => some p
  | none => (pairs.find? (·.2.2 == c)).map fun p => (p.1, p.2.1)

/-- The character that stands for two. -/
def join? (a b : Char) : Option Char :=
  match joinSyllable? a b with
  | some c => some c
  | none => (pairs.find? fun p => p.1 == a && p.2.1 == b).map (·.2.2)

/-- Takes a character apart in at most `depth` steps. -/
def takeApart : Nat → Char → List Char
  | 0, c => [c]
  | depth + 1, c =>
    match split? c with
    | some (a, b) => takeApart depth a ++ [b]
    | none => [c]

/-- Puts a mark behind those of lower classes that follow it. -/
def placeMark (c : Char) : List Char → List Char
  | [] => [c]
  | d :: ds => if 0 < markClass d ∧ markClass d < markClass c then d :: placeMark c ds else c :: d :: ds

/-- Joins what can be joined to `first`, behind which the marks in `skipped` stand, the last of them in front. -/
def joinFrom (first : Char) (skipped : List Char) : List Char → List Char
  | [] => first :: skipped.reverse
  | c :: cs =>
    let isFree := match skipped with
      | [] => true
      | m :: _ => markClass m < markClass c
    match if isFree then join? first c else none with
    | some joined => joinFrom joined skipped cs
    | none =>
      if markClass c = 0 then first :: skipped.reverse ++ joinFrom c [] cs
      else joinFrom first (c :: skipped) cs

/-- The composed form of characters. -/
def composed (cs : List Char) : List Char :=
  match (cs.flatMap (takeApart 4)).foldr placeMark [] with
  | [] => []
  | c :: cs => joinFrom c [] cs

end AckDesk.Text
