import Mathlib.Algebra.Group.Int.Defs
import Mathlib.Algebra.GroupWithZero.Nat
import Mathlib.Data.List.DropRight

/-!
# Text as Rust sees it

String functions of the Rust standard library, over the characters of a string. The tables are
those of Unicode 17.
-/

namespace RustText

open List String

/-! ## White space and slices -/

/-- `char::is_whitespace`, the Unicode property `White_Space`. -/
def isWhitespace (char : Char) : Bool :=
  let code := char.toNat
  (9 ≤ code && code ≤ 13) || code == 32 || code == 133 || code == 160 ||
    code == 5760 || (8192 ≤ code && code ≤ 8202) || code == 8232 ||
    code == 8233 || code == 8239 || code == 8287 || code == 12288

def trimChars (chars : List Char) : List Char :=
  ((chars.dropWhile isWhitespace).reverse.dropWhile isWhitespace).reverse

def trim (text : String) : String := ofList (trimChars text.toList)

theorem dropWhile_rdropWhile (chars : List Char) :
    ((chars.dropWhile isWhitespace).rdropWhile isWhitespace).dropWhile isWhitespace =
      (chars.dropWhile isWhitespace).rdropWhile isWhitespace := by
  have start := rdropWhile_prefix isWhitespace (chars.dropWhile isWhitespace)
  have trimmed := dropWhile_eq_self_iff.mp (dropWhile_idempotent isWhitespace chars)
  apply dropWhile_eq_self_iff.mpr
  intro nonempty
  rw [start.getElem nonempty]
  exact trimmed (nonempty.trans_le start.length_le)

theorem trim_trim (text : String) : trim (trim text) = trim text := by
  have twice : trimChars (trimChars text.toList) = trimChars text.toList := by
    change (((text.toList.dropWhile isWhitespace).rdropWhile
      isWhitespace).dropWhile isWhitespace).rdropWhile isWhitespace = _
    rw [dropWhile_rdropWhile, rdropWhile_idempotent]
    rfl
  rw [trim, trim, toList_ofList, twice]

/-- `str::len`, in bytes of UTF-8. -/
def len (text : String) : ℕ := (text.toList.map Char.utf8Size).sum

/-- Split at a byte offset; there is nothing to return when the offset is past
the end or inside a character, where Rust panics. -/
def splitAtByte? : ℕ → List Char → Option (List Char × List Char)
  | 0, chars => some ([], chars)
  | _ + 1, [] => none
  | offset + 1, char :: rest =>
    if char.utf8Size ≤ offset + 1 then
      (splitAtByte? (offset + 1 - char.utf8Size) rest).map fun parts => (char :: parts.1, parts.2)
    else
      none

def stripPrefix (head text : String) : Option String :=
  (head.toList.isPrefixOf? text.toList).map ofList

theorem stripPrefix_append (head rest : String) : stripPrefix head (head ++ rest) = some rest := by
  simp [stripPrefix]

def stripSuffix (tail text : String) : Option String :=
  (tail.toList.isSuffixOf? text.toList).map ofList

def occursIn (part : List Char) : List Char → Bool
  | [] => part.isEmpty
  | char :: rest => part.isPrefixOf (char :: rest) || occursIn part rest

def containsText (text part : String) : Bool := occursIn part.toList text.toList

def startsWith (text : String) (char : Char) : Bool := text.toList.head? == some char

def contains (text : String) (char : Char) : Bool := text.toList.contains char

/-- The first piece of `str::split` at a character. -/
def firstPiece (text : String) (separator : Char) : String :=
  ofList (text.toList.takeWhile fun char => char ≠ separator)

def isAsciiHexdigit (char : Char) : Bool :=
  char.isDigit || ('a' ≤ char && char ≤ 'f') || ('A' ≤ char && char ≤ 'F')

def toAsciiUppercase (text : String) : String := ofList (text.toList.map Char.toUpper)

/-- `str::to_ascii_lowercase`, which is also `LOWER` of SQLite. -/
def toAsciiLowercase (text : String) : String := ofList (text.toList.map Char.toLower)

def eqIgnoreAsciiCase (left right : String) : Bool :=
  toAsciiLowercase left == toAsciiLowercase right

/-! ## Lower case -/

/-- Code points outside ASCII with a one-character lower case form, as
`(first, last, step, shift)`. The capital sigma is not listed. -/
def lowercaseShifts : List (ℕ × ℕ × ℕ × ℤ) :=
  [(192, 214, 1, 32), (216, 222, 1, 32), (256, 302, 2, 1), (306, 310, 2, 1), (313, 327, 2, 1),
   (330, 374, 2, 1), (376, 376, 1, -121), (377, 381, 2, 1), (385, 385, 1, 210), (386, 388, 2, 1),
   (390, 390, 1, 206), (391, 391, 1, 1), (393, 394, 1, 205), (395, 395, 1, 1), (398, 398, 1, 79),
   (399, 399, 1, 202), (400, 400, 1, 203), (401, 401, 1, 1), (403, 403, 1, 205), (404, 404, 1, 207),
   (406, 406, 1, 211), (407, 407, 1, 209), (408, 408, 1, 1), (412, 412, 1, 211), (413, 413, 1, 213),
   (415, 415, 1, 214), (416, 420, 2, 1), (422, 422, 1, 218), (423, 423, 1, 1), (425, 425, 1, 218),
   (428, 428, 1, 1), (430, 430, 1, 218), (431, 431, 1, 1), (433, 434, 1, 217), (435, 437, 2, 1),
   (439, 439, 1, 219), (440, 440, 1, 1), (444, 444, 1, 1), (452, 452, 1, 2), (453, 453, 1, 1),
   (455, 455, 1, 2), (456, 456, 1, 1), (458, 458, 1, 2), (459, 475, 2, 1), (478, 494, 2, 1),
   (497, 497, 1, 2), (498, 500, 2, 1), (502, 502, 1, -97), (503, 503, 1, -56), (504, 542, 2, 1),
   (544, 544, 1, -130), (546, 562, 2, 1), (570, 570, 1, 10795), (571, 571, 1, 1),
   (573, 573, 1, -163), (574, 574, 1, 10792), (577, 577, 1, 1), (579, 579, 1, -195),
   (580, 580, 1, 69), (581, 581, 1, 71), (582, 590, 2, 1), (880, 882, 2, 1), (886, 886, 1, 1),
   (895, 895, 1, 116), (902, 902, 1, 38), (904, 906, 1, 37), (908, 908, 1, 64), (910, 911, 1, 63),
   (913, 929, 1, 32), (932, 939, 1, 32), (975, 975, 1, 8), (984, 1006, 2, 1), (1012, 1012, 1, -60),
   (1015, 1015, 1, 1), (1017, 1017, 1, -7), (1018, 1018, 1, 1), (1021, 1023, 1, -130),
   (1024, 1039, 1, 80), (1040, 1071, 1, 32), (1120, 1152, 2, 1), (1162, 1214, 2, 1),
   (1216, 1216, 1, 15), (1217, 1229, 2, 1), (1232, 1326, 2, 1), (1329, 1366, 1, 48),
   (4256, 4293, 1, 7264), (4295, 4295, 1, 7264), (4301, 4301, 1, 7264), (5024, 5103, 1, 38864),
   (5104, 5109, 1, 8), (7305, 7305, 1, 1), (7312, 7354, 1, -3008), (7357, 7359, 1, -3008),
   (7680, 7828, 2, 1), (7838, 7838, 1, -7615), (7840, 7934, 2, 1), (7944, 7951, 1, -8),
   (7960, 7965, 1, -8), (7976, 7983, 1, -8), (7992, 7999, 1, -8), (8008, 8013, 1, -8),
   (8025, 8031, 2, -8), (8040, 8047, 1, -8), (8072, 8079, 1, -8), (8088, 8095, 1, -8),
   (8104, 8111, 1, -8), (8120, 8121, 1, -8), (8122, 8123, 1, -74), (8124, 8124, 1, -9),
   (8136, 8139, 1, -86), (8140, 8140, 1, -9), (8152, 8153, 1, -8), (8154, 8155, 1, -100),
   (8168, 8169, 1, -8), (8170, 8171, 1, -112), (8172, 8172, 1, -7), (8184, 8185, 1, -128),
   (8186, 8187, 1, -126), (8188, 8188, 1, -9), (8486, 8486, 1, -7517), (8490, 8490, 1, -8383),
   (8491, 8491, 1, -8262), (8498, 8498, 1, 28), (8544, 8559, 1, 16), (8579, 8579, 1, 1),
   (9398, 9423, 1, 26), (11264, 11311, 1, 48), (11360, 11360, 1, 1), (11362, 11362, 1, -10743),
   (11363, 11363, 1, -3814), (11364, 11364, 1, -10727), (11367, 11371, 2, 1),
   (11373, 11373, 1, -10780), (11374, 11374, 1, -10749), (11375, 11375, 1, -10783),
   (11376, 11376, 1, -10782), (11378, 11378, 1, 1), (11381, 11381, 1, 1), (11390, 11391, 1, -10815),
   (11392, 11490, 2, 1), (11499, 11501, 2, 1), (11506, 11506, 1, 1), (42560, 42604, 2, 1),
   (42624, 42650, 2, 1), (42786, 42798, 2, 1), (42802, 42862, 2, 1), (42873, 42875, 2, 1),
   (42877, 42877, 1, -35332), (42878, 42886, 2, 1), (42891, 42891, 1, 1), (42893, 42893, 1, -42280),
   (42896, 42898, 2, 1), (42902, 42920, 2, 1), (42922, 42922, 1, -42308), (42923, 42923, 1, -42319),
   (42924, 42924, 1, -42315), (42925, 42925, 1, -42305), (42926, 42926, 1, -42308),
   (42928, 42928, 1, -42258), (42929, 42929, 1, -42282), (42930, 42930, 1, -42261),
   (42931, 42931, 1, 928), (42932, 42946, 2, 1), (42948, 42948, 1, -48), (42949, 42949, 1, -42307),
   (42950, 42950, 1, -35384), (42951, 42953, 2, 1), (42955, 42955, 1, -42343), (42956, 42970, 2, 1),
   (42972, 42972, 1, -42561), (42997, 42997, 1, 1), (65313, 65338, 1, 32), (66560, 66599, 1, 40),
   (66736, 66771, 1, 40), (66928, 66938, 1, 39), (66940, 66954, 1, 39), (66956, 66962, 1, 39),
   (66964, 66965, 1, 39), (68736, 68786, 1, 64), (68944, 68965, 1, 32), (71840, 71871, 1, 32),
   (93760, 93791, 1, 32), (93856, 93880, 1, 27), (125184, 125217, 1, 34)]

/-- The Unicode property `Cased`, as closed intervals. -/
def casedIntervals : List (ℕ × ℕ) :=
  [(65, 90), (97, 122), (170, 170), (181, 181), (186, 186), (192, 214), (216, 246), (248, 442),
   (444, 447), (452, 659), (662, 696), (704, 705), (736, 740), (837, 837), (880, 883), (886, 887),
   (890, 893), (895, 895), (902, 902), (904, 906), (908, 908), (910, 929), (931, 1013),
   (1015, 1153), (1162, 1327), (1329, 1366), (1376, 1416), (4256, 4293), (4295, 4295), (4301, 4301),
   (4304, 4346), (4348, 4351), (5024, 5109), (5112, 5117), (7296, 7306), (7312, 7354), (7357, 7359),
   (7424, 7615), (7680, 7957), (7960, 7965), (7968, 8005), (8008, 8013), (8016, 8023), (8025, 8025),
   (8027, 8027), (8029, 8029), (8031, 8061), (8064, 8116), (8118, 8124), (8126, 8126), (8130, 8132),
   (8134, 8140), (8144, 8147), (8150, 8155), (8160, 8172), (8178, 8180), (8182, 8188), (8305, 8305),
   (8319, 8319), (8336, 8348), (8450, 8450), (8455, 8455), (8458, 8467), (8469, 8469), (8473, 8477),
   (8484, 8484), (8486, 8486), (8488, 8488), (8490, 8493), (8495, 8500), (8505, 8505), (8508, 8511),
   (8517, 8521), (8526, 8526), (8544, 8575), (8579, 8580), (9398, 9449), (11264, 11492),
   (11499, 11502), (11506, 11507), (11520, 11557), (11559, 11559), (11565, 11565), (42560, 42605),
   (42624, 42653), (42786, 42887), (42891, 42894), (42896, 42972), (42993, 42998), (43000, 43002),
   (43824, 43866), (43868, 43881), (43888, 43967), (64256, 64262), (64275, 64279), (65313, 65338),
   (65345, 65370), (66560, 66639), (66736, 66771), (66776, 66811), (66928, 66938), (66940, 66954),
   (66956, 66962), (66964, 66965), (66967, 66977), (66979, 66993), (66995, 67001), (67003, 67004),
   (67456, 67456), (67459, 67461), (67463, 67504), (67506, 67514), (68736, 68786), (68800, 68850),
   (68944, 68965), (68976, 68997), (71840, 71903), (93760, 93823), (93856, 93880), (93883, 93907),
   (119808, 119892), (119894, 119964), (119966, 119967), (119970, 119970), (119973, 119974),
   (119977, 119980), (119982, 119993), (119995, 119995), (119997, 120003), (120005, 120069),
   (120071, 120074), (120077, 120084), (120086, 120092), (120094, 120121), (120123, 120126),
   (120128, 120132), (120134, 120134), (120138, 120144), (120146, 120485), (120488, 120512),
   (120514, 120538), (120540, 120570), (120572, 120596), (120598, 120628), (120630, 120654),
   (120656, 120686), (120688, 120712), (120714, 120744), (120746, 120770), (120772, 120779),
   (122624, 122633), (122635, 122654), (122661, 122666), (122928, 122989), (125184, 125251),
   (127280, 127305), (127312, 127337), (127344, 127369)]

/-- The Unicode property `Case_Ignorable`, as closed intervals. -/
def caseIgnorableIntervals : List (ℕ × ℕ) :=
  [(39, 39), (46, 46), (58, 58), (94, 94), (96, 96), (168, 168), (173, 173), (175, 175), (180, 180),
   (183, 184), (688, 879), (884, 885), (890, 890), (900, 901), (903, 903), (1155, 1161),
   (1369, 1369), (1375, 1375), (1425, 1469), (1471, 1471), (1473, 1474), (1476, 1477), (1479, 1479),
   (1524, 1524), (1536, 1541), (1552, 1562), (1564, 1564), (1600, 1600), (1611, 1631), (1648, 1648),
   (1750, 1757), (1759, 1768), (1770, 1773), (1807, 1807), (1809, 1809), (1840, 1866), (1958, 1968),
   (2027, 2037), (2042, 2042), (2045, 2045), (2070, 2093), (2137, 2139), (2184, 2184), (2192, 2193),
   (2199, 2207), (2249, 2306), (2362, 2362), (2364, 2364), (2369, 2376), (2381, 2381), (2385, 2391),
   (2402, 2403), (2417, 2417), (2433, 2433), (2492, 2492), (2497, 2500), (2509, 2509), (2530, 2531),
   (2558, 2558), (2561, 2562), (2620, 2620), (2625, 2626), (2631, 2632), (2635, 2637), (2641, 2641),
   (2672, 2673), (2677, 2677), (2689, 2690), (2748, 2748), (2753, 2757), (2759, 2760), (2765, 2765),
   (2786, 2787), (2810, 2815), (2817, 2817), (2876, 2876), (2879, 2879), (2881, 2884), (2893, 2893),
   (2901, 2902), (2914, 2915), (2946, 2946), (3008, 3008), (3021, 3021), (3072, 3072), (3076, 3076),
   (3132, 3132), (3134, 3136), (3142, 3144), (3146, 3149), (3157, 3158), (3170, 3171), (3201, 3201),
   (3260, 3260), (3263, 3263), (3270, 3270), (3276, 3277), (3298, 3299), (3328, 3329), (3387, 3388),
   (3393, 3396), (3405, 3405), (3426, 3427), (3457, 3457), (3530, 3530), (3538, 3540), (3542, 3542),
   (3633, 3633), (3636, 3642), (3654, 3662), (3761, 3761), (3764, 3772), (3782, 3782), (3784, 3790),
   (3864, 3865), (3893, 3893), (3895, 3895), (3897, 3897), (3953, 3966), (3968, 3972), (3974, 3975),
   (3981, 3991), (3993, 4028), (4038, 4038), (4141, 4144), (4146, 4151), (4153, 4154), (4157, 4158),
   (4184, 4185), (4190, 4192), (4209, 4212), (4226, 4226), (4229, 4230), (4237, 4237), (4253, 4253),
   (4348, 4348), (4957, 4959), (5906, 5908), (5938, 5939), (5970, 5971), (6002, 6003), (6068, 6069),
   (6071, 6077), (6086, 6086), (6089, 6099), (6103, 6103), (6109, 6109), (6155, 6159), (6211, 6211),
   (6277, 6278), (6313, 6313), (6432, 6434), (6439, 6440), (6450, 6450), (6457, 6459), (6679, 6680),
   (6683, 6683), (6742, 6742), (6744, 6750), (6752, 6752), (6754, 6754), (6757, 6764), (6771, 6780),
   (6783, 6783), (6823, 6823), (6832, 6877), (6880, 6891), (6912, 6915), (6964, 6964), (6966, 6970),
   (6972, 6972), (6978, 6978), (7019, 7027), (7040, 7041), (7074, 7077), (7080, 7081), (7083, 7085),
   (7142, 7142), (7144, 7145), (7149, 7149), (7151, 7153), (7212, 7219), (7222, 7223), (7288, 7293),
   (7376, 7378), (7380, 7392), (7394, 7400), (7405, 7405), (7412, 7412), (7416, 7417), (7468, 7530),
   (7544, 7544), (7579, 7679), (8125, 8125), (8127, 8129), (8141, 8143), (8157, 8159), (8173, 8175),
   (8189, 8190), (8203, 8207), (8216, 8217), (8228, 8228), (8231, 8231), (8234, 8238), (8288, 8292),
   (8294, 8303), (8305, 8305), (8319, 8319), (8336, 8348), (8400, 8432), (11388, 11389),
   (11503, 11505), (11631, 11631), (11647, 11647), (11744, 11775), (11823, 11823), (12293, 12293),
   (12330, 12333), (12337, 12341), (12347, 12347), (12441, 12446), (12540, 12542), (40981, 40981),
   (42232, 42237), (42508, 42508), (42607, 42610), (42612, 42621), (42623, 42623), (42652, 42655),
   (42736, 42737), (42752, 42785), (42864, 42864), (42888, 42890), (42993, 42996), (43000, 43001),
   (43010, 43010), (43014, 43014), (43019, 43019), (43045, 43046), (43052, 43052), (43204, 43205),
   (43232, 43249), (43263, 43263), (43302, 43309), (43335, 43345), (43392, 43394), (43443, 43443),
   (43446, 43449), (43452, 43453), (43471, 43471), (43493, 43494), (43561, 43566), (43569, 43570),
   (43573, 43574), (43587, 43587), (43596, 43596), (43632, 43632), (43644, 43644), (43696, 43696),
   (43698, 43700), (43703, 43704), (43710, 43711), (43713, 43713), (43741, 43741), (43756, 43757),
   (43763, 43764), (43766, 43766), (43867, 43871), (43881, 43883), (44005, 44005), (44008, 44008),
   (44013, 44013), (64286, 64286), (64434, 64450), (65024, 65039), (65043, 65043), (65056, 65071),
   (65106, 65106), (65109, 65109), (65279, 65279), (65287, 65287), (65294, 65294), (65306, 65306),
   (65342, 65342), (65344, 65344), (65392, 65392), (65438, 65439), (65507, 65507), (65529, 65531),
   (66045, 66045), (66272, 66272), (66422, 66426), (67456, 67461), (67463, 67504), (67506, 67514),
   (68097, 68099), (68101, 68102), (68108, 68111), (68152, 68154), (68159, 68159), (68325, 68326),
   (68900, 68903), (68942, 68942), (68969, 68973), (68975, 68975), (69291, 69292), (69317, 69317),
   (69370, 69375), (69446, 69456), (69506, 69509), (69633, 69633), (69688, 69702), (69744, 69744),
   (69747, 69748), (69759, 69761), (69811, 69814), (69817, 69818), (69821, 69821), (69826, 69826),
   (69837, 69837), (69888, 69890), (69927, 69931), (69933, 69940), (70003, 70003), (70016, 70017),
   (70070, 70078), (70089, 70092), (70095, 70095), (70191, 70193), (70196, 70196), (70198, 70199),
   (70206, 70206), (70209, 70209), (70367, 70367), (70371, 70378), (70400, 70401), (70459, 70460),
   (70464, 70464), (70502, 70508), (70512, 70516), (70587, 70592), (70606, 70606), (70608, 70608),
   (70610, 70610), (70625, 70626), (70712, 70719), (70722, 70724), (70726, 70726), (70750, 70750),
   (70835, 70840), (70842, 70842), (70847, 70848), (70850, 70851), (71090, 71093), (71100, 71101),
   (71103, 71104), (71132, 71133), (71219, 71226), (71229, 71229), (71231, 71232), (71339, 71339),
   (71341, 71341), (71344, 71349), (71351, 71351), (71453, 71453), (71455, 71455), (71458, 71461),
   (71463, 71467), (71727, 71735), (71737, 71738), (71995, 71996), (71998, 71998), (72003, 72003),
   (72148, 72151), (72154, 72155), (72160, 72160), (72193, 72202), (72243, 72248), (72251, 72254),
   (72263, 72263), (72273, 72278), (72281, 72283), (72330, 72342), (72344, 72345), (72544, 72544),
   (72546, 72548), (72550, 72550), (72752, 72758), (72760, 72765), (72767, 72767), (72850, 72871),
   (72874, 72880), (72882, 72883), (72885, 72886), (73009, 73014), (73018, 73018), (73020, 73021),
   (73023, 73029), (73031, 73031), (73104, 73105), (73109, 73109), (73111, 73111), (73177, 73177),
   (73459, 73460), (73472, 73473), (73526, 73530), (73536, 73536), (73538, 73538), (73562, 73562),
   (78896, 78912), (78919, 78933), (90398, 90409), (90413, 90415), (92912, 92916), (92976, 92982),
   (92992, 92995), (93504, 93506), (93547, 93548), (94031, 94031), (94095, 94111), (94176, 94177),
   (94179, 94180), (94194, 94195), (110576, 110579), (110581, 110587), (110589, 110590),
   (113821, 113822), (113824, 113827), (118528, 118573), (118576, 118598), (119143, 119145),
   (119155, 119170), (119173, 119179), (119210, 119213), (119362, 119364), (121344, 121398),
   (121403, 121452), (121461, 121461), (121476, 121476), (121499, 121503), (121505, 121519),
   (122880, 122886), (122888, 122904), (122907, 122913), (122915, 122916), (122918, 122922),
   (122928, 122989), (123023, 123023), (123184, 123197), (123566, 123566), (123628, 123631),
   (124139, 124143), (124398, 124399), (124643, 124643), (124646, 124646), (124654, 124655),
   (124661, 124661), (124671, 124671), (125136, 125142), (125252, 125259), (127995, 127999),
   (917505, 917505), (917536, 917631), (917760, 917999)]

def isCased (char : Char) : Bool := casedIntervals.any fun interval =>
    interval.1 ≤ char.toNat && char.toNat ≤ interval.2

def isCaseIgnorable (char : Char) : Bool := caseIgnorableIntervals.any fun interval =>
    interval.1 ≤ char.toNat && char.toNat ≤ interval.2

def lowerChar (char : Char) : List Char :=
  if char.toNat < 128 then
    [char.toLower]
  else if char = 'İ' then
    ['i', Char.ofNat 775]
  else
    match lowercaseShifts.find? fun shift =>
        shift.1 ≤ char.toNat && char.toNat ≤ shift.2.1 &&
          (char.toNat - shift.1) % shift.2.2.1 == 0 with
    | some shift => [Char.ofNat (char.toNat + shift.2.2.2).toNat]
    | none => [char]

def caseIgnorableThenCased (chars : List Char) : Bool :=
  match (chars.dropWhile isCaseIgnorable).head? with
  | some char => isCased char
  | none => false

/-- Lower case of the characters after `before`, which is kept reversed: a
capital sigma at the end of a word has a form of its own. -/
def lowerFrom (before : List Char) : List Char → List Char
  | [] => []
  | char :: rest =>
    let lowered :=
      if char = 'Σ' then
        if caseIgnorableThenCased before && !caseIgnorableThenCased rest then
          ['ς']
        else
          ['σ']
      else
        lowerChar char
    lowered ++ lowerFrom (char :: before) rest

def toLowercase (text : String) : String := ofList (lowerFrom [] text.toList)

theorem toLower_eq_self {char : Char}
    (outside : char.toNat < 65 ∨ 90 < char.toNat) : char.toLower = char := by
  unfold Char.toLower
  rw [dif_neg]
  rintro ⟨low, high⟩
  rw [ge_iff_le, UInt32.le_iff_toNat_le] at low
  rw [UInt32.le_iff_toNat_le] at high
  change 65 ≤ char.toNat at low
  change char.toNat ≤ 90 at high
  omega

theorem toLower_toLower (char : Char) : char.toLower.toLower = char.toLower := by
  by_cases outside : char.toNat < 65 ∨ 90 < char.toNat
  · rw [toLower_eq_self outside, toLower_eq_self outside]
  · apply toLower_eq_self
    have lowered : char.toLower.toNat = char.toNat + 32 := by
      unfold Char.toLower
      rw [dif_pos]
      · change (char.val + 32).toNat = char.val.toNat + 32
        have small : char.val.toNat + 32 < 4294967296 := by
          change char.toNat + 32 < _
          omega
        rw [UInt32.toNat_add]
        exact Nat.mod_eq_of_lt small
      · rw [ge_iff_le, UInt32.le_iff_toNat_le, UInt32.le_iff_toNat_le]
        change 65 ≤ char.toNat ∧ char.toNat ≤ 90
        omega
    omega

theorem toLower_of_mem_lowerChar {char lowered : Char}
    (member : lowered ∈ lowerChar char) : lowered.toLower = lowered := by
  have above : ∀ shift ∈ lowercaseShifts, 90 < (shift.1 : ℤ) + shift.2.2.2 := by decide +kernel
  unfold lowerChar at member
  split at member
  case isTrue =>
    rw [mem_singleton.mp member]
    exact toLower_toLower char
  case isFalse notAscii =>
    split at member
    case isTrue =>
      rcases mem_pair.mp member with rfl | rfl <;> decide
    case isFalse =>
      split at member
      case h_1 shift found =>
        have listed := above shift (mem_of_find?_eq_some found)
        have inside := find?_some found
        simp only [Bool.and_eq_true, decide_eq_true_eq] at inside
        rw [mem_singleton.mp member]
        apply toLower_eq_self
        by_cases valid : ((char.toNat : ℤ) + shift.2.2.2).toNat.isValidChar
        · rw [Char.ofNat, dif_pos valid]
          right
          change 90 < ((char.toNat : ℤ) + shift.2.2.2).toNat
          omega
        · rw [Char.ofNat, dif_neg valid]
          left
          decide
      case h_2 =>
        rw [mem_singleton.mp member]
        apply toLower_eq_self
        omega

/-- `LOWER` of SQLite finds nothing left to do in a text Rust made lower
case. -/
theorem toAsciiLowercase_toLowercase (text : String) :
    toAsciiLowercase (toLowercase text) = toLowercase text := by
  have each : ∀ before chars, ∀ char ∈ lowerFrom before chars, char.toLower = char := by
    intro before chars
    induction chars generalizing before with
    | nil => simp [lowerFrom]
    | cons head tail ih =>
      intro char member
      rcases mem_append.mp member with here | later
      · split at here
        · split at here <;> (rw [mem_singleton.mp here]; decide)
        · exact toLower_of_mem_lowerChar here
      · exact ih _ char later
  have same : (lowerFrom [] text.toList).map Char.toLower = lowerFrom [] text.toList :=
    (map_congr_left (each [] text.toList)).trans (map_id _)
  rw [toAsciiLowercase, toLowercase, toList_ofList, same]
/-! ## Numbers -/

/-- The digits of `i128::from_str` after the sign, read left to right with the
sign already applied. -/
def readDigits (sign : ℤ) (digits : List Char) : Except String ℤ :=
  digits.foldlM (fun (value : ℤ) char =>
    if char.isDigit = false then
      .error "invalid digit found in string"
    else
      let next := value * 10 + sign * (char.toNat - '0'.toNat : ℕ)
      if 2 ^ 127 ≤ next then
        .error "number too large to fit in target type"
      else if next < -2 ^ 127 then
        .error "number too small to fit in target type"
      else
        .ok next) 0

/-- `str::parse::<i128>`; the error is its displayed text. -/
def parseI128 (text : String) : Except String ℤ :=
  match text.toList with
  | [] => .error "cannot parse integer from empty string"
  | '+' :: [] | '-' :: [] => .error "invalid digit found in string"
  | '+' :: digits => readDigits 1 digits
  | '-' :: digits => readDigits (-1) digits
  | digits => readDigits 1 digits

/-! ## Bytes -/

def continuation (byte : ℕ) : Option ℕ :=
  if 128 ≤ byte ∧ byte < 192 then some (byte - 128) else none

/-- `String::from_utf8` on bytes below 256: overlong forms, surrogates and
code points past `10FFFF` are refused. -/
def fromUtf8 : List ℕ → Option (List Char)
  | [] => some []
  | first :: rest =>
    if first < 128 then
      (fromUtf8 rest).map (Char.ofNat first :: ·)
    else
      match rest with
      | [] => none
      | second :: rest => do
        let second ← continuation second
        if first < 194 then
          none
        else if first < 224 then
          (fromUtf8 rest).map (Char.ofNat ((first - 192) * 64 + second) :: ·)
        else
          match rest with
          | [] => none
          | third :: rest => do
            let third ← continuation third
            let code := ((first - 224) * 64 + second) * 64 + third
            if first < 240 then
              if code < 2048 ∨ (55296 ≤ code ∧ code < 57344) then
                none
              else
                (fromUtf8 rest).map (Char.ofNat code :: ·)
            else
              match rest with
              | [] => none
              | fourth :: rest => do
                let fourth ← continuation fourth
                let code := (((first - 240) * 64 + second) * 64 +
                  third) * 64 + fourth
                if code < 65536 ∨ 1114112 ≤ code then
                  none
                else
                  (fromUtf8 rest).map (Char.ofNat code :: ·)

end RustText
