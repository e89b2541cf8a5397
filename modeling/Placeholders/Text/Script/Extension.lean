import Placeholders.Text.CharSet
import Placeholders.Text.Script

/-!
# Script extensions

Some characters, most of them marks and punctuation, are used with certain scripts and no others;
for them the character database lists these scripts.  The extended set of a script has the
characters with the script in their list and, of those without a list, the ones that belong to the
script.

* `Script.lists` — the characters with a list, by list.
* `Script.extended?` — the extended set of the script with a given name.
-/

namespace Placeholders.Script

/-! ## Lists -/

/-- Characters that several scripts use, with the short names of the scripts, part 1. -/
def listsPartA : List (List String × List Run) :=
  [(["avst", "cari", "copt", "dupl", "elba", "geor", "glag", "gong", "goth", "grek", "hani",
     "latn", "lydi", "mahj", "perm", "shaw"],
    [(0x00B7, 0x00B7)]),
   (["beng", "cyrl", "deva", "latn", "lisu", "thai", "toto"], [(0x02BC, 0x02BC)]),
   (["bopo", "latn"], [(0x02C7, 0x02C7), (0x02C9, 0x02CB), (0x02D9, 0x02D9)]),
   (["latn", "lisu"], [(0x02CD, 0x02CD)]),
   (["latn", "thai"], [(0x02D7, 0x02D7)]),
   (["cher", "copt", "cyrl", "grek", "latn", "perm", "sunu", "tale"], [(0x0300, 0x0300)]),
   (["cher", "cyrl", "grek", "latn", "osge", "sunu", "tale", "todr"], [(0x0301, 0x0301)]),
   (["cher", "cyrl", "latn", "tfng"], [(0x0302, 0x0302)]),
   (["glag", "latn", "sunu", "syrc", "thai"], [(0x0303, 0x0303)]),
   (["aghb", "cher", "copt", "cyrl", "goth", "grek", "latn", "osge", "syrc", "tfng", "todr"],
    [(0x0304, 0x0304)]),
   (["copt", "elba", "glag", "goth", "kana", "latn"], [(0x0305, 0x0305)]),
   (["cyrl", "grek", "latn", "perm", "tfng"], [(0x0306, 0x0306)]),
   (["copt", "dupl", "hebr", "latn", "perm", "syrc", "tale", "tfng", "todr"], [(0x0307, 0x0307)]),
   (["armn", "cyrl", "dupl", "goth", "grek", "hebr", "latn", "perm", "syrc", "tale", "tfng"],
    [(0x0308, 0x0308)]),
   (["latn", "tfng"], [(0x0309, 0x0309)]),
   (["dupl", "latn", "syrc"], [(0x030A, 0x030A)]),
   (["cher", "cyrl", "latn", "osge"], [(0x030B, 0x030B)]),
   (["cher", "latn", "tale"], [(0x030C, 0x030C)]),
   (["latn", "sunu"], [(0x030D, 0x030D), (0x0310, 0x0310)]),
   (["ethi", "latn"], [(0x030E, 0x030E)]),
   (["cyrl", "latn", "todr"], [(0x0311, 0x0311)]),
   (["grek", "latn", "perm", "todr"], [(0x0313, 0x0313)]),
   (["cher", "dupl", "kana", "latn", "syrc", "tfng"], [(0x0323, 0x0323)]),
   (["cher", "dupl", "latn", "syrc"], [(0x0324, 0x0324)]),
   (["latn", "syrc"], [(0x0325, 0x0325), (0x032E, 0x032E)]),
   (["latn", "sunu", "syrc"], [(0x032D, 0x032D)]),
   (["cher", "latn", "syrc"], [(0x0330, 0x0330)]),
   (["aghb", "cher", "goth", "latn", "sunu", "syrc", "thai"], [(0x0331, 0x0331)]),
   (["grek"], [(0x0342, 0x0342), (0x0345, 0x0345), (0x1DC0, 0x1DC1)]),
   (["latn", "osge"], [(0x0358, 0x0358)]),
   (["aghb", "latn", "todr"], [(0x035E, 0x035E)]),
   (["latn"], [(0x0363, 0x036F)]),
   (["copt", "grek"], [(0x0374, 0x0375)]),
   (["cyrl", "perm"], [(0x0483, 0x0483)]),
   (["cyrl", "glag"], [(0x0484, 0x0484), (0x0487, 0x0487), (0x2E43, 0x2E43), (0xA66F, 0xA66F)]),
   (["cyrl", "latn"], [(0x0485, 0x0486)]),
   (["armn", "geor", "glag"], [(0x0589, 0x0589)]),
   (["arab", "gara", "nkoo", "rohg", "syrc", "thaa", "yezi"],
    [(0x060C, 0x060C), (0x061B, 0x061B)]),
   (["arab", "syrc", "thaa"], [(0x061C, 0x061C)]),
   (["adlm", "arab", "gara", "nkoo", "rohg", "syrc", "thaa", "yezi"], [(0x061F, 0x061F)])]

/-- Characters that several scripts use, with the short names of the scripts, part 2. -/
def listsPartB : List (List String × List Run) :=
  [(["adlm", "arab", "mand", "mani", "ougr", "phlp", "rohg", "sogd", "syrc"], [(0x0640, 0x0640)]),
   (["arab", "syrc"], [(0x064B, 0x0655), (0x0670, 0x0670)]),
   (["arab", "thaa", "yezi"], [(0x0660, 0x0669)]),
   (["arab", "rohg"], [(0x06D4, 0x06D4)]),
   (["beng", "deva", "gran", "gujr", "guru", "knda", "latn", "mlym", "nand", "newa", "orya",
     "shrd", "taml", "telu", "tirh"],
    [(0x0951, 0x0951)]),
   (["beng", "deva", "gran", "gujr", "guru", "knda", "latn", "mlym", "newa", "orya", "taml",
     "telu", "tirh"],
    [(0x0952, 0x0952)]),
   (["beng", "deva", "dogr", "gong", "gonm", "gran", "gujr", "guru", "knda", "mahj", "mlym",
     "nand", "onao", "orya", "sind", "sinh", "sylo", "takr", "taml", "telu", "tirh"],
    [(0x0964, 0x0964)]),
   (["beng", "deva", "dogr", "gong", "gonm", "gran", "gujr", "gukh", "guru", "knda", "limb",
     "mahj", "mlym", "nand", "onao", "orya", "sind", "sinh", "sylo", "takr", "taml", "telu",
     "tirh"],
    [(0x0965, 0x0965)]),
   (["deva", "dogr", "kthi", "mahj"], [(0x0966, 0x096F)]),
   (["beng", "cakm", "sylo"], [(0x09E6, 0x09EF)]),
   (["guru", "mult"], [(0x0A66, 0x0A6F)]),
   (["gujr", "khoj"], [(0x0AE6, 0x0AEF)]),
   (["gran", "taml"],
    [(0x0BE6, 0x0BF3), (0x11301, 0x11301), (0x11303, 0x11303), (0x1133B, 0x1133C),
     (0x11FD0, 0x11FD1), (0x11FD3, 0x11FD3)]),
   (["knda", "nand", "tutg"], [(0x0CE6, 0x0CEF)]),
   (["cakm", "mymr", "tale"], [(0x1040, 0x1049)]),
   (["geor", "glag", "latn"], [(0x10FB, 0x10FB)]),
   (["runr"], [(0x16EB, 0x16ED)]),
   (["buhd", "hano", "tagb", "tglg"], [(0x1735, 0x1736)]),
   (["mong", "phag"], [(0x1802, 0x1803), (0x1805, 0x1805)]),
   (["beng", "deva", "gran", "knda"], [(0x1CD0, 0x1CD0), (0x1CD2, 0x1CD2)]),
   (["deva"],
    [(0x1CD1, 0x1CD1), (0x1CD4, 0x1CD4), (0x1CDB, 0x1CDB), (0x1CDE, 0x1CDF), (0x1CE3, 0x1CE8),
     (0x1CEC, 0x1CEC), (0x1CEE, 0x1CF1)]),
   (["deva", "gran", "knda"], [(0x1CD3, 0x1CD3)]),
   (["beng", "deva", "newa", "telu", "tirh"], [(0x1CD5, 0x1CD5)]),
   (["beng", "deva", "telu"], [(0x1CD6, 0x1CD6)]),
   (["deva", "newa", "shrd"], [(0x1CD7, 0x1CD7)]),
   (["beng", "deva", "newa", "telu"], [(0x1CD8, 0x1CD8)]),
   (["deva", "shrd"], [(0x1CD9, 0x1CD9), (0x1CDC, 0x1CDD), (0x1CE0, 0x1CE0)]),
   (["deva", "knda", "mlym", "orya", "taml", "telu"], [(0x1CDA, 0x1CDA)]),
   (["beng", "deva"], [(0x1CE1, 0x1CE1), (0x1CF5, 0x1CF6)]),
   (["deva", "newa", "tirh"], [(0x1CE2, 0x1CE2)]),
   (["deva", "nand", "newa"], [(0x1CE9, 0x1CE9)]),
   (["beng", "deva", "shrd"], [(0x1CEA, 0x1CEA)]),
   (["deva", "newa"], [(0x1CEB, 0x1CEB)]),
   (["beng", "deva", "newa", "shrd"], [(0x1CED, 0x1CED)]),
   (["beng", "deva", "gran", "knda", "mlym", "nand", "orya", "sinh", "telu", "tirh", "tutg"],
    [(0x1CF2, 0x1CF2)]),
   (["deva", "gran"], [(0x1CF3, 0x1CF3), (0x1CF8, 0x1CF9)]),
   (["deva", "gran", "knda", "tutg"], [(0x1CF4, 0x1CF4)]),
   (["beng"], [(0x1CF7, 0x1CF7)]),
   (["nand"], [(0x1CFA, 0x1CFA)]),
   (["cyrl", "latn", "syrc"], [(0x1DF8, 0x1DF8)])]

/-- Characters that several scripts use, with the short names of the scripts, part 3. -/
def listsPartC : List (List String × List Run) :=
  [(["syrc"], [(0x1DFA, 0x1DFA)]),
   (["latn", "mong", "phag"], [(0x202F, 0x202F)]),
   (["adlm", "arab"], [(0x204F, 0x204F)]),
   (["cari", "geor", "glag", "hung", "lyci", "orkh"], [(0x205A, 0x205A)]),
   (["cari", "grek", "hung", "mero"], [(0x205D, 0x205D)]),
   (["deva", "gran", "latn"], [(0x20F0, 0x20F0)]),
   (["copt", "latn"], [(0x2E17, 0x2E17)]),
   (["avst", "orkh"], [(0x2E30, 0x2E30)]),
   (["avst", "cari", "geor", "hung", "kthi", "lydi", "samr"], [(0x2E31, 0x2E31)]),
   (["dupl"], [(0x2E3C, 0x2E3C), (0x1BCA0, 0x1BCA3)]),
   (["adlm", "arab", "hung"], [(0x2E41, 0x2E41)]),
   (["hani", "tang"], [(0x2FF0, 0x2FFF), (0x31EF, 0x31EF)]),
   (["bopo", "hang", "hani", "hira", "kana", "mong", "yiii"], [(0x3001, 0x3001)]),
   (["bopo", "hang", "hani", "hira", "kana", "mong", "phag", "yiii"], [(0x3002, 0x3002)]),
   (["bopo", "hang", "hani", "hira", "kana"],
    [(0x3003, 0x3003), (0x3013, 0x3013), (0x301C, 0x301F), (0x3030, 0x3030), (0x3037, 0x3037),
     (0xFE45, 0xFE46)]),
   (["hani"],
    [(0x3006, 0x3006), (0x303E, 0x303F), (0x3190, 0x319F), (0x31C0, 0x31E5), (0x3220, 0x3247),
     (0x3280, 0x32B0), (0x32C0, 0x32CB), (0x32FF, 0x32FF), (0x3358, 0x3370), (0x337B, 0x337F),
     (0x33E0, 0x33FE), (0x1D360, 0x1D371), (0x1F250, 0x1F251)]),
   (["bopo", "hang", "hani", "hira", "kana", "mong", "tibt", "yiii"], [(0x3008, 0x3009)]),
   (["bopo", "hang", "hani", "hira", "kana", "lisu", "mong", "tibt", "yiii"], [(0x300A, 0x300B)]),
   (["bopo", "hang", "hani", "hira", "kana", "yiii"],
    [(0x300C, 0x3011), (0x3014, 0x301B), (0x30FB, 0x30FB), (0xFF61, 0xFF65)]),
   (["bopo", "hani"], [(0x302A, 0x302D)]),
   (["hira", "kana"],
    [(0x3031, 0x3035), (0x3099, 0x309C), (0x30A0, 0x30A0), (0x30FC, 0x30FC), (0xFF70, 0xFF70),
     (0xFF9E, 0xFF9F)]),
   (["hani", "hira", "kana"], [(0x303C, 0x303D)]),
   (["hani", "latn"], [(0xA700, 0xA707)]),
   (["deva", "dogr", "gujr", "guru", "khoj", "knda", "kthi", "mahj", "mlym", "modi", "nand",
     "shrd", "sind", "takr", "tirh", "tutg"],
    [(0xA830, 0xA832)]),
   (["deva", "dogr", "gujr", "guru", "khoj", "knda", "kthi", "mahj", "modi", "nand", "shrd",
     "sind", "takr", "tirh", "tutg"],
    [(0xA833, 0xA835)]),
   (["deva", "dogr", "gujr", "guru", "khoj", "kthi", "mahj", "modi", "sind", "takr", "tirh"],
    [(0xA836, 0xA837), (0xA839, 0xA839)]),
   (["deva", "dogr", "gujr", "guru", "khoj", "kthi", "mahj", "modi", "shrd", "sind", "takr",
     "tirh"],
    [(0xA838, 0xA838)]),
   (["beng", "deva", "tutg"], [(0xA8F1, 0xA8F1)]),
   (["deva", "taml"], [(0xA8F3, 0xA8F3)]),
   (["kali", "latn", "mymr"], [(0xA92E, 0xA92E)]),
   (["bugi", "java"], [(0xA9CF, 0xA9CF)]),
   (["arab", "nkoo"], [(0xFD3E, 0xFD3F)]),
   (["arab", "thaa"], [(0xFDF2, 0xFDF2), (0xFDFD, 0xFDFD)]),
   (["cpmn", "cprt", "linb"], [(0x10100, 0x10101)]),
   (["cprt", "linb"], [(0x10102, 0x10102), (0x10137, 0x1013F)]),
   (["cprt", "lina", "linb"], [(0x10107, 0x10133)]),
   (["arab", "copt"], [(0x102E0, 0x102FB)]),
   (["mani", "ougr"], [(0x10AF2, 0x10AF2)])]

/-- Characters that several scripts use, with the short names of the scripts. -/
def lists : List (List String × List Run) :=
  listsPartA ++ listsPartB ++ listsPartC

/-! ## Extended sets -/

/-- The characters with a list. -/
def listed : CharSet := .runs (lists.flatMap (·.2))

/-- The characters with the script in their list. -/
def listedWith (shortName : String) : CharSet :=
  .runs ((lists.filter fun entry => entry.1.contains shortName).flatMap (·.2))

/-- The extended set of the script that has this name in loose form. -/
def extended? (name : String) : Option CharSet :=
  (all.find? fun entry => entry.1.contains name).map fun entry =>
    .union (.diff (.runs entry.2) listed) (listedWith (entry.1.headD name))

end Placeholders.Script
