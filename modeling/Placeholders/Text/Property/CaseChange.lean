import Placeholders.Text.CharSet

/-!
# Characters that change with case

A capital letter has a small form and a small letter a capital one, with exceptions both ways: some
letters have no counterpart, and some marks and symbols have one.  A character counts as changed if
its decomposed form is.

* `changesWhenLowercased`, `changesWhenUppercased`, `changesWhenTitlecased`,
  `changesWhenCasefolded`, `changesWhenCasemapped` — what each map changes.
-/

namespace Placeholders.CharSet

/-! ## Letters that case maps leave alone -/

/-- Capital letters and digraphs without a small form. -/
def fixedCapital : CharSet :=
  .runs
    [(0x03D2, 0x03D4), (0x2102, 0x2102), (0x2107, 0x2107), (0x210B, 0x210D), (0x2110, 0x2112),
     (0x2115, 0x2115), (0x2119, 0x211D), (0x2124, 0x2124), (0x2128, 0x2128), (0x212C, 0x212D),
     (0x2130, 0x2131), (0x2133, 0x2133), (0x213E, 0x213F), (0x2145, 0x2145), (0x1D400, 0x1D419),
     (0x1D434, 0x1D44D), (0x1D468, 0x1D481), (0x1D49C, 0x1D49C), (0x1D49E, 0x1D49F),
     (0x1D4A2, 0x1D4A2), (0x1D4A5, 0x1D4A6), (0x1D4A9, 0x1D4AC), (0x1D4AE, 0x1D4B5),
     (0x1D4D0, 0x1D4E9), (0x1D504, 0x1D505), (0x1D507, 0x1D50A), (0x1D50D, 0x1D514),
     (0x1D516, 0x1D51C), (0x1D538, 0x1D539), (0x1D53B, 0x1D53E), (0x1D540, 0x1D544),
     (0x1D546, 0x1D546), (0x1D54A, 0x1D550), (0x1D56C, 0x1D585), (0x1D5A0, 0x1D5B9),
     (0x1D5D4, 0x1D5ED), (0x1D608, 0x1D621), (0x1D63C, 0x1D655), (0x1D670, 0x1D689),
     (0x1D6A8, 0x1D6C0), (0x1D6E2, 0x1D6FA), (0x1D71C, 0x1D734), (0x1D756, 0x1D76E),
     (0x1D790, 0x1D7A8), (0x1D7CA, 0x1D7CA)]

/-- Small letters without a capital form, part 1. -/
def fixedSmallPartA : List Run :=
  [(0x0138, 0x0138), (0x018D, 0x018D), (0x01AA, 0x01AB), (0x01BA, 0x01BA), (0x01BE, 0x01BE),
   (0x0221, 0x0221), (0x0234, 0x0239), (0x0255, 0x0255), (0x0258, 0x0258), (0x025A, 0x025A),
   (0x025D, 0x025F), (0x0262, 0x0262), (0x0267, 0x0267), (0x026D, 0x026E), (0x0270, 0x0270),
   (0x0273, 0x0274), (0x0276, 0x027C), (0x027E, 0x027F), (0x0281, 0x0281), (0x0284, 0x0286),
   (0x028D, 0x0291), (0x0293, 0x0293), (0x0295, 0x029C), (0x029F, 0x02AF), (0x03FC, 0x03FC),
   (0x0560, 0x0560), (0x0588, 0x0588), (0x1D00, 0x1D2B), (0x1D6B, 0x1D77), (0x1D7A, 0x1D7C),
   (0x1D7E, 0x1D8D), (0x1D8F, 0x1D9A), (0x1E9C, 0x1E9D), (0x1E9F, 0x1E9F), (0x210A, 0x210A),
   (0x210E, 0x210F), (0x2113, 0x2113), (0x212F, 0x212F), (0x2134, 0x2134), (0x2139, 0x2139),
   (0x213C, 0x213D), (0x2146, 0x2149), (0x2C71, 0x2C71), (0x2C74, 0x2C74), (0x2C77, 0x2C7B),
   (0x2CE4, 0x2CE4), (0xA730, 0xA731), (0xA771, 0xA778), (0xA78E, 0xA78E), (0xA795, 0xA795),
   (0xA7AF, 0xA7AF), (0xA7D3, 0xA7D3), (0xA7D5, 0xA7D5), (0xA7FA, 0xA7FA), (0xAB30, 0xAB52),
   (0xAB54, 0xAB5A), (0xAB60, 0xAB68), (0x1D41A, 0x1D433), (0x1D44E, 0x1D454), (0x1D456, 0x1D467),
   (0x1D482, 0x1D49B), (0x1D4B6, 0x1D4B9), (0x1D4BB, 0x1D4BB), (0x1D4BD, 0x1D4C3),
   (0x1D4C5, 0x1D4CF), (0x1D4EA, 0x1D503), (0x1D51E, 0x1D537), (0x1D552, 0x1D56B),
   (0x1D586, 0x1D59F), (0x1D5BA, 0x1D5D3), (0x1D5EE, 0x1D607), (0x1D622, 0x1D63B),
   (0x1D656, 0x1D66F), (0x1D68A, 0x1D6A5), (0x1D6C2, 0x1D6DA), (0x1D6DC, 0x1D6E1),
   (0x1D6FC, 0x1D714), (0x1D716, 0x1D71B), (0x1D736, 0x1D74E), (0x1D750, 0x1D755)]

/-- Small letters without a capital form, part 2. -/
def fixedSmallPartB : List Run :=
  [(0x1D770, 0x1D788), (0x1D78A, 0x1D78F), (0x1D7AA, 0x1D7C2), (0x1D7C4, 0x1D7C9),
   (0x1D7CB, 0x1D7CB), (0x1DF00, 0x1DF09), (0x1DF0B, 0x1DF1E), (0x1DF25, 0x1DF2A)]

/-- Small letters without a capital form. -/
def fixedSmall : CharSet :=
  .runs (fixedSmallPartA ++ fixedSmallPartB)

/-! ## Changes -/

/-- Characters with a small form that are no capital letters by category. -/
def smallable : CharSet :=
  .runs [(0x2160, 0x216F), (0x24B6, 0x24CF)]

/-- Characters with a small form. -/
def changesWhenLowercased : CharSet := .union (.diff (.category [.lu, .lt]) fixedCapital) smallable

/-- Characters with a capital form that are no small letters by category. -/
def capitalizable : CharSet :=
  .runs
    [(0x01C5, 0x01C5), (0x01C8, 0x01C8), (0x01CB, 0x01CB), (0x01F2, 0x01F2), (0x0345, 0x0345),
     (0x1F88, 0x1F8F), (0x1F98, 0x1F9F), (0x1FA8, 0x1FAF), (0x1FBC, 0x1FBC), (0x1FCC, 0x1FCC),
     (0x1FFC, 0x1FFC), (0x2170, 0x217F), (0x24D0, 0x24E9)]

/-- Characters with a capital form. -/
def changesWhenUppercased : CharSet := .union (.diff (.category [.ll]) fixedSmall) capitalizable

/-- Capital digraphs with a form of their own for the start of a word. -/
def titleDigraph : CharSet :=
  .runs [(0x01C4, 0x01C4), (0x01C7, 0x01C7), (0x01CA, 0x01CA), (0x01F1, 0x01F1)]

/-- Characters with a capital form that are left alone at the start of a word. -/
def titleFixed : CharSet :=
  .runs
    [(0x01C5, 0x01C5), (0x01C8, 0x01C8), (0x01CB, 0x01CB), (0x01F2, 0x01F2), (0x10D0, 0x10FA),
     (0x10FD, 0x10FF), (0x1F88, 0x1F8F), (0x1F98, 0x1F9F), (0x1FA8, 0x1FAF), (0x1FBC, 0x1FBC),
     (0x1FCC, 0x1FCC), (0x1FFC, 0x1FFC)]

/-- Characters that change at the start of a word. -/
def changesWhenTitlecased : CharSet := .union (.diff changesWhenUppercased titleFixed) titleDigraph

/-- Characters without a small form that case folding replaces all the same. -/
def foldable : CharSet :=
  .runs
    [(0x00B5, 0x00B5), (0x00DF, 0x00DF), (0x0149, 0x0149), (0x017F, 0x017F), (0x0345, 0x0345),
     (0x03C2, 0x03C2), (0x03D0, 0x03D1), (0x03D5, 0x03D6), (0x03F0, 0x03F1), (0x03F5, 0x03F5),
     (0x0587, 0x0587), (0x13F8, 0x13FD), (0x1C80, 0x1C88), (0x1E9A, 0x1E9B), (0x1F80, 0x1F87),
     (0x1F90, 0x1F97), (0x1FA0, 0x1FA7), (0x1FB2, 0x1FB4), (0x1FB7, 0x1FB7), (0x1FC2, 0x1FC4),
     (0x1FC7, 0x1FC7), (0x1FF2, 0x1FF4), (0x1FF7, 0x1FF7), (0xAB70, 0xABBF), (0xFB00, 0xFB06),
     (0xFB13, 0xFB17)]

/-- Characters with a small form that case folding leaves alone. -/
def unfoldable : CharSet :=
  .runs [(0x13A0, 0x13F5)]

/-- Characters that case folding replaces. -/
def changesWhenCasefolded : CharSet := .union (.diff changesWhenLowercased unfoldable) foldable

/-- Characters that some case map changes. -/
def changesWhenCasemapped : CharSet :=
  .unions [changesWhenLowercased, changesWhenUppercased, changesWhenTitlecased]

end Placeholders.CharSet
