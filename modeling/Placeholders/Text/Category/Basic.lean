/-!
# General categories

* `Category` — the general category that the character database gives to each code point.
* `Category.ofAscii` — the category of an ASCII code point, written out as a rule so that facts
  about ordinary letters and digits need no table.
* `Category.groups`, `Category.named?` — the names under which patterns ask for a category or a
  group of categories.
-/

namespace Placeholders

/-- The general category of a code point.  Every code point has exactly one. -/
inductive Category where
  /-- capital letter -/
  | lu
  /-- small letter -/
  | ll
  /-- digraph with a capital first part -/
  | lt
  /-- modifier letter -/
  | lm
  /-- letter without case -/
  | lo
  /-- nonspacing mark -/
  | mn
  /-- spacing mark -/
  | mc
  /-- enclosing mark -/
  | me
  /-- decimal digit -/
  | nd
  /-- letter-like number -/
  | nl
  /-- other number -/
  | no
  /-- connector -/
  | pc
  /-- dash -/
  | pd
  /-- opening bracket -/
  | ps
  /-- closing bracket -/
  | pe
  /-- opening quote -/
  | pi
  /-- closing quote -/
  | pf
  /-- other punctuation -/
  | po
  /-- mathematical symbol -/
  | sm
  /-- currency sign -/
  | sc
  /-- modifier symbol -/
  | sk
  /-- other symbol -/
  | so
  /-- space -/
  | zs
  /-- line separator -/
  | zl
  /-- paragraph separator -/
  | zp
  /-- control -/
  | cc
  /-- format character -/
  | cf
  /-- private use -/
  | co
  /-- unassigned -/
  | cn
  deriving DecidableEq

namespace Category

/-- The category of an ASCII code point.  Above ASCII the answer means nothing. -/
def ofAscii (n : Nat) : Category :=
  if 97 ≤ n ∧ n ≤ 122 then .ll
  else if 65 ≤ n ∧ n ≤ 90 then .lu
  else if 48 ≤ n ∧ n ≤ 57 then .nd
  else if n < 32 ∨ n = 127 then .cc
  else match n with
    | 32 => .zs
    | 36 => .sc
    | 43 | 60 | 61 | 62 | 124 | 126 => .sm
    | 94 | 96 => .sk
    | 45 => .pd
    | 95 => .pc
    | 40 | 91 | 123 => .ps
    | 41 | 93 | 125 => .pe
    | _ => .po

/-! ## Names -/

/-- Names of categories and of groups of categories, in the loose form in which names are
compared, with the categories they stand for. -/
def groups : List (List String × List Category) :=
  [(["lu", "uppercaseletter"], [.lu]),
   (["ll", "lowercaseletter"], [.ll]),
   (["lt", "titlecaseletter"], [.lt]),
   (["lc", "casedletter"], [.lu, .ll, .lt]),
   (["lm", "modifierletter"], [.lm]),
   (["lo", "otherletter"], [.lo]),
   (["l", "letter"], [.lu, .ll, .lt, .lm, .lo]),
   (["mn", "nonspacingmark"], [.mn]),
   (["mc", "spacingmark"], [.mc]),
   (["me", "enclosingmark"], [.me]),
   (["m", "mark", "combiningmark"], [.mn, .mc, .me]),
   (["nd", "decimalnumber", "digit"], [.nd]),
   (["nl", "letternumber"], [.nl]),
   (["no", "othernumber"], [.no]),
   (["n", "number"], [.nd, .nl, .no]),
   (["pc", "connectorpunctuation"], [.pc]),
   (["pd", "dashpunctuation"], [.pd]),
   (["ps", "openpunctuation"], [.ps]),
   (["pe", "closepunctuation"], [.pe]),
   (["pi", "initialpunctuation"], [.pi]),
   (["pf", "finalpunctuation"], [.pf]),
   (["po", "otherpunctuation"], [.po]),
   (["p", "punct", "punctuation"], [.pc, .pd, .ps, .pe, .pi, .pf, .po]),
   (["sm", "mathsymbol"], [.sm]),
   (["sc", "currencysymbol"], [.sc]),
   (["sk", "modifiersymbol"], [.sk]),
   (["so", "othersymbol"], [.so]),
   (["s", "symbol"], [.sm, .sc, .sk, .so]),
   (["zs", "spaceseparator"], [.zs]),
   (["zl", "lineseparator"], [.zl]),
   (["zp", "paragraphseparator"], [.zp]),
   (["z", "separator"], [.zs, .zl, .zp]),
   (["cc", "control", "cntrl"], [.cc]),
   (["cf", "format"], [.cf]),
   (["co", "privateuse"], [.co]),
   (["cn", "unassigned"], [.cn]),
   (["c", "other"], [.cc, .cf, .co, .cn])]

/-- The categories that a name in loose form stands for. -/
def named? (name : String) : Option (List Category) :=
  (groups.find? fun entry => entry.1.contains name).map (·.2)

end Category

end Placeholders
