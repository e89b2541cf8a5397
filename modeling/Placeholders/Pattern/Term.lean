import Placeholders.Pattern.Look

/-!
# Terms

* `Term` — a pattern as it was read: the pieces that its spelling has, with flags applied.
* `Term.concat`, `Term.choice` — terms from their parts.
-/

namespace Placeholders.Pattern

/-- A pattern as it was read. -/
inductive Term where
  | empty
  /-- one character of a set -/
  | one (set : CharSet)
  | look (l : Look)
  /-- a group that captures -/
  | group (index : Nat) (t : Term)
  /-- a group that does not capture -/
  | bracket (t : Term)
  | cat (a b : Term)
  /-- either; the first is tried first -/
  | alt (a b : Term)
  /-- at least `least` times and, if `most` is given, at most that often; a greedy one prefers to
  go on -/
  | repeated (greedy : Bool) (least : Nat) (most : Option Nat) (t : Term)

namespace Term

/-- The concatenation of several terms. -/
def concat : List Term → Term
  | [] => .empty
  | [t] => t
  | t :: rest => .cat t (concat rest)

/-- The choice between several terms. -/
def choice : List Term → Term
  | [] => .empty
  | [t] => t
  | t :: rest => .alt t (choice rest)

end Term

end Placeholders.Pattern
