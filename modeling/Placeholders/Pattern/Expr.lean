import Placeholders.Pattern.Term

/-!
# Pattern expressions

A pattern as a matcher follows it.

* `Expr` — an expression.  Choices and loops carry a label, so that a matcher can tell whether it
  has been at the same choice before without reading on; counted repetition is kept as a count.
* `Expr.isEmptyWidth` — expressions that never take a character.
* `Expr.ofTerm` — the expression of a term.
-/

namespace Placeholders.Pattern

/-- A pattern expression. -/
inductive Expr where
  | empty
  /-- one character of a set -/
  | one (set : CharSet)
  | look (l : Look)
  /-- a capture group -/
  | group (index : Nat) (e : Expr)
  | cat (a b : Expr)
  /-- either; the first is tried first -/
  | alt (label : Nat) (a b : Expr)
  /-- once or more often; a greedy loop tries another round first -/
  | plus (label : Nat) (greedy : Bool) (e : Expr)
  /-- exactly `n` times -/
  | times (label n : Nat) (e : Expr)
  /-- at most `n` times -/
  | upTo (label n : Nat) (greedy : Bool) (e : Expr)

namespace Expr

/-- Does the expression match the empty text only? -/
def isEmptyWidth : Expr → Bool
  | .empty => true
  | .one _ => false
  | .look _ => true
  | .group _ e => e.isEmptyWidth
  | .cat a b => a.isEmptyWidth && b.isEmptyWidth
  | .alt _ a b => a.isEmptyWidth && b.isEmptyWidth
  | .plus _ _ e => e.isEmptyWidth
  | .times _ _ e => e.isEmptyWidth
  | .upTo _ _ _ e => e.isEmptyWidth

/-- An expression or nothing. -/
def optional (label : Nat) (greedy : Bool) (e : Expr) : Expr :=
  if greedy then .alt label e .empty else .alt label .empty e

/-- An expression repeated at least `least` times and, if `most` is given, at most that often.  It
uses the labels `label` and `label + 1`.

An expression of no width gains nothing from a second round, so at most one is made.  A loop that
may be left out is an optional loop of one round or more: thus a round that takes no character
is still a round, and the groups in it take part. -/
def repeated (label : Nat) (greedy : Bool) (least : Nat) (most : Option Nat) (e : Expr) : Expr :=
  let least := if e.isEmptyWidth then min least 1 else least
  let most := if e.isEmptyWidth then some (min (most.getD 1) 1) else most
  match least, most with
  | 0, some 0 => .empty
  | 1, some 1 => e
  | 0, some 1 => optional label greedy e
  | 0, none => optional label greedy (.plus (label + 1) greedy e)
  | 1, none => .plus label greedy e
  | n + 2, none => .cat (.times label (n + 1) e) (.plus (label + 1) greedy e)
  | n, some m =>
    if n = m then .times label n e
    else if n = 0 then .upTo label m greedy e
    else .cat (.times label n e) (.upTo (label + 1) (m - n) greedy e)

/-- The expression of a term with labels from `label` on, and the next free label. -/
def labelled : Term → (label : Nat) → Expr × Nat
  | .empty, label => (.empty, label)
  | .one set, label => (.one set, label)
  | .look l, label => (.look l, label)
  | .group index t, label =>
    let (e, next) := labelled t label
    (.group index e, next)
  | .bracket t, label => labelled t label
  | .cat a b, label =>
    let (a, next) := labelled a label
    let (b, next) := labelled b next
    (.cat a b, next)
  | .alt a b, label =>
    let (a, next) := labelled a (label + 1)
    let (b, next) := labelled b next
    (.alt label a b, next)
  | .repeated greedy least most t, label =>
    let (e, next) := labelled t (label + 2)
    (repeated label greedy least most e, next)

/-- The expression of a term. -/
def ofTerm (t : Term) : Expr := (labelled t 0).1

end Expr

end Placeholders.Pattern
