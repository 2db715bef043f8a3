/-
# Regular expression search over character lists

Regular expressions with character classes, bounded and unbounded repetition and
the word boundary `\b`, and the search that asks whether a pattern matches
anywhere in a text.  A position is the character just read together with the
text still to read, so a boundary is a property of the position alone.

`ends r pos` lists every position a match of `r` starting at `pos` can end at;
`search r text` asks for a start with at least one end.  Which of the ends a
greedy matcher prefers does not matter for the question whether there is one.
-/
import Mathlib.Data.List.Basic

namespace Regex

/-- A regular expression. -/
inductive Pattern where
  | chr (cls : Char → Bool)
  | seq (a b : Pattern)
  | alt (a b : Pattern)
  /-- `r{lo,hi}`, unbounded when `hi` is `none` -/
  | rep (lo : ℕ) (hi : Option ℕ) (r : Pattern)
  /-- `\b`, for a given notion of word character -/
  | boundary (isWord : Char → Bool)

/-- A position: the character before it, if any, and the text after it. -/
abbrev Pos := Option Char × List Char

/-- Exactly `n` matches of a step, one after the other. -/
def iterate (step : Pos → List Pos) : ℕ → Pos → List Pos
  | 0, pos => [pos]
  | n + 1, pos => (step pos).flatMap (iterate step n)

/-- A word boundary: exactly one side of the position is a word character. -/
def isBoundary (isWord : Char → Bool) (pos : Pos) : Bool :=
  pos.1.elim false isWord != pos.2.head?.elim false isWord

/-- Every end of a match of the pattern that starts at the position.  An
unbounded repetition tries as many rounds beyond the minimum as there is text
left: a longer run of rounds has a round that reads nothing. -/
def ends : Pattern → Pos → List Pos
  | .chr cls, (_, c :: rest) => if cls c then [(some c, rest)] else []
  | .chr _, (_, []) => []
  | .seq a b, pos => (ends a pos).flatMap (ends b)
  | .alt a b, pos => ends a pos ++ ends b pos
  | .rep lo hi r, pos =>
    (List.range' lo (hi.getD (lo + pos.2.length) + 1 - lo)).flatMap
      (fun n => iterate (ends r) n pos)
  | .boundary isWord, pos => if isBoundary isWord pos then [pos] else []

/-- All positions of a text, from a given previous character on. -/
def positions : Option Char → List Char → List Pos
  | prev, [] => [(prev, [])]
  | prev, c :: rest => (prev, c :: rest) :: positions (some c) rest

/-- Whether the pattern matches somewhere in the text. -/
def search (r : Pattern) (text : List Char) : Bool :=
  (positions none text).any (fun pos => (ends r pos).isEmpty = false)

/-- One pattern after the other. -/
def Pattern.chain : List Pattern → Pattern
  | [] => .rep 0 (some 0) (.chr (fun _ => false))
  | [r] => r
  | r :: rs => .seq r (Pattern.chain rs)

/-- `r?`. -/
def Pattern.opt (r : Pattern) : Pattern := .rep 0 (some 1) r

end Regex
