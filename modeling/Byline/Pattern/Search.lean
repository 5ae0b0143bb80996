import Byline.Pattern.Basic

/-!
# Searching for a pattern

`Pattern.advance p xs` lists the places that `p` reaches from the places `xs`, each place once, so
that the work grows with the size of the pattern and of the text and not with the number of ways
to match. `Pattern.found p s` asks whether `p` reaches any place from any place of the text.

All lists of places hold places of one text, the last first. Places are then told apart by what is
left of the text after them, and two lists are merged in one pass.
-/

namespace Byline.Pattern

/-- The places of both lists, those of both only once, onto the places in `done`, which come before
them in reverse order. -/
def mergeOnto (done : List Cursor) : List Cursor → List Cursor → List Cursor
  | [], ys => done.reverseAux ys
  | xs, [] => done.reverseAux xs
  | x :: xs, y :: ys =>
    if x.left = y.left then mergeOnto (x :: done) xs ys
    else if x.left < y.left then mergeOnto (x :: done) xs (y :: ys)
    else mergeOnto (y :: done) (x :: xs) ys
  termination_by xs ys => xs.length + ys.length

/-- The places of both lists, those of both only once. -/
def merge (xs ys : List Cursor) : List Cursor := mergeOnto [] xs ys

/-- The places of the first list that are not in the second, onto the places in `done`. -/
def withoutOnto (done : List Cursor) : List Cursor → List Cursor → List Cursor
  | [], _ => done.reverse
  | xs, [] => done.reverseAux xs
  | x :: xs, y :: ys =>
    if x.left = y.left then withoutOnto done xs ys
    else if x.left < y.left then withoutOnto (x :: done) xs (y :: ys)
    else withoutOnto done (x :: xs) ys
  termination_by xs ys => xs.length + ys.length

/-- The places of the first list that are not in the second. -/
def without (xs ys : List Cursor) : List Cursor := withoutOnto [] xs ys

/-- Are the places those of the other list? -/
def same (xs ys : List Cursor) : Bool := xs.map (·.left) == ys.map (·.left)

/-- A step done `n` times. Where a step leads nowhere else there is nothing more to do. -/
def times (step : List Cursor → List Cursor) : Nat → List Cursor → List Cursor
  | 0, xs => xs
  | n + 1, xs =>
    let ys := step xs
    if same ys xs then xs else times step n ys

/-- The places reached by at most `n` steps: `seen` are those found so far, and `latest` those of
them that were found last. -/
def spread (step : List Cursor → List Cursor) : Nat → List Cursor → List Cursor → List Cursor
  | 0, _, seen => seen
  | n + 1, latest, seen =>
    let fresh := without (step latest) seen
    if fresh.isEmpty then seen else spread step n fresh (merge fresh seen)

/-- A number of steps after which steps that move on have used up the text. -/
def enough (xs : List Cursor) : Nat := xs.foldl (fun n x => max n x.left) 0 + 1

/-- The places that the pattern reaches from some of the places. -/
def advance : Pattern → List Cursor → List Cursor
  | .empty, xs => xs
  | .set s, xs => xs.filterMap (·.take? s)
  | .look l, xs => xs.filter l.holds
  | .seq p q, xs => advance q (advance p xs)
  | .alt p q, xs => merge (advance p xs) (advance q xs)
  | .iter p least most, xs =>
    let ys := times (advance p) least xs
    spread (advance p) (match most with | none => enough ys | some m => m - least) ys ys

/-- Has the text a stretch that the pattern describes? -/
def found (p : Pattern) (s : List Char) : Bool := !(advance p (Cursor.places s)).isEmpty

end Byline.Pattern
