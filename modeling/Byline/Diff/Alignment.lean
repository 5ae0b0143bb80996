/-!
# Aligning two lists

An alignment of two lists says, step by step, which members are kept, deleted from the first or
inserted from the second. `Alignment.find?` finds one with as few deletions and insertions as
possible, by the search for furthest reaching paths.

A path is seen in a grid whose columns are the members of the first list and whose rows are those
of the second; it runs from the origin to the far corner, across for a deletion, down for an
insertion, and along a diagonal for members that are equal. In round `d` the search extends the
paths with `d` steps off the diagonals. For each diagonal `k`, which holds the points with column
minus row equal to `k`, a `Frontier` keeps the furthest column. The path is then followed back
through the frontiers as they were before each round.

A place outside the frontier makes the search fail, and so does a point on the way back that lies
past the far edges of the grid, and a search of more rounds than there are members.
-/

namespace Byline

/-- A step of an alignment. -/
inductive Step where
  /-- A member of both lists. -/
  | keep
  /-- A member of the first list only. -/
  | delete
  /-- A member of the second list only. -/
  | insert
  deriving DecidableEq, Repr

/-- The number of members that the lists have in common at their start. -/
def commonLength {α : Type} [DecidableEq α] : List α → List α → Nat
  | a :: s, b :: t => if a = b then commonLength s t + 1 else 0
  | _, _ => 0

/-- The furthest column on each diagonal, from diagonal `-offset` on. -/
structure Frontier where
  offset : Int
  columns : Array Int
  deriving DecidableEq, Repr

namespace Frontier

/-- The frontier before the first round, for lists of `size` members together. -/
def start (size : Nat) : Frontier := ⟨size, Array.replicate (2 * size + 2) 0⟩

/-- The column on a diagonal. -/
def column? (f : Frontier) (k : Int) : Option Int :=
  if 0 ≤ k + f.offset then f.columns[(k + f.offset).toNat]? else none

/-- Puts the column on a diagonal. -/
def put? (f : Frontier) (k x : Int) : Option Frontier :=
  if 0 ≤ k + f.offset ∧ (k + f.offset).toNat < f.columns.size then
    some { f with columns := f.columns.set! (k + f.offset).toNat x }
  else none

/-- Is diagonal `k` reached from the one above it, by an insertion, in round `d`? Of the two
neighbours the one further on is taken, and the one below on a tie. -/
def fromAbove? (f : Frontier) (d k : Int) : Option Bool :=
  if k = -d then some true
  else if k = d then some false
  else do
    let below ← f.column? (k - 1)
    let above ← f.column? (k + 1)
    return below < above

end Frontier

namespace Alignment

variable {α : Type} [DecidableEq α]

/-- The column at which the equal members end that the lists have from a column and a row on. -/
def runEnd (a b : Array α) (i j : Nat) : Nat :=
  if h : i < a.size ∧ j < b.size then
    if a[i] = b[j] then runEnd a b (i + 1) (j + 1) else i
  else i
  termination_by a.size - i

/-- The equal members are those that the lists have in common from there on. -/
theorem runEnd_eq (a b : Array α) (i j : Nat) :
    runEnd a b i j = i + commonLength (a.toList.drop i) (b.toList.drop j) := by
  fun_induction runEnd a b i j with
  | case1 i j h heq ih =>
    have ha : i < a.toList.length := h.1
    have hb : j < b.toList.length := h.2
    rw [ih, List.drop_eq_getElem_cons ha, List.drop_eq_getElem_cons hb]
    simp only [Array.getElem_toList, commonLength, heq, if_true]
    omega
  | case2 i j h hne =>
    have ha : i < a.toList.length := h.1
    have hb : j < b.toList.length := h.2
    rw [List.drop_eq_getElem_cons ha, List.drop_eq_getElem_cons hb]
    simp [commonLength, hne]
  | case3 i j h =>
    by_cases ha : i < a.size
    · have hb : b.toList.drop j = [] := List.drop_eq_nil_of_le (by
        have : b.toList.length = b.size := rfl; omega)
      simp [hb, commonLength]
    · have ha : a.toList.drop i = [] := List.drop_eq_nil_of_le (by
        have : a.toList.length = a.size := rfl; omega)
      simp [ha, commonLength]

/-- The column after the diagonal from a point on. The point lies within the grid or past its far
edges. -/
def slide? (a b : Array α) (x y : Int) : Option Int :=
  if 0 ≤ x ∧ 0 ≤ y then some (runEnd a b x.toNat y.toNat) else none

/-- Extends the paths on `count` diagonals from `k` on, every other one, in round `d`. Gives the
frontier and whether the far corner was reached. -/
def sweep? (a b : Array α) (d : Int) : Nat → Int → Frontier → Option (Frontier × Bool)
  | 0, _, f => some (f, false)
  | count + 1, k, f => do
    let above ← f.fromAbove? d k
    let x ← if above then f.column? (k + 1) else (f.column? (k - 1)).map (· + 1)
    let x ← slide? a b x (x - k)
    let f ← f.put? k x
    if a.size ≤ x ∧ b.size ≤ x - k then return (f, true)
    else sweep? a b d count (k + 2) f

/-- Does rounds, at most `rounds` from round `d` on, until the far corner is reached. `before` are
the frontiers before each round, latest first. -/
def search? (a b : Array α) : Nat → Nat → Frontier → List Frontier → Option (List Frontier)
  | 0, _, _, _ => none
  | rounds + 1, d, f, before => do
    let (f', reached) ← sweep? a b d (d + 1) (-d) f
    if reached then return f :: before else search? a b rounds (d + 1) f' (f :: before)

/-- Follows the path to a point back through the frontiers, latest first, within a grid of that
width and height. `steps` are those after the point. -/
def follow? (width height : Nat) : List Frontier → Int → Int → List Step → Option (List Step)
  | [], _, _, steps => some steps
  | f :: before, x, y, steps =>
    if x ≤ width ∧ y ≤ height then do
      let d := before.length
      let k := x - y
      let above ← f.fromAbove? d k
      let k' := if above then k + 1 else k - 1
      let x' ← f.column? k'
      let y' := x' - k'
      let kept := (min (x - x') (y - y')).toNat
      let after := List.replicate kept Step.keep ++ steps
      let step := if x - kept = x' then Step.insert else Step.delete
      follow? width height before x' y' (if d = 0 then after else step :: after)
    else none

/-- An alignment of the lists with the fewest deletions and insertions. -/
def find? (a b : List α) : Option (List Step) := do
  let size := a.length + b.length
  let frontiers ← search? a.toArray b.toArray (size + 1) 0 (.start size) []
  follow? a.length b.length frontiers a.length b.length []

end Alignment

end Byline
