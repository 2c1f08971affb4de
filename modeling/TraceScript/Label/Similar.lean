import TraceScript.Text.Blank

/-!
# Similar names

Which of the known names a misspelt one may stand for.  The measure is the
match count: the longest block that two texts share, plus what the parts to
its left share, plus what the parts to its right share.  Among blocks of the
same size the leftmost in the first text wins, and then the leftmost in the
second.

In a misspelt name of two hundred characters and more, the characters that
make up more than one in a hundred of it seed no block; a block is found
among the others and then grown over equal neighbours of any frequency.

Two texts are close when twice their match count is at least three fifths of
their joint length.  `closest` ranks the close names, the best first, names
of the same rank by falling order.
-/

namespace TraceScript.Similar

/-- A character of the second text, and whether it may seed a block. -/
abbrev Seeded := Char × Bool

/-- A block that two texts share: where it starts in each, and its size. -/
structure Block where
  left : Nat
  right : Nat
  size : Nat
  deriving DecidableEq, Repr

/-- Whether each character of a name may seed a block. -/
def seed (name : Text) : List Seeded :=
  name.map fun c => (c, name.length < 200 || name.count c ≤ name.length / 100 + 1)

/-- The sizes of the seeded runs that end at one character of the first text
and each of the second, from those that end one character earlier. -/
def nextRow (a : Char) (bs : List Seeded) (row : List Nat) : List Nat :=
  bs.zipWith (fun b above => if a = b.1 && b.2 then above + 1 else 0) (0 :: row)

/-- The better of a block and the runs that end at character `i`. -/
def betterInRow (i : Nat) : Nat → List Nat → Block → Block
  | _, [], best => best
  | j, size :: row, best =>
      betterInRow i (j + 1) row
        (if size > best.size then ⟨i + 1 - size, j + 1 - size, size⟩ else best)

/-- The first longest seeded block. -/
def longestRun (bs : List Seeded) : Nat → Text → List Nat → Block → Block
  | _, [], _, best => best
  | i, a :: rest, row, best =>
      let next := nextRow a bs row
      longestRun bs (i + 1) rest next (betterInRow i 0 next best)

/-- How many characters two texts have in common at their start. -/
def commonStart : Text → List Seeded → Nat
  | a :: as, b :: bs => if a = b.1 then commonStart as bs + 1 else 0
  | _, _ => 0

/-- The longest seeded block, grown to both sides. -/
def longestBlock (as : Text) (bs : List Seeded) : Block :=
  let run := longestRun bs 0 as (bs.map fun _ => 0) ⟨0, 0, 0⟩
  let before := commonStart (as.take run.left).reverse (bs.take run.right).reverse
  let after := commonStart (as.drop (run.left + run.size)) (bs.drop (run.right + run.size))
  ⟨run.left - before, run.right - before, before + run.size + after⟩

/-- The match count of two texts.  A block lies inside the first text, so the
second test never fails; it is what the recursion rests on. -/
def matchCount (as : Text) (bs : List Seeded) : Nat :=
  match longestBlock as bs with
  | ⟨i, j, k⟩ =>
      if 0 < k ∧ i + k ≤ as.length then
        matchCount (as.take i) (bs.take j) + k + matchCount (as.drop (i + k)) (bs.drop (j + k))
      else 0
termination_by as.length
decreasing_by
  · simp only [List.length_take]
    omega
  · simp only [List.length_drop]
    omega

/-- A candidate with its match count and the joint length. -/
structure Ranked where
  name : Text
  count : Nat
  total : Nat

/-- The rank of a candidate for a misspelt name; two empty texts match fully. -/
def rank (name : Text) (seeds : List Seeded) (candidate : Text) : Ranked :=
  let total := candidate.length + name.length
  if total = 0 then ⟨candidate, 1, 2⟩ else ⟨candidate, matchCount candidate seeds, total⟩

/-- The ratio of matches is at least three fifths. -/
def Ranked.isClose (r : Ranked) : Bool :=
  10 * r.count ≥ 3 * r.total

/-- The first candidate stands before the second. -/
def Ranked.before (r s : Ranked) : Bool :=
  if r.count * s.total = s.count * r.total then Text.notAfter s.name r.name
  else r.count * s.total > s.count * r.total

/-- The three best of the close candidates. -/
def closest (name : Text) (candidates : List Text) : List Text :=
  let seeds := seed name
  let ranked := (candidates.map (rank name seeds)).filter (·.isClose)
  ((ranked.mergeSort Ranked.before).take 3).map (·.name)

end TraceScript.Similar
