/-! # Sets of code points

A set of code points is kept as an ascending array of closed ranges. It is written the way the
Unicode character database writes ranges, in hexadecimal and separated by single blanks:
`41-5a 61-7a aa`. Membership is a binary search. -/

namespace SolutionAlgebra.Text

/-- The value of a hexadecimal digit, in either case. -/
def hexValue? (c : Char) : Option Nat :=
  if '0' ≤ c && c ≤ '9' then some (c.toNat - 48)
  else if 'a' ≤ c && c ≤ 'f' then some (c.toNat - 87)
  else if 'A' ≤ c && c ≤ 'F' then some (c.toNat - 55)
  else none

/-- The number that a text of hexadecimal digits stands for; other characters count as zero. -/
def hexNumber (cs : List Char) : Nat :=
  cs.foldl (fun n c => 16 * n + (hexValue? c).getD 0) 0

/-- The pieces of a text between the places where a separator stands. -/
def splitOn (separator : Char) (cs : List Char) : List (List Char) :=
  cs.foldr
    (fun c pieces =>
      if c == separator then [] :: pieces
      else match pieces with
        | [] => [[c]]
        | piece :: rest => (c :: piece) :: rest)
    [[]]

/-- The part of a text before the first occurrence of a character, and the part after it. -/
def cutAt? (mark : Char) : List Char → Option (List Char × List Char)
  | [] => none
  | c :: cs =>
    if c == mark then some ([], cs)
    else (cutAt? mark cs).map fun (before, after) => (c :: before, after)

/-- A text is cut at the first place where the mark stands. -/
theorem cutAt?_append {mark : Char} {before : List Char} (h : mark ∉ before) (after : List Char) :
    cutAt? mark (before ++ mark :: after) = some (before, after) := by
  induction before with
  | nil => simp [cutAt?]
  | cons c before ih =>
    rw [List.mem_cons, not_or] at h
    simp [cutAt?, Ne.symm h.1, ih h.2]

/-- The parts of a text that is cut, and the mark between them, make up the whole; the mark is not
in the first part. -/
theorem cutAt?_eq_some_iff {mark : Char} {cs before after : List Char} :
    cutAt? mark cs = some (before, after) ↔ mark ∉ before ∧ cs = before ++ mark :: after := by
  refine ⟨fun h => ?_, fun ⟨hfree, hcs⟩ => hcs ▸ cutAt?_append hfree after⟩
  induction cs generalizing before with
  | nil => cases h
  | cons c cs ih =>
    by_cases hc : c = mark
    · obtain ⟨rfl, rfl⟩ : [] = before ∧ cs = after := by simpa [cutAt?, hc] using h
      simp [hc]
    · obtain ⟨b, hcut, rfl⟩ : ∃ b, cutAt? mark cs = some (b, after) ∧ c :: b = before := by
        simpa [cutAt?, hc] using h
      obtain ⟨hfree, rfl⟩ := ih hcut
      simp [hfree, Ne.symm hc]

/-- A set of code points as an ascending array of closed ranges. -/
structure CodePoints where
  /-- The ranges, first and last code point of each. -/
  ranges : Array (Nat × Nat)

namespace CodePoints

/-- The set that a text of hexadecimal ranges describes. -/
def ofText (text : String) : CodePoints :=
  ⟨((splitOn ' ' text.toList).map fun piece =>
    match cutAt? '-' piece with
    | some (first, last) => (hexNumber first, hexNumber last)
    | none => (hexNumber piece, hexNumber piece)).toArray⟩

/-- Binary search among the ranges whose index is at least `low` and below `high`. -/
def search (ranges : Array (Nat × Nat)) (n low high : Nat) : Bool :=
  if low < high then
    let middle := (low + high) / 2
    match ranges[middle]? with
    | none => false
    | some (first, last) =>
      if n < first then search ranges n low middle
      else if last < n then search ranges n (middle + 1) high
      else true
  else false
termination_by high - low
decreasing_by all_goals omega

/-- Whether a code point belongs to the set. -/
def contains (set : CodePoints) (n : Nat) : Bool := search set.ranges n 0 set.ranges.size

/-! ## Operations -/

/-- Adds a range to ranges that are given last to first and start before it. -/
def appendRange (ranges : List (Nat × Nat)) (range : Nat × Nat) : List (Nat × Nat) :=
  match ranges with
  | [] => [range]
  | (first, last) :: earlier =>
    if range.1 ≤ last + 1 then (first, max last range.2) :: earlier else range :: ranges

/-- The set of the code points in some ranges. -/
def ofRanges (ranges : List (Nat × Nat)) : CodePoints :=
  ⟨(((ranges.mergeSort fun a b => decide (a.1 ≤ b.1)).foldl appendRange []).reverse).toArray⟩

/-- The set of one code point. -/
def single (n : Nat) : CodePoints := ⟨#[(n, n)]⟩

/-- The set of no code point. -/
def empty : CodePoints := ⟨#[]⟩

/-- The last code point. -/
def lastPoint : Nat := 0x10FFFF

/-- The ranges between given ones, from a code point on. -/
def gaps (next : Nat) : List (Nat × Nat) → List (Nat × Nat)
  | [] => if next ≤ lastPoint then [(next, lastPoint)] else []
  | (first, last) :: ranges =>
    if next < first then (next, first - 1) :: gaps (last + 1) ranges else gaps (last + 1) ranges

/-- The code points that a set leaves out. -/
def complement (set : CodePoints) : CodePoints := ⟨(gaps 0 set.ranges.toList).toArray⟩

/-- The code points of two sets. -/
def union (a b : CodePoints) : CodePoints := ofRanges (a.ranges.toList ++ b.ranges.toList)

/-- The code points of some sets. -/
def unions (sets : List CodePoints) : CodePoints :=
  ofRanges (sets.flatMap fun set => set.ranges.toList)

/-- The code points that two sets share. -/
def intersection (a b : CodePoints) : CodePoints := (a.complement.union b.complement).complement

/-- The code points of a set that another leaves out. -/
def difference (a b : CodePoints) : CodePoints := (a.complement.union b).complement

/-- The code points of exactly one of two sets. -/
def symmetricDifference (a b : CodePoints) : CodePoints :=
  (a.union b).difference (a.intersection b)

end CodePoints

end SolutionAlgebra.Text
