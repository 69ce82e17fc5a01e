import SchemaTypings.Text.Ranges

/-! # Sets of code points as ordered ranges

A set is kept as ranges in increasing order that do not touch.  Surrogates are no characters: the
range that ends before them and the one that starts behind them stay apart, and stepping over an end
passes over them.
-/
namespace SchemaTypings
namespace Text
namespace Ranges

/-- The code point after `n`. -/
def next (n : Nat) : Nat := if n = 0xD7FF then 0xE000 else n + 1

/-- The code point before `n`. -/
def previous (n : Nat) : Nat := if n = 0xE000 then 0xD7FF else n - 1

/-- Joins a range with those of `rest`, which start no earlier, as long as they touch it. -/
def joined (current : Nat × Nat) : Ranges → Ranges
  | [] => [current]
  | range :: rest =>
    if range.1 ≤ current.2 + 1 then joined (current.1, max current.2 range.2) rest
    else current :: joined range rest

/-- Whether a range starts earlier, or at one place and ends no later. -/
def isBefore (r s : Nat × Nat) : Bool := r.1 < s.1 || (r.1 = s.1 && r.2 ≤ s.2)

/-- **The ordered form** of ranges in any order. -/
def ordered (ranges : Ranges) : Ranges :=
  match List.mergeSort ranges isBefore with
  | [] => []
  | first :: rest => joined first rest

/-- What is in one set or the other. -/
def union (a b : Ranges) : Ranges := ordered (a ++ b)

/-- What is in both sets. -/
def intersection : Ranges → Ranges → Ranges
  | [], _ | _, [] => []
  | a :: as, b :: bs =>
    let shared := if max a.1 b.1 ≤ min a.2 b.2 then [(max a.1 b.1, min a.2 b.2)] else []
    shared ++ if a.2 < b.2 then intersection as (b :: bs) else intersection (a :: as) bs
termination_by as bs => as.length + bs.length

/-- What is in the first set only. -/
def difference : Ranges → Ranges → Ranges
  | [], _ => []
  | as, [] => as
  | a :: as, b :: bs =>
    if b.2 < a.1 then difference (a :: as) bs
    else if a.2 < b.1 then a :: difference as (b :: bs)
    else
      let before := if a.1 < b.1 then [(a.1, previous b.1)] else []
      before ++
        if b.2 < a.2 then difference ((next b.2, a.2) :: as) bs else difference as (b :: bs)
termination_by as bs => as.length + bs.length

/-- What is in one of two sets only. -/
def symmetricDifference (a b : Ranges) : Ranges := difference (union a b) (intersection a b)

/-- The range between two code points, whichever comes first. -/
def spanning (m n : Nat) : Nat × Nat := (min m n, max m n)

/-- The gaps behind a range that ends at `stop`, up to `top`. -/
def gapsFrom (top stop : Nat) : Ranges → Ranges
  | [] => if stop < top then [(next stop, top)] else []
  | range :: rest => spanning (next stop) (previous range.1) :: gapsFrom top range.2 rest

/-- What is not in a set, among the code points up to `top`. -/
def complement (top : Nat) : Ranges → Ranges
  | [] => [(0, top)]
  | first :: rest =>
    (if 0 < first.1 then [(0, previous first.1)] else []) ++ gapsFrom top first.2 rest

/-- Whether some range holds the code point `n`. -/
def holdsPoint (ranges : Ranges) (n : Nat) : Bool :=
  ranges.any fun range => range.1 ≤ n && n ≤ range.2

/-- Nothing is shared with the empty set. -/
theorem intersection_nil (a : Ranges) : intersection a [] = [] := by
  cases a <;> simp [intersection]

/-- Taking nothing away changes nothing. -/
theorem difference_nil (a : Ranges) : difference a [] = a := by
  cases a <;> simp [difference]

end Ranges
end Text
end SchemaTypings
