/-!
Sets of code points, as sorted lists of ranges.
-/

namespace StablePath

/-- A set of code points: closed ranges in ascending order, with a gap between neighbours. -/
structure CharSet where
  ranges : List (Nat × Nat)
  deriving DecidableEq, Inhabited

namespace CharSet

/-- The last code point. -/
def lastCode : Nat := 0x10FFFF

def contains (s : CharSet) (n : Nat) : Bool := s.ranges.any fun r => r.1 ≤ n && n ≤ r.2

def empty : CharSet := ⟨[]⟩

/-- Puts a range into a sorted list, melting it with all it touches. -/
def addRange (lo hi : Nat) : List (Nat × Nat) → List (Nat × Nat)
  | [] => [(lo, hi)]
  | (a, b) :: rest =>
    if hi + 1 < a then (lo, hi) :: (a, b) :: rest
    else if b + 1 < lo then (a, b) :: addRange lo hi rest
    else addRange (min lo a) (max hi b) rest

def range (lo hi : Nat) : CharSet := ⟨[(lo, hi)]⟩

def single (c : Char) : CharSet := range c.toNat c.toNat

def union (s t : CharSet) : CharSet :=
  ⟨s.ranges.foldr (fun r acc => addRange r.1 r.2 acc) t.ranges⟩

def ofRanges (rs : List (Nat × Nat)) : CharSet := union ⟨rs⟩ empty

/-- What the ranges leave free from `start` up to `top`. -/
def gaps (top : Nat) : Nat → List (Nat × Nat) → List (Nat × Nat)
  | start, [] => if start ≤ top then [(start, top)] else []
  | start, (a, b) :: rest =>
    if start < a then (start, a - 1) :: gaps top (b + 1) rest else gaps top (b + 1) rest

/-- The complement within the codes up to `top`. -/
def complement (top : Nat) (s : CharSet) : CharSet := ⟨gaps top 0 s.ranges⟩

def inter (top : Nat) (s t : CharSet) : CharSet :=
  complement top (union (complement top s) (complement top t))

def diff (top : Nat) (s t : CharSet) : CharSet := complement top (union (complement top s) t)

def symmDiff (top : Nat) (s t : CharSet) : CharSet := union (diff top s t) (diff top t s)

/-- No member is beyond `limit`. -/
def within (limit : Nat) (s : CharSet) : Bool := s.ranges.all fun r => r.2 ≤ limit

/-! ### Membership -/

@[simp] theorem contains_range (lo hi n : Nat) :
    (range lo hi).contains n = (decide (lo ≤ n) && decide (n ≤ hi)) := by
  simp [contains, range]

end CharSet

end StablePath
