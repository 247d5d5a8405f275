import StablePath.CharSet

/-!
Sets of code points as sequences of byte ranges.

In UTF-8 a code point is a lead byte and up to three bytes of six bits each. A range of code points
is a union of sequences of byte ranges, cut where a byte reaches its end.
-/

namespace StablePath.Unicode.Utf8

/-- One byte range for each byte of an encoded code point. -/
abbrev Sequence := List (Nat × Nat)

/-- The sequences for the numbers from `lo` to `hi`, written with `tail` digits to the base 64
after a leading one. The leading byte is the leading digit added to `mark`. -/
def cut (mark : Nat) : Nat → Nat → Nat → List Sequence
  | 0, lo, hi => [[(mark + lo, mark + hi)]]
  | tail + 1, lo, hi =>
    let block := Nat.pow 64 (tail + 1)
    let first := lo / block
    let last := hi / block
    let below (lead lo hi : Nat) : List Sequence :=
      (cut 0x80 tail lo hi).map ((mark + lead, mark + lead) :: ·)
    if first = last then below first (lo % block) (hi % block)
    else
      let start := if lo % block = 0 then first else first + 1
      let stop := if hi % block = block - 1 then last + 1 else last
      (if lo % block = 0 then [] else below first (lo % block) (block - 1)) ++
      (if start < stop then
        [(mark + start, mark + stop - 1) :: List.replicate (tail + 1) (0x80, 0xBF)]
      else []) ++
      (if hi % block = block - 1 then [] else below last 0 (hi % block))

/-- The code points that take one, two, three and four bytes, with the bits that mark the lead
byte; the surrogates are left out. -/
def lengths : List ((Nat × Nat) × Nat × Nat) :=
  [((0, 0x7F), 0, 0), ((0x80, 0x7FF), 0xC0, 1), ((0x800, 0xD7FF), 0xE0, 2),
    ((0xE000, 0xFFFF), 0xE0, 2), ((0x10000, 0x10FFFF), 0xF0, 3)]

def sequencesOfRange (r : Nat × Nat) : List Sequence :=
  lengths.flatMap fun ((lo, hi), mark, tail) =>
    let first := max lo r.1
    let last := min hi r.2
    if first ≤ last then cut mark tail first last else []

/-- The sequences of a set, in ascending order. -/
def sequences (s : CharSet) : List Sequence := s.ranges.flatMap sequencesOfRange

/-! ### Automata for a set -/

/-- The sequences that remain after each first byte range, in order. -/
def branches : List Sequence → List ((Nat × Nat) × List Sequence)
  | [] => []
  | [] :: more => branches more
  | (r :: rest) :: more =>
    match branches more with
    | (r', group) :: others =>
      if r = r' then (r, rest :: group) :: others else (r, [rest]) :: (r', group) :: others
    | [] => [(r, [rest])]

/-- The nodes reached in at most `depth` bytes: what is still to be read in each, with no node
listed twice. -/
def nodes : Nat → List (List Sequence) → List (List Sequence)
  | 0, found => found
  | depth + 1, level =>
    let next := (level.flatMap fun node => (branches node).map Prod.snd).filter fun node =>
      node.any fun rest => !rest.isEmpty
    level ++ nodes depth next.eraseDups

/-- The number of nodes, and of branches leaving them, of the smallest automaton for a set that
reads its bytes forward. -/
def forwardSize (s : CharSet) : Nat × Nat :=
  let all := (nodes 3 [sequences s]).eraseDups
  (all.length, all.foldl (fun count node => count + (branches node).length) 0)

/-- How many byte ranges two sequences have in common at the start. -/
def sharedLength : Sequence → Sequence → Nat
  | a :: as, b :: bs => if a = b then sharedLength as bs + 1 else 0
  | _, _ => 0

/-- The number of different beginnings of sequences in ascending order, of which the one before was
`previous`. -/
def beginnings (previous : Sequence) : List Sequence → Nat
  | [] => 0
  | w :: ws => w.length - sharedLength previous w + beginnings w ws

/-- The number of different beginnings of the sequences of a set, and of the sequences. -/
def backwardSize (s : CharSet) : Nat × Nat :=
  let all := sequences s
  (beginnings [] all, all.length)

end StablePath.Unicode.Utf8
