/-!
# Sets of characters

A set of characters is a list of closed ranges of code points, ascending and with a gap
between neighbours; membership stops at the first range above the character.

    contains (union s t) c      = contains s c || contains t c
    contains (complement s) c   = !contains s c
    contains (inter s t) c      = contains s c && contains t c

The equations hold of ascending sets; every set built by `insert` from the empty set is one.
-/

namespace Quarantine.Text

structure CharSet where
  ranges : List (Nat × Nat)
  deriving DecidableEq, Hashable

namespace CharSet

/-! ## Membership -/

/-- Whether a code point lies in one of the ranges, which ascend. -/
def inRanges : List (Nat × Nat) → Nat → Bool
  | [], _ => false
  | (lo, hi) :: rest, n => if n < lo then false else n ≤ hi || inRanges rest n

def contains (s : CharSet) (c : Char) : Bool := inRanges s.ranges c.toNat

/-! ## Construction -/

def empty : CharSet := ⟨[]⟩

/-- The largest code point. -/
def maxCode : Nat := 0x10FFFF

def all : CharSet := ⟨[(0, maxCode)]⟩

/-- Adds one range, joining it with the ranges that it touches. -/
def insertRange (lo hi : Nat) : List (Nat × Nat) → List (Nat × Nat)
  | [] => [(lo, hi)]
  | (a, b) :: rest =>
    if hi + 1 < a then (lo, hi) :: (a, b) :: rest
    else if b + 1 < lo then (a, b) :: insertRange lo hi rest
    else insertRange (min lo a) (max hi b) rest

def insert (s : CharSet) (lo hi : Nat) : CharSet := ⟨insertRange lo hi s.ranges⟩

/-- The set of the given ranges, in any order. -/
def ofRanges (rs : List (Nat × Nat)) : CharSet :=
  rs.foldl (fun s r => s.insert r.1 r.2) empty

def singleton (c : Char) : CharSet := ⟨[(c.toNat, c.toNat)]⟩

/-- The set of the characters of a list. -/
def ofChars (cs : List Char) : CharSet := ofRanges (cs.map fun c => (c.toNat, c.toNat))

/-! ## Operations -/

def union (s t : CharSet) : CharSet :=
  if s.ranges.isEmpty then t
  else t.ranges.foldl (fun u r => u.insert r.1 r.2) s

/-- The ranges between the given ones, from `next` on. -/
def gaps (next : Nat) : List (Nat × Nat) → List (Nat × Nat)
  | [] => if next ≤ maxCode then [(next, maxCode)] else []
  | (a, b) :: rest => if next < a then (next, a - 1) :: gaps (b + 1) rest else gaps (b + 1) rest

def complement (s : CharSet) : CharSet := ⟨gaps 0 s.ranges⟩

def inter (s t : CharSet) : CharSet := (s.complement.union t.complement).complement

def diff (s t : CharSet) : CharSet := s.inter t.complement

def symmDiff (s t : CharSet) : CharSet := (s.union t).diff (s.inter t)

/-- Whether the set holds ASCII characters only. -/
def isAscii (s : CharSet) : Bool := s.ranges.all fun r => r.2 < 0x80

/-! ## Lemmas -/

@[simp] theorem contains_empty (c : Char) : empty.contains c = false := rfl

theorem contains_singleton (c d : Char) :
    (singleton c).contains d = true ↔ d.toNat = c.toNat := by
  unfold singleton contains inRanges inRanges
  by_cases h : d.toNat < c.toNat
  · simp [h]; omega
  · simp [h]; omega

end CharSet
end Quarantine.Text
