namespace GoSpecs

/-- A range of byte offsets. An unknown offset is one outside of every source. -/
structure Span where
  start? : Option Nat
  stop? : Option Nat
deriving DecidableEq

namespace Span

def detached : Span := ⟨none, none⟩

def range (start stop : Nat) : Span := ⟨some start, some stop⟩

/-- The lesser of two offsets, of which an unknown one is the greatest. -/
def least : Option Nat → Option Nat → Option Nat
  | none, other => other
  | some offset, none => some offset
  | some offset, some other => some (min offset other)

def greatest : Option Nat → Option Nat → Option Nat
  | some offset, some other => some (max offset other)
  | _, _ => none

/-- The least range that covers both; a detached span covers nothing. -/
def merge (span other : Span) : Span :=
  if span = detached then other
  else if other = detached then span
  else ⟨least span.start? other.start?, greatest span.stop? other.stop?⟩

/-- How an unknown offset is written: as the greatest number of 64 bits. -/
def unknownOffset : Nat := UInt64.size - 1

def known? (number : Nat) : Option Nat :=
  if number = unknownOffset then none else some number

def describe (span : Span) : String :=
  if span = detached then "<detached>"
  else
    toString (span.start?.getD unknownOffset) ++ ".." ++ toString (span.stop?.getD unknownOffset)

@[simp] theorem detached_merge (span : Span) : detached.merge span = span := by
  simp [merge]

@[simp] theorem merge_detached (span : Span) : span.merge detached = span := by
  by_cases h : span = detached <;> simp [merge, h]

@[simp] theorem range_ne_detached (start stop : Nat) : range start stop ≠ detached := by
  simp [range, detached]

end Span

structure Comment where
  text : String
  span : Span
deriving DecidableEq

end GoSpecs
