import Scenario.Pattern.PropertyTable
import Scenario.Text.Blank

/-!
# Sets of characters

A set of characters is a list of ranges of code points. The operations
keep the ranges in increasing order and apart, so that the complement of a
set is the list of its gaps.

`fold` closes a set under simple case folding: with a character it holds
every character that differs from it in case only.
-/

namespace Scenario

open Scenario.Text

/-- Ranges of code points, both ends included. -/
structure CharSet where
  ranges : List (Nat × Nat)
  deriving Repr, DecidableEq

namespace CharSet

def empty : CharSet := ⟨[]⟩

/-- The largest code point. -/
def last : Nat := 0x10ffff

def all : CharSet := ⟨[(0, last)]⟩

def ofRange (first last : Nat) : CharSet := ⟨[(first, last)]⟩

def ofChar (c : Char) : CharSet := ofRange c.toNat c.toNat

def holds (s : CharSet) (c : Char) : Bool :=
  s.ranges.any fun (a, b) => a ≤ c.toNat && c.toNat ≤ b

/-- Joins ranges that touch; the list is in order of the first ends. -/
def join : List (Nat × Nat) → List (Nat × Nat)
  | [] => []
  | (a, b) :: rest =>
    match join rest with
    | [] => [(a, b)]
    | (c, d) :: more => if c ≤ b + 1 then (a, max b d) :: more else (a, b) :: (c, d) :: more

/-- Ranges in increasing order and apart. -/
def normal (ranges : List (Nat × Nat)) : CharSet :=
  ⟨join (ranges.mergeSort fun x y => x.1 < y.1 || (x.1 == y.1 && x.2 ≤ y.2))⟩

def union (s t : CharSet) : CharSet :=
  normal (s.ranges ++ t.ranges)

/-- The gaps from a code point on. -/
def gapsFrom (start : Nat) : List (Nat × Nat) → List (Nat × Nat)
  | [] => if start ≤ last then [(start, last)] else []
  | (a, b) :: rest =>
    if start < a then (start, a - 1) :: gapsFrom (b + 1) rest else gapsFrom (max start (b + 1)) rest

def complement (s : CharSet) : CharSet :=
  ⟨gapsFrom 0 (normal s.ranges).ranges⟩

def inter (s t : CharSet) : CharSet :=
  (s.complement.union t.complement).complement

def difference (s t : CharSet) : CharSet :=
  s.inter t.complement

def symmetricDifference (s t : CharSet) : CharSet :=
  (s.union t).difference (s.inter t)

/-! ## Case folding -/

/-- The fold of a code point. -/
def foldOf (n : Nat) : Nat :=
  match Shift.find? foldShifts n with
  | some delta => (n + delta).toNat
  | none => n

/-- The code points that a shift takes to `n`. -/
def sources (n : Nat) (s : Shift) : Option Nat :=
  let m := ((n : Int) - s.delta).toNat
  if s.first ≤ m ∧ m ≤ s.last ∧ (m - s.first) % s.stride = 0 then some m else none

/-- The code points that fold like `n`, itself among them. -/
def variants (n : Nat) : List Nat :=
  let f := foldOf n
  n :: f :: foldShifts.filterMap (sources f)

/-- All code points that take part in folding. -/
def foldable : List Nat :=
  foldShifts.flatMap fun s =>
    (List.range ((s.last - s.first) / s.stride + 1)).flatMap fun k =>
      let n := s.first + k * s.stride
      [n, ((n : Int) + s.delta).toNat]

def holdsCode (s : CharSet) (n : Nat) : Bool :=
  s.ranges.any fun (a, b) => a ≤ n && n ≤ b

/-- The set with all variants in case of its characters. -/
def fold (s : CharSet) : CharSet :=
  let added :=
    match s.ranges with
    | [(a, b)] => if a = b then variants a else (foldable.filter s.holdsCode).flatMap variants
    | _ => (foldable.filter s.holdsCode).flatMap variants
  normal (s.ranges ++ added.map fun n => (n, n))

/-- The set with both cases of its ASCII letters. -/
def foldAscii (s : CharSet) : CharSet :=
  let letters := (List.range 26).flatMap fun k =>
    if s.holdsCode (0x41 + k) || s.holdsCode (0x61 + k) then [0x41 + k, 0x61 + k] else []
  normal (s.ranges ++ letters.map fun n => (n, n))

/-! ## Named sets -/

def digits : CharSet := ⟨decimalRanges⟩

def word : CharSet := ⟨wordRanges⟩

def blank : CharSet :=
  ⟨[(0x09, 0x0d), (0x20, 0x20), (0x85, 0x85), (0xa0, 0xa0), (0x1680, 0x1680), (0x2000, 0x200a),
    (0x2028, 0x2029), (0x202f, 0x202f), (0x205f, 0x205f), (0x3000, 0x3000)]⟩

def asciiDigits : CharSet := ⟨[(0x30, 0x39)]⟩

def asciiWord : CharSet := ⟨[(0x30, 0x39), (0x41, 0x5a), (0x5f, 0x5f), (0x61, 0x7a)]⟩

def asciiBlank : CharSet := ⟨[(0x09, 0x0d), (0x20, 0x20)]⟩

/-- The classes that are named between `[:` and `:]`. -/
def named? (name : String) : Option CharSet :=
  match name with
  | "alnum" => some ⟨[(0x30, 0x39), (0x41, 0x5a), (0x61, 0x7a)]⟩
  | "alpha" => some ⟨[(0x41, 0x5a), (0x61, 0x7a)]⟩
  | "ascii" => some ⟨[(0x00, 0x7f)]⟩
  | "blank" => some ⟨[(0x09, 0x09), (0x20, 0x20)]⟩
  | "cntrl" => some ⟨[(0x00, 0x1f), (0x7f, 0x7f)]⟩
  | "digit" => some asciiDigits
  | "graph" => some ⟨[(0x21, 0x7e)]⟩
  | "lower" => some ⟨[(0x61, 0x7a)]⟩
  | "print" => some ⟨[(0x20, 0x7e)]⟩
  | "punct" => some ⟨[(0x21, 0x2f), (0x3a, 0x40), (0x5b, 0x60), (0x7b, 0x7e)]⟩
  | "space" => some asciiBlank
  | "upper" => some ⟨[(0x41, 0x5a)]⟩
  | "word" => some asciiWord
  | "xdigit" => some ⟨[(0x30, 0x39), (0x41, 0x46), (0x61, 0x66)]⟩
  | _ => none

end CharSet

end Scenario
