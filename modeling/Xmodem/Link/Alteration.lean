/-!
# Alterations

An alteration changes what is written as a whole, before it is sent.  It depends on the number of
earlier writes.  Rules describe the common ones: bits are inverted, the end is cut off, the rest is
repeated, and foreign bytes are put around it.
-/

namespace Xmodem

/-- A change of what is written, by the number of earlier writes. -/
abbrev Alteration :=
  Nat → List UInt8 → List UInt8

/-- A change of chosen writes. -/
structure AlterationRule where
  /-- The writes in question, counted from zero; all when absent. -/
  writes : Option (List Nat)
  /-- Shorter writes are left alone. -/
  minimumLength : Nat
  /-- Masks for the bytes at some places. -/
  masks : List (Int × UInt8)
  /-- Before which place the bytes are cut; nowhere when absent. -/
  cut : Option Int
  /-- How often the bytes are written. -/
  times : Nat
  /-- Bytes put in front. -/
  before : List UInt8
  /-- Bytes put behind. -/
  after : List UInt8

namespace AlterationRule

/-- Whether a rule applies to a write. -/
def applies (rule : AlterationRule) (write : Nat) (bytes : List UInt8) : Bool :=
  (match rule.writes with
    | some writes => writes.contains write
    | none => true) && rule.minimumLength ≤ bytes.length

/-- How far from the front a place is; a negative place is counted from the end. -/
def distance (place : Int) (bytes : List UInt8) : Int :=
  if place < 0 then bytes.length + place else place

/-- Invert the bits of masks at their places. -/
def mask (masks : List (Int × UInt8)) (bytes : List UInt8) : List UInt8 :=
  masks.foldl
    (fun bytes (place, mask) =>
      let distance := distance place bytes
      if distance < 0 then bytes else bytes.modify distance.toNat (· ^^^ mask))
    bytes

/-- The bytes before a place. -/
def keep (cut : Option Int) (bytes : List UInt8) : List UInt8 :=
  match cut with
  | none => bytes
  | some place => bytes.take (distance place bytes).toNat

/-- The bytes after a rule that applies. -/
def apply (rule : AlterationRule) (bytes : List UInt8) : List UInt8 :=
  let bytes := keep rule.cut (mask rule.masks bytes)
  rule.before ++ (List.replicate rule.times bytes).flatten ++ rule.after

end AlterationRule

namespace Alteration

/-- Nothing is changed. -/
def none : Alteration :=
  fun _ bytes => bytes

/-- Rules applied in order. -/
def ofRules (rules : List AlterationRule) : Alteration :=
  fun write bytes =>
    rules.foldl (fun bytes rule => if rule.applies write bytes then rule.apply bytes else bytes)
      bytes

end Alteration
end Xmodem
