import NftProbe.Text.CombiningClass
import NftProbe.Text.Decomposition

/-!
# Normalization Form C

`nfc` brings a sequence of code points into Normalization Form C in three steps:

* every code point is replaced by its full canonical decomposition;
* in every run of marks, the marks are sorted by combining class, keeping the order of marks
  of one class (canonical order);
* each mark, and each starter right after a starter, is composed with the last starter when the
  pair has a primary composite and nothing between them blocks it: a mark in between blocks
  the pair unless its class is lower than the class of the one being composed.

Hangul syllables decompose into their leading consonant, vowel and trailing consonant by
arithmetic, and compose back the same way.
-/

set_option autoImplicit false

namespace NftProbe.Text

/-! ## Hangul -/

/-- The first Hangul syllable, U+AC00. -/
def syllableFirst : Nat := 0xAC00

/-- The first leading consonant, U+1100. -/
def leadFirst : Nat := 0x1100

/-- The first vowel, U+1161. -/
def vowelFirst : Nat := 0x1161

/-- The code point before the first trailing consonant, U+11A7: a syllable's trailing
consonant is this plus its index, and index 0 means no trailing consonant. -/
def trailBase : Nat := 0x11A7

/-- The number of leading consonants. -/
def leadCount : Nat := 19

/-- The number of vowels. -/
def vowelCount : Nat := 21

/-- The number of trailing consonants, counting the absence of one. -/
def trailCount : Nat := 28

/-- The number of Hangul syllables. -/
def syllableCount : Nat := leadCount * vowelCount * trailCount

/-- Whether a code point is a Hangul syllable. -/
def isSyllable (point : Nat) : Bool :=
  syllableFirst ≤ point && point < syllableFirst + syllableCount

/-! ## Decomposition and canonical order -/

/-- The full canonical decomposition of a code point, itself when it has none. -/
def decompose (point : Nat) : List Nat :=
  if isSyllable point then
    let index := point - syllableFirst
    let lead := leadFirst + index / (vowelCount * trailCount)
    let vowel := vowelFirst + index % (vowelCount * trailCount) / trailCount
    let trail := trailBase + index % trailCount
    if trail == trailBase then [lead, vowel] else [lead, vowel, trail]
  else (decompositions.find? point).getD [point]

/-- Adds a mark of class `cls` to output kept in reverse: before the marks of higher class at
its end, and after everything else. -/
def insertMark (point cls : Nat) : List Nat → List Nat
  | [] => [point]
  | last :: rest =>
    if combiningClass last > cls then last :: insertMark point cls rest
    else point :: last :: rest

/-- Canonical order: every run of marks sorted by class, marks of one class in their order. -/
def canonicalOrder (points : List Nat) : List Nat :=
  (points.foldl (fun out point =>
    let cls := combiningClass point
    if cls == 0 then point :: out else insertMark point cls out) []).reverse

/-! ## Composition -/

/-- The primary composite of a pair of code points, if it has one. -/
def composePair? (first second : Nat) : Option Nat :=
  if leadFirst ≤ first && first < leadFirst + leadCount &&
      vowelFirst ≤ second && second < vowelFirst + vowelCount then
    some (syllableFirst + ((first - leadFirst) * vowelCount + (second - vowelFirst)) * trailCount)
  else if isSyllable first && (first - syllableFirst) % trailCount == 0 &&
      trailBase < second && second < trailBase + trailCount then
    some (first + (second - trailBase))
  else compositions.find? (compositionKey first second)

/-- Composition in progress. The output before the last starter and the marks kept after it
are in reverse; `lastClass` is the class of the last code point kept, 0 when that is the
starter. -/
structure Composer where
  done : List Nat := []
  starter : Option Nat := none
  marks : List Nat := []
  lastClass : Nat := 0

/-- Keeps a code point that does not compose: a starter ends the run of the starter before. -/
def Composer.keep (state : Composer) (point cls : Nat) : Composer :=
  if cls == 0 then
    { done := state.marks ++ (state.starter.toList ++ state.done), starter := some point,
      marks := [], lastClass := 0 }
  else { state with marks := point :: state.marks, lastClass := cls }

/-- Takes the next code point: it composes with the starter when the pair has a composite and
no kept mark of the same or a higher class stands between them. -/
def Composer.push (state : Composer) (point : Nat) : Composer :=
  let cls := combiningClass point
  match state.starter.bind fun starter => composePair? starter point with
  | some composite =>
    if state.lastClass < cls || state.lastClass == 0 then { state with starter := some composite }
    else state.keep point cls
  | none => state.keep point cls

/-- The output of a composition. -/
def Composer.result (state : Composer) : List Nat :=
  (state.marks ++ (state.starter.toList ++ state.done)).reverse

/-- The canonical composition of code points in canonical order. -/
def compose (points : List Nat) : List Nat :=
  (points.foldl Composer.push {}).result

/-- Normalization Form C. -/
def nfc (points : List Nat) : List Nat :=
  compose (canonicalOrder (points.flatMap decompose))

end NftProbe.Text
