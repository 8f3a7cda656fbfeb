import NftProbe.Text.Bidi

/-!
# The rule for bidirectional domain names

A domain name is bidirectional when one of its characters is right-to-left, an Arabic letter or
an Arabic-Indic digit. Every label of such a name must then read the same in either direction of
layout, which RFC 5893 ensures with six conditions on bidirectional classes:

* the first character is left-to-right, right-to-left or an Arabic letter, which makes the label
  left-to-right or right-to-left;
* a right-to-left label holds only right-to-left characters, Arabic letters and digits,
  European digits, the separators and terminators of numbers, neutral characters and nonspacing
  marks, ends (before any nonspacing marks) in a right-to-left character, an Arabic letter or a
  digit, and does not hold both European and Arabic-Indic digits;
* a left-to-right label holds only left-to-right characters, European digits, the separators and
  terminators of numbers, neutral characters and nonspacing marks, and ends (before any
  nonspacing marks) in a left-to-right character or a European digit.

An empty label passes.
-/

set_option autoImplicit false

namespace NftProbe.Idna

open Text (BidiClass bidiClass)

/-- Whether a class makes a name bidirectional. -/
def makesBidiDomain : BidiClass → Bool
  | .rightToLeft | .arabicLetter | .arabicNumber => true
  | _ => false

/-- Whether a name, given by its labels, is bidirectional. -/
def isBidiDomain (labels : List (List Nat)) : Bool :=
  labels.any fun label => label.any fun point => makesBidiDomain (bidiClass point)

/-- The classes a right-to-left label may hold. -/
def allowedRightToLeft : BidiClass → Bool
  | .rightToLeft | .arabicLetter | .arabicNumber | .europeanNumber | .europeanSeparator
  | .commonSeparator | .europeanTerminator | .otherNeutral | .boundaryNeutral
  | .nonspacingMark => true
  | _ => false

/-- The classes a left-to-right label may hold. -/
def allowedLeftToRight : BidiClass → Bool
  | .leftToRight | .europeanNumber | .europeanSeparator | .commonSeparator
  | .europeanTerminator | .otherNeutral | .boundaryNeutral | .nonspacingMark => true
  | _ => false

/-- Whether a label satisfies the rule. The classes after the first are looked at without the
nonspacing marks at the end; the last of them, or the first class when there is none, is the
class the label ends in. -/
def satisfiesBidiRule (label : List Nat) : Bool :=
  match label with
  | [] => true
  | first :: rest =>
    let firstClass := bidiClass first
    let body := ((rest.map bidiClass).reverse.dropWhile (· == .nonspacingMark)).reverse
    let lastClass := body.getLast?.getD firstClass
    match firstClass with
    | .leftToRight =>
      body.all allowedLeftToRight &&
        (lastClass == .leftToRight || lastClass == .europeanNumber)
    | .rightToLeft | .arabicLetter =>
      body.all allowedRightToLeft &&
        [.rightToLeft, .arabicLetter, .europeanNumber, .arabicNumber].contains lastClass &&
        !(body.contains .europeanNumber && body.contains .arabicNumber)
    | _ => false

end NftProbe.Idna
