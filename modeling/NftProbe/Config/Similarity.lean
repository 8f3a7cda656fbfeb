import NftProbe.Json.Double

/-!
# Similar names

When a name on the command line is unknown, the program suggests a known name that is close
to it. Closeness is the Jaro similarity of the two names: the characters they share within a
window of half the longer name's length, and how many of those are out of order. A known name
is suggested when its similarity is above 7/10.

The similarity is computed in double precision, three quotients added from the left and the sum
divided by three, and compared with the double nearest to 7/10. The rounding decides borderline
cases: a similarity of exactly 7/10, such as that of `dpcos` and `deploy`, comes out just above
it.
-/


set_option autoImplicit false

namespace NftProbe.Config

/-- Marks the first unmarked character of `other` equal to `c` within `[low, high)`; returns
the updated marks, or `none` when there is no such character. -/
def claim (c : Char) (other : List Char) (low high : Nat) (marks : List Bool) :
    Option (List Bool) :=
  let rec go : Nat → List Char → List Bool → Option (List Bool)
    | _, [], _ => none
    | _, _, [] => none
    | index, d :: rest, mark :: marks =>
      if index < high && low ≤ index && d == c && !mark then some (true :: marks)
      else (go (index + 1) rest marks).map (mark :: ·)
  go 0 other marks

/-- The matching characters of two names: which positions of each are matched. -/
def matchMarks (a b : List Char) : List Bool × List Bool :=
  let window := (max a.length b.length / 2) - 1
  let (aMarks, bMarks) := a.zipIdx.foldl
    (fun (aMarks, bMarks) (c, index) =>
      match claim c b (index - window) (min b.length (index + window + 1)) bMarks with
      | some bMarks => (aMarks ++ [true], bMarks)
      | none => (aMarks ++ [false], bMarks))
    ([], List.replicate b.length false)
  (aMarks, bMarks)

/-- The matched characters of a name, in order. -/
def matched (name : List Char) (marks : List Bool) : List Char :=
  (name.zip marks).filterMap fun (c, mark) => if mark then some c else none

/-- The Jaro similarity of two names, `(m / |a| + m / |b| + (m - t) / m) / 3` in double
precision, where `m` characters match and `t` is half the number of matched characters out of
order. -/
def jaro (a b : String) : Float :=
  let a := a.toList
  let b := b.toList
  if a.isEmpty && b.isEmpty then 1.0
  else if a.isEmpty || b.isEmpty then 0.0
  else
    let (aMarks, bMarks) := matchMarks a b
    let aMatched := matched a aMarks
    let bMatched := matched b bMarks
    let m := aMatched.length
    if m = 0 then 0.0
    else
      let t := ((aMatched.zip bMatched).filter fun (x, y) => x != y).length / 2
      (m.toFloat / a.length.toFloat + m.toFloat / b.length.toFloat +
        (m - t).toFloat / m.toFloat) / 3.0

/-- The least similarity that is not enough: the double nearest to 7/10. -/
def similarityThreshold : Float := Double.ofRatio 7 10

/-- Whether a similarity is above 7/10. -/
def similar (score : Float) : Bool :=
  score > similarityThreshold

/-- Inserts into a list sorted by similarity, after every entry that is not more similar. -/
def insertBySimilarity (entry : Float × String) : List (Float × String) → List (Float × String)
  | [] => [entry]
  | head :: rest =>
    if entry.1 < head.1 then entry :: head :: rest
    else head :: insertBySimilarity entry rest

/-- The known names similar to `name`, the most similar last; among equally similar names the
later one comes last. -/
def didYouMean (name : String) (known : List String) : List String :=
  let scored := (known.map fun candidate => (jaro name candidate, candidate)).filter
    fun entry => similar entry.1
  (scored.foldl (fun sorted entry => insertBySimilarity entry sorted) []).map (·.2)

/-- The most similar known name, if any is similar. -/
def bestMatch? (name : String) (known : List String) : Option String :=
  (didYouMean name known).getLast?

end NftProbe.Config
