/-!
# Similar words

How much two words are alike. Characters match when they are equal and not too far from each other;
each one matches at most one of the other word. Matching characters that come in another order
count for less. The measure is the mean of three shares: of the first word that matches, of the
second word that matches, and of the matches that are in order.
-/

namespace LoginService.Text

/-- Mark the first character that is equal, not marked yet, and within `[low, high)`; the position
of the first character of the list is `here`. -/
def markWithin (low high : Nat) (c : Char) (here : Nat) :
    List (Char × Bool) → Option (List (Char × Bool))
  | [] => none
  | (d, marked) :: rest =>
    if low ≤ here && here < high && c == d && !marked then some ((d, true) :: rest)
    else (markWithin low high c (here + 1) rest).map ((d, marked) :: ·)

/-- The characters of a word that match another word, and the other word with marks. The position of
the first character of the list is `here`. -/
def matchingChars (range : Nat) (here : Nat) :
    List Char → List (Char × Bool) → List Char × List (Char × Bool)
  | [], marks => ([], marks)
  | c :: rest, marks =>
    match markWithin (here - range) (here + range + 1) c 0 marks with
    | none => matchingChars range (here + 1) rest marks
    | some marks =>
      let (found, marks) := matchingChars range (here + 1) rest marks
      (c :: found, marks)

/-- A share, as a numerator and a denominator that is not zero. -/
structure Share where
  part : Nat
  whole : Nat
  deriving Repr

/-- Whether a share is at least as large as another. -/
def Share.atLeast (a b : Share) : Bool :=
  b.part * a.whole ≤ a.part * b.whole

/-- How much two words are alike. -/
def similarity (a b : String) : Share :=
  let x := a.toList
  let y := b.toList
  let range := max x.length y.length / 2 - 1
  let (found, marks) := matchingChars range 0 x (y.map fun c => (c, false))
  let others := (marks.filter (·.2)).map (·.1)
  let m := found.length
  let swapped := ((found.zip others).filter fun (c, d) => c != d).length / 2
  if m = 0 then ⟨if x.isEmpty && y.isEmpty then 1 else 0, 1⟩
  else
    ⟨m * m * y.length + m * m * x.length + (m - swapped) * x.length * y.length,
      3 * m * x.length * y.length⟩

end LoginService.Text
