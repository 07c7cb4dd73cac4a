import DeepLink.Unicode.Table

namespace DeepLink.Unicode

inductive Direction where
  | left | right | arabicNumber | number | mark | neutral
deriving DecidableEq, Repr

namespace Direction

def read : List Char → Direction
  | ['L'] => left
  | ['R'] => right
  | ['A'] => arabicNumber
  | ['E'] => number
  | ['S'] => mark
  | _ => neutral

def directionRuns : List String :=
  -- from left to right (L), from right to left (R), Arabic digits (A), other digits (E), marks (S), all others (N)
  ["1cN aE 13N qL 2sN oL N chL 2N 7L eN 2L sN L hN 35S 4L 2N 3jL 2N 3vL 8S 73L 7N 19S R S R 2S R",
    "2S R 9S 1iR 2N R 2N R N R 2N bS 1cR lS aA N 2A 3R S 2tR 8S N 6S 2R 2S N 4S 2R aE nR S uR tS",
    "2hR bS 1mR 9S 2R 4N 3R S oR 4S R 9S R 3S R 7S 15R 5S 1lR 9S 16R 1lS 1jL S L S 4L 8S 4L S 3L fS",
    "2L 2S tL S 1mL S 4L 6S 6L S kL 4S cL 2N 7L N 2L 5S 1lL 2S 3L rS kL 2S 3L S bL 2S 1lL S 4L 8S",
    "4L 3S iL 4S bL 8N L 8S 1mL S 2L S L 6S 6L aS bL 4S sL S 1pL S cL 3S zL dN S 3L S 1jL S L 3S 5L",
    "iS aL 4S iL 7N 2L S 1mL S fL 9S dL 4S qL 2S 1lL 2S 4L 5S 7L S kL 4S rL S 20L 5S 3L 6S 2hL S 2L",
    "bS N 7L 8S 2qL S 2L 9S bL 8S 20L 2S rL S L S L S 4N 1fL eS L 5S L 2S 5L 1dS 8L S 2uL 4S L 6S L",
    "2S 2L 2S pL 2S 4L 3S gL 4S dL S 2L 2S 6L S fL S jjL 3S 1cL gN 2oL N iiL 5N 36L 3S tL 2S uL eS",
    "iL eS 1jL 7S 8L S 2L bS 7L N L 3S gL wN 39L 2S yL S 3aL 3S 4L 2S 9L S 6L 7S 6N 48L yN nL 2S 2L",
    "3S 1kL S L 9S L S 2L 8S 6L dS 1cL 2cS 1cL S L 5S L S 5L S 14L 9S cL 2S wL 4S 2L 2S L 3S 1kL S",
    "L 2S 3L S L 3S 1mL 8S 2L 5S 45L 3S L dS L 7S 4L S 6L S 3L 2S 5iL 1tS ejL 5gN 1gS 22N 1oL bwN",
    "1xL qN L lyN L 9fN 74L moN 51L 7N 3L 4S 6L 7N 3jL S 2oL wS edN 3L pN 9L 4S 2L N 6L 4N 2L 4N",
    "2gL 4S 3L N 2iL N 5gL 1cN 5hsL 1sN h3kL 1sN 8tL 3N 2nL 4S N aS 3N tL 2S 28L 2S eL zN 2tL N 3dL",
    "S 3L S 4L S pL 2S L 4N 4S 8L 8N 1gL cN 1wL aS iL iS dL S 12L 8S pL bS 1aL 3S 1cL S 2L 4S 2L 2S",
    "13L S 1vL 6S 2L 2S 2L bS 3L S 8L S 1bL S 1fL S L 3S 2L 2S 5L 2S L S 16L 2S 8L bS 2xL 2eN 11L S",
    "2L S 4L 3S fn2L 44S hR gtN 11S 1aN b1R 75L N 1qL 25N 3L 1sN 19L 3nS 2oL S vE 3aL aS w0L 7zR N",
    "69R fS 14R 8S 4lR 6S 26R 7N dgR cS qA vR 5S N 6pR wA 17R 2S zR 16N 6S 1yR bS 1dR 4S 3eR L S",
    "1iL fS bL kN aL S 2L 2S aL 3S 1dL 4S 2L 2S 7L eS 1cL 3S 10L 5S L 9S 1pL S cL 2S 1gL 9S aL 4S",
    "2L S 2nL 3S 2L S L 2S 6L S 2L 1rS 2nL S 3L dS gL 2S 1lL 2S 3L S 11L qS 1nL 7S cL S L S L S eL",
    "vS 1kL 8S 2L 3S L S nL S 2cL 6S L S 4L 2S L 2S 6mL 6S 4L 2S L 2S rL 10S 1fL 8S 2L S L 2S vL wN",
    "17L S L S 2L 6S L S 2tL 3S 2L 4S L 9S 73L 9S L 2S 74L 2S L S 4L S 40L 8S 4L S wL 6S 2L 2S 14L",
    "6S 2L 4S 8L 9S L 6S 2L 3S 1aL dS L 2S 5iL S L 3S L S 5lL eS 2cL nS L 7S L 2S L 23S 1dL lS L 9S",
    "1sL 3S 2L S L S 9nL 2S bL 2S 1gL 8S 2L S L S nL 2eS 11L 16N 401L S 6L pS 8u6L cS 3L 3S 1xcL 5S",
    "1nL 7S t4L S 1rL 4S 27L N L cS f59L 2S 31dL lcN 28S evL 3S hL 8S 2L 7S uL 4S 1nL 2hN 3S 3fN",
    "1sL 2oN 1b4L 1jS 4L 1eS 8L S eL S mL v9S 74L 74S 1cL 7S afL iS 18L 4S fL cxN sL 4S 72L 2S 6rL",
    "S 2L S 7L 2S 5L 9S 76L 5sR 2aS yR 7S 145R gwN tL 3N 1pL 1lN 3eL 2owN l2ioL"]

def table : Table Direction := .ofLines read directionRuns

end Direction

def direction (c : Char) : Direction := (Direction.table.find? c.toNat).getD .neutral

namespace Direction

def anyRight (s : List Char) : Bool := s.any fun c => direction c = right || direction c = arabicNumber

def fitsLeft (last : Direction) (middle : List Direction) : Bool :=
  [left, number].contains last && middle.all fun d => d ≠ right && d ≠ arabicNumber

def fitsRight (last : Direction) (middle : List Direction) : Bool :=
  [right, number, arabicNumber].contains last && !middle.contains left &&
    !((last :: middle).contains number && (last :: middle).contains arabicNumber)

def isReadable (label : List Char) : Bool :=
  match label.map direction with
  | [] => true
  | first :: rest =>
    (first = left || first = right) &&
      match rest.reverse.dropWhile (· = mark) with
      | [] => true
      | last :: middle => if first = left then fitsLeft last middle else fitsRight last middle

end Direction

end DeepLink.Unicode
