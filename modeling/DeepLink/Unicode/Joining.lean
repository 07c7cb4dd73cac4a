import DeepLink.Unicode.Table

namespace DeepLink.Unicode

inductive Joining where
  | right | left | dual | transparent | none
deriving DecidableEq, Repr

def Joining.read : List Char → Joining
  | ['R'] => right
  | ['L'] => left
  | ['D'] => dual
  | ['T'] => transparent
  | _ => none

def joiningRuns : List String :=
  -- joins to the one before (R), to the one after (L), to both (D), is looked through (T), does not join (U)
  ["4tU T giU 34T 7nU 7T 7bU 19T U T U 2T U 2T U T 20U bT U T 3U D U 4R D R D R 5D 4R dD U 7D R 2D",
    "lT eU 2D T 3R U 3R gD iR 12D R 2D 9R D R D R 2D 2R U R 7T 2U 6T 2U 2T U 4T 2R aU 3D 2U D fU T",
    "R T 3D 5R 4D R 9D R D R D R 2D R rT 2U R bD 3R fD 2R 4D R D 2R 3D 2R 6D 12U bT pU xD 9T 9U T",
    "oU 4T U 9T U 3T U 5T iU R 5D 2R D R aD R D 3R 3T 4U D U 4D U R D 2R 5U jR 3U D 2U 5D R D 7U 9T",
    "aD 3R U R 2D 2R 6D R fD U oT U wT 1jU T U T 4U 8T 4U T 3U 7T aU 2T tU T 1mU T 4U 4T 8U T kU 2T",
    "qU T 2U 2T 1lU T 4U 2T 4U 2T 2U 3T 3U T uU 2T 3U T bU 2T 1lU T 4U 5T U 2T 4U T kU 2T mU 6T U T",
    "1mU T 2U T U 4T 8U T 7U 2T bU 2T uU T 1pU T cU T 1eU T 3U T 1jU T U 3T 5U 3T U 4T 7U 2T bU 2T",
    "tU T 1mU T 2U T 6U T 5U 2T kU 2T sU 2T 1lU 2T 4U 4T 8U T kU 2T tU T 20U T 7U 3T U T 2iU T 2U",
    "7T cU 8T 2qU T 2U 9T bU 7T 21U 2T rU T U T U T 1jU eT U 5T U 2T 5U bT U 10T 9U T 2uU 4T U 6T U",
    "2T 2U 2T pU 2T 4U 3T gU 4T dU T 2U 2T 6U T fU T jjU 3T qaU 3T tU 2T uU 2T uU 2T 1sU 2T U 7T 8U",
    "T 2U bT 9U T 15U D 3U 3T U T gU 2hD cU 2T yD T D 39U 3T 4U 2T 9U T 6U 3T 63U 2T 2U T 1mU T U",
    "7T U T U T 2U 8T 6U aT 2U T 1cU 1aT 2U cT kU 4T 1cU T U 5T U T 5U T 14U 9T cU 2T wU 4T 2U 2T U",
    "3T 1kU T U 2T 3U T U 3T 1mU 8T 2U 2T 48U 3T U dT U 7T 4U T 6U T 3U 2T 5iU 1sT ejU T 2U 2T qU",
    "5T 1dU 5T 5U 6T 2oU xT 2daU 3T 3xU T 2oU wT feU 4T 2zU 2T n9wU 4T U aT wU 2T 28U 2T 7kU T 3U T",
    "4U T pU 2T 5U T jU 1eD L 29U 2T qU iT dU T 12U 8T pU bT 1aU 3T 1cU T 2U 4T 2U 2T 13U T 1vU 6T",
    "2U 2T 2U 2T cU T 8U T 1bU T 1fU T U 3T 2U 2T 5U 2T U T 16U 2T 8U T 6mU T 2U T 4U T fn4U T khU",
    "gT gU gT 5rU T 6xU 3T e9U T 6aU T 45U 5T 1aeU 3T U 2T 5U 4T 14U 3T 4U T 3kU 5D R U R U 2R 2U L",
    "5R 4D L 5D R 3D R 2U R 2T 4U 4D R 40U D R D 3R 3D R 2D R D 2R D R nU 4R 2D 9dU L xD R D 4T 1tU",
    "5T 8tU 2T lU R 2D U 2D 1eU 6T 1cU 3D R hD U bT 3D R rU 4D 2R cD 4T 16U D U 2D 3R U D 2R 2D R",
    "2D U D 2R D 4U R D L 1hU T 1iU fT 15U T 2U 2T aU 3T 1dU 4T 2U 2T 7U T 1pU 3T 10U 5T U 8T 1qU T",
    "cU 2T 1gU 9T aU 4T 2U T 2nU 3T 2U T U 2T 6U T 2U T 4dU T 3U 8T lU 2T 1lU 2T 3U T 11U 7T 3U 5T",
    "1yU 6T dU T U T U T eU 2T 2dU 8T 2U 3T U T nU T 2cU 6T U T 4U 2T U 2T 6mU 4T 6U 2T U 2T rU 2T",
    "2dU 8T 2U T U 2T 2yU T U T 2U 6T U T 2tU T U T 2U 4T U 5T 77U 9T U 2T 74U 2T U T 4U T 40U 4T",
    "2U 2T 4U T wU aT 14U 6T 2U 4T 8U T 9U 6T 2U 3T 1aU dT U 2T 5iU T U 3T U T 5lU 7T U 6T U T 2aU",
    "mT 2U 7T U 2T U 2T 3eU 6T 3U T U 2T U 7T U T 20U 2T 3U T U T 9nU 2T bU 2T 1gU 5T 5U T U T nU T",
    "445U hT 6U fT 8ugU cT 3U 3T 1xcU 5T 1nU 7T t4U T 1rU 4T 29U T f5kU 2T U 4T 3mkU 1aT 2U nT f4U",
    "3T 9U gT 2U 7T uU 4T 44U 3T 1izU 1jT 4U 1eT 8U T eU T mU 5T U fT 11sU 7T U hT 2U 7T U 2T U 5T",
    "2sU T 4gU 7T afU T 1pU 4T e4U 4T 72U 2T 6rU T 2U T 7U 2T 5U T d6U 7T 15U 1wD 8T gzatU T uU 2oT",
    "3kU 6oT 47bkU"]

def joinings : Table Joining := .ofLines Joining.read joiningRuns

def joining (c : Char) : Joining := (joinings.find? c.toNat).getD .none

def joinsBy (ways : List Joining) (s : List Char) : Bool :=
  (s.find? (joining · ≠ .transparent)).any (ways.contains <| joining ·)

end DeepLink.Unicode
