import DeepLink.Number.Decimal

namespace DeepLink

inductive Json.Number where
  | integer (value : Int)
  | real (value : Binary64)
deriving DecidableEq, Repr

def Json.Number.toBinary : Json.Number → Binary64
  | integer i => .ofInt i
  | real x => x

inductive Json where
  | null
  | bool (value : Bool)
  | number (value : Json.Number)
  | string (text : String)
  | array (items : List Json)
  | object (members : List (String × Json))
deriving Repr, Inhabited

namespace Json

def find? (name : String) : List (String × Json) → Option Json
  | [] => none
  | (n, v) :: rest => (find? name rest).or (if n = name then some v else none)

def member? (name : String) : Json → Option Json
  | object members => find? name members
  | _ => none

def string? : Json → Option String
  | string s => some s
  | _ => none

def bool? : Json → Option Bool
  | bool b => some b
  | _ => none

def number? : Json → Option Number
  | number n => some n
  | _ => none

def array? : Json → Option (List Json)
  | array items => some items
  | _ => none

def word? : Json → Option Nat
  | number (.integer i) => if 0 ≤ i ∧ i < 0x10000000000000000 then some i.toNat else none
  | _ => none

def insert (name : String) (value : Json) : List (String × Json) → List (String × Json)
  | [] => [(name, value)]
  | (n, v) :: rest =>
    if name < n then (name, value) :: (n, v) :: rest
    else if name = n then (n, v) :: rest
    else (n, v) :: insert name value rest

mutual

/-- Every object with one member per name, the last one, in the order of the names. -/
def canonical : Json → Json
  | array items => array (canonicalItems items)
  | object members => object (canonicalMembers members)
  | null => null
  | bool b => bool b
  | number n => number n
  | string s => string s

def canonicalItems : List Json → List Json
  | [] => []
  | v :: rest => v.canonical :: canonicalItems rest

def canonicalMembers : List (String × Json) → List (String × Json)
  | [] => []
  | (name, v) :: rest => insert name v.canonical (canonicalMembers rest)

end

theorem find?_insert (n name : String) (value : Json) (members : List (String × Json)) :
    find? n (insert name value members) =
      (find? n members).or (if name = n then some value else none) := by
  induction members with
  | nil => simp [insert, find?]
  | cons m rest ih =>
    obtain ⟨k, v⟩ := m
    simp only [insert]
    split
    · simp [find?]
    split
    · subst name
      by_cases hn : k = n <;> simp [find?, hn]
    · simp only [find?, ih]
      by_cases hn : name = n <;> by_cases hk : k = n <;> simp_all

theorem find?_canonicalMembers (n : String) (members : List (String × Json)) :
    find? n (canonicalMembers members) = (find? n members).map canonical := by
  induction members with
  | nil => simp [canonicalMembers, find?]
  | cons m rest ih =>
    obtain ⟨k, v⟩ := m
    rw [canonicalMembers, find?_insert, ih, find?]
    by_cases hk : k = n <;> simp [hk]

theorem member?_canonical (n : String) (j : Json) :
    j.canonical.member? n = (j.member? n).map canonical := by
  cases j <;> simp [canonical, member?, find?_canonicalMembers]

def ofBinary (x : Binary64) : Json := if x.isFinite then number (.real x) else null

def record (fields : List (String × Option Json)) : Json :=
  object (fields.filterMap fun (name, value) => value.map (name, ·))

end Json

end DeepLink
