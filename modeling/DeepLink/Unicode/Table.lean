import DeepLink.Text.Split

/-!
Tables of the properties of characters. A table has an entry for some numbers, in order; the entry of a
number is the last one that does not come after it, so that one entry serves a whole run of numbers.
-/

namespace DeepLink.Unicode

structure Table (α : Type) where
  entries : Array (Nat × α)

namespace Table

variable {α : Type}

def search (entries : Array (Nat × α)) (n low count : Nat) : Option (Nat × α) :=
  if count ≤ 1 then entries[low]?.filter (·.1 ≤ n)
  else if entries[low + count / 2]?.any (·.1 ≤ n) then
    search entries n (low + count / 2) (count - count / 2)
  else search entries n low (count / 2)
termination_by count

def floor? (t : Table α) (n : Nat) : Option (Nat × α) := search t.entries n 0 t.entries.size

def find? (t : Table α) (n : Nat) : Option α := (t.floor? n).map (·.2)

def get? (t : Table α) (n : Nat) : Option α := ((t.floor? n).filter (·.1 = n)).map (·.2)

def numeral (s : List Char) : Nat :=
  s.foldl (fun n c => n * 36 + (if c.isDigit then c.toNat - 48 else c.toNat - 87)) 0

def words (lines : List String) : List (List Char) := lines.flatMap fun l => Text.split ' ' l.toList

/-- Runs that begin at a number. A word is the length of a run, which may be left out if it is one, and
from its first capital on the value. -/
def runs (read : List Char → α) (start : Nat) : List (List Char) → List (Nat × α)
  | [] => []
  | word :: rest =>
    let length := word.takeWhile (!·.isUpper)
    (start, read (word.drop length.length)) ::
      runs read (start + if length.isEmpty then 1 else numeral length) rest

def ofLines (read : List Char → α) (lines : List String) : Table α := ⟨(runs read 0 (words lines)).toArray⟩

end Table

end DeepLink.Unicode
