namespace DeepLink.Utf8

def size (s : List Char) : Nat := s.foldr (fun c n => c.utf8Size + n) 0

def bytes (s : String) : List UInt8 := s.toUTF8.data.toList

def lead (b : UInt8) : Option (Nat × List (UInt8 × UInt8)) :=
  let tail : UInt8 × UInt8 := (0x80, 0xBF)
  if b < 0x80 then some (b.toNat, [])
  else if b < 0xC2 then none
  else if b < 0xE0 then some (b.toNat - 0xC0, [tail])
  else if b == 0xE0 then some (0, [(0xA0, 0xBF), tail])
  else if b == 0xED then some (0xD, [(0x80, 0x9F), tail])
  else if b < 0xF0 then some (b.toNat - 0xE0, [tail, tail])
  else if b == 0xF0 then some (0, [(0x90, 0xBF), tail, tail])
  else if b < 0xF4 then some (b.toNat - 0xF0, [tail, tail, tail])
  else if b == 0xF4 then some (4, [(0x80, 0x8F), tail, tail])
  else none

def follow (number : Nat) : List (UInt8 × UInt8) → List UInt8 → Option Nat × List UInt8
  | [], bs => (some number, bs)
  | _ :: _, [] => (none, [])
  | (low, high) :: ranges, b :: bs =>
    if low ≤ b && b ≤ high then follow (number * 64 + (b.toNat - 0x80)) ranges bs
    else (none, b :: bs)

theorem follow_length_le (number : Nat) (ranges : List (UInt8 × UInt8)) (bs : List UInt8) :
    (follow number ranges bs).2.length ≤ bs.length := by
  induction ranges generalizing number bs with
  | nil => simp [follow]
  | cons range ranges ih =>
    cases bs with
    | nil => simp [follow]
    | cons b bs =>
      simp only [follow]
      split
      · exact Nat.le_succ_of_le (ih _ _)
      · exact Nat.le_refl _

def read : List UInt8 → List (Option Char)
  | [] => []
  | b :: bs =>
    match lead b with
    | none => none :: read bs
    | some (number, ranges) =>
      have := follow_length_le number ranges bs
      (follow number ranges bs).1.map Char.ofNat :: read (follow number ranges bs).2
termination_by bs => bs.length
decreasing_by
  · simp_wf
  · simp_wf; omega

def decode? (bs : List UInt8) : Option (List Char) := (read bs).mapM id

def decode (bs : List UInt8) : List Char := (read bs).map (·.getD '\uFFFD')

end DeepLink.Utf8
