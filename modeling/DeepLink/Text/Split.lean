namespace DeepLink.Text

def split (separator : Char) : List Char → List (List Char)
  | [] => [[]]
  | c :: s =>
    if c = separator then [] :: split separator s
    else match split separator s with
      | [] => [[c]]
      | part :: parts => (c :: part) :: parts

theorem split_ne_nil (separator : Char) (s : List Char) : split separator s ≠ [] := by
  cases s with
  | nil => simp [split]
  | cons c s =>
    rw [split]
    split
    · simp
    · split <;> simp

theorem split_append (separator : Char) (s t : List Char) :
    split separator (s ++ separator :: t) = split separator s ++ split separator t := by
  induction s with
  | nil => simp [split]
  | cons c s ih =>
    rw [List.cons_append, split, split]
    by_cases hc : c = separator
    · rw [if_pos hc, if_pos hc, ih]
      rfl
    · rw [if_neg hc, if_neg hc, ih]
      cases h : split separator s with
      | nil => exact absurd h (split_ne_nil separator s)
      | cons part parts => rfl

theorem split_eq_singleton {separator : Char} {s : List Char} (h : separator ∉ s) : split separator s = [s] := by
  induction s with
  | nil => rfl
  | cons c s ih =>
    rw [List.mem_cons, not_or] at h
    rw [split, if_neg (Ne.symm h.1), ih h.2]

theorem parts_of_split {separator : Char} {s part : List Char} {parts : List (List Char)}
    (h : split separator s = part :: parts) : part <+: s ∧ ∀ p ∈ parts, p <:+: s := by
  induction s generalizing part parts with
  | nil =>
    rw [split, List.cons.injEq] at h
    obtain ⟨rfl, rfl⟩ := h
    exact ⟨List.prefix_rfl, nofun⟩
  | cons c s ih =>
    cases hs : split separator s with
    | nil => exact absurd hs (split_ne_nil separator s)
    | cons first rest =>
      obtain ⟨starts, within⟩ := ih hs
      rw [split, hs] at h
      by_cases hc : c = separator
      · rw [if_pos hc, List.cons.injEq] at h
        obtain ⟨rfl, rfl⟩ := h
        constructor
        · exact List.nil_prefix
        · rw [List.forall_mem_cons]
          exact ⟨List.infix_cons starts.isInfix, fun p hp => List.infix_cons (within p hp)⟩
      · rw [if_neg hc, List.cons.injEq] at h
        obtain ⟨rfl, rfl⟩ := h
        exact ⟨List.cons_prefix_cons.2 ⟨rfl, starts⟩, fun p hp => List.infix_cons (within p hp)⟩

theorem isInfix_of_mem_split {separator : Char} {s part : List Char} (h : part ∈ split separator s) : part <:+: s := by
  cases hs : split separator s with
  | nil => exact absurd hs (split_ne_nil separator s)
  | cons first rest =>
    obtain ⟨starts, within⟩ := parts_of_split hs
    rw [hs, List.mem_cons] at h
    rcases h with rfl | h
    · exact starts.isInfix
    · exact within part h

def cut (separator : Char) : List Char → List Char × Option (List Char)
  | [] => ([], none)
  | c :: s =>
    if c = separator then ([], some s)
    else ((c :: (cut separator s).1), (cut separator s).2)

def contains (part : List Char) : List Char → Bool
  | [] => part.isEmpty
  | c :: s => part.isPrefixOf (c :: s) || contains part s

theorem contains_iff {part s : List Char} : contains part s ↔ part <:+: s := by
  induction s with
  | nil => simp [contains]
  | cons c s ih =>
    rw [contains, Bool.or_eq_true, List.isPrefixOf_iff_prefix, ih]
    exact List.infix_cons_iff.symm

end DeepLink.Text
