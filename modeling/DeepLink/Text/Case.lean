namespace DeepLink.Text

def lower (s : String) : String := String.ofList (s.toList.map Char.toLower)

theorem lower_toList (s : String) : (lower s).toList = s.toList.map Char.toLower := by
  simp [lower]

theorem isUpper_iff {c : Char} : c.isUpper ↔ 65 ≤ c.toNat ∧ c.toNat ≤ 90 := decide_eq_true_iff

theorem isLower_iff {c : Char} : c.isLower ↔ 97 ≤ c.toNat ∧ c.toNat ≤ 122 := by
  apply Iff.trans (Bool.and_eq_true_iff ..)
  exact and_congr decide_eq_true_iff decide_eq_true_iff

theorem toLower_of_not_isUpper {c : Char} (h : ¬c.isUpper) : c.toLower = c :=
  dif_neg fun upper => h (decide_eq_true upper)

theorem toNat_toLower_of_isUpper {c : Char} (h : c.isUpper) : c.toLower.toNat = c.toNat + 32 := by
  have lowered : c.toLower.val = c.val + 32 := congrArg Char.val (dif_pos (of_decide_eq_true h))
  have bounds := isUpper_iff.1 h
  have sum : c.toLower.toNat = (c.toNat + 32) % 2 ^ 32 := congrArg UInt32.toNat lowered
  omega

theorem toLower_of_isLower {c : Char} (h : c.isLower) : c.toLower = c := by
  apply toLower_of_not_isUpper
  rw [isLower_iff] at h
  rw [isUpper_iff]
  omega

theorem isLower_toLower (c : Char) : c.toLower.isLower = c.isAlpha := by
  have split : c.isAlpha = (c.isUpper || c.isLower) := rfl
  rw [split]
  by_cases upper : c.isUpper
  · have bounds := isUpper_iff.1 upper
    have lowered := toNat_toLower_of_isUpper upper
    rw [upper, Bool.true_or, isLower_iff]
    omega
  · rw [toLower_of_not_isUpper upper, Bool.eq_false_iff.2 upper, Bool.false_or]

end DeepLink.Text
