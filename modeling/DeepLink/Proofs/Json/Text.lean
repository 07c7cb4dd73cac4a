import DeepLink.Json.Parser
import DeepLink.Json.Printer
import Mathlib.Tactic.Common

namespace DeepLink.Json.Reader

theorem hexValue?_hexDigit : ∀ n < 16, hexValue? (hexDigit n) = some n := by decide

theorem hex_control {n : Nat} (h : n < 0x20) (s : List Char) :
    hex ('0' :: '0' :: hexDigit (n / 16) :: hexDigit (n % 16) :: s) = .ok (n, s) := by
  have high := hexValue?_hexDigit (n / 16) (by omega)
  have low := hexValue?_hexDigit (n % 16) (by omega)
  have zero : hexValue? '0' = some 0 := rfl
  have digits : ['0', '0', hexDigit (n / 16), hexDigit (n % 16)].mapM hexValue? = some [0, 0, n / 16, n % 16] := by
    simp [zero, high, low]
  simp only [hex, List.take_succ_cons, List.take_zero, digits, List.drop_succ_cons, List.drop_zero,
    Except.ok.injEq, Prod.mk.injEq, and_true]
  omega

theorem unescape_control {c : Char} (h : c.toNat < 0x20) (s : List Char) :
    unescape ('u' :: '0' :: '0' :: hexDigit (c.toNat / 16) :: hexDigit (c.toNat % 16) :: s) = .ok (c, s) := by
  have low : ¬(0xDC00 ≤ c.toNat ∧ c.toNat ≤ 0xDFFF) := by omega
  have high : ¬(0xD800 ≤ c.toNat ∧ c.toNat ≤ 0xDBFF) := by omega
  simp only [unescape, hex_control h, if_neg low, if_neg high, Char.ofNat_toNat]

theorem stringTail_escaped {s r : List Char} {c : Char} (h : unescape s = .ok (c, r)) :
    stringTail ('\\' :: s) = (stringTail r).as (c :: ·) := by
  rw [stringTail]
  split <;> simp_all

theorem stringTail_plain {c : Char} (hq : c ≠ '"') (hb : c ≠ '\\') (hc : ¬c.toNat < 0x20) (s : List Char) :
    stringTail (c :: s) = (stringTail s).as (c :: ·) := by
  rw [stringTail, if_neg hc]
  · rintro rfl
    exact hq rfl
  · rintro rfl
    exact hb rfl

theorem stringTail_escape (c : Char) (s : List Char) :
    stringTail (escape c ++ s) = (stringTail s).as (c :: ·) := by
  by_cases quote : c = '"'
  · subst quote
    exact stringTail_escaped rfl
  by_cases backslash : c = '\\'
  · subst backslash
    exact stringTail_escaped rfl
  -- The short escapes, then the other control characters, then what stands for itself.
  by_cases short : c ∈ ['\x08', '\x0c', '\n', '\r', '\t']
  · simp only [List.mem_cons, List.not_mem_nil, or_false] at short
    rcases short with rfl | rfl | rfl | rfl | rfl <;> exact stringTail_escaped rfl
  simp only [List.mem_cons, List.not_mem_nil, or_false, not_or] at short
  rw [escape, if_neg quote, if_neg backslash, if_neg short.1, if_neg short.2.1, if_neg short.2.2.1,
    if_neg short.2.2.2.1, if_neg short.2.2.2.2]
  by_cases control : c.toNat < 0x20
  · rw [if_pos control]
    exact stringTail_escaped (unescape_control control s)
  · rw [if_neg control]
    exact stringTail_plain quote backslash control s

theorem stringTail_flatMap (cs s : List Char) :
    stringTail (cs.flatMap escape ++ '"' :: s) = .ok (cs, s) := by
  induction cs with
  | nil => rw [List.flatMap_nil, List.nil_append, stringTail]
  | cons c cs ih =>
    rw [List.flatMap_cons, List.append_assoc, stringTail_escape, ih]
    rfl

end DeepLink.Json.Reader
