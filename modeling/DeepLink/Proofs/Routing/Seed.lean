import DeepLink.Routing.Context
import Mathlib.Data.UInt
import Mathlib.Logic.Function.Basic

namespace DeepLink

namespace Bucket

def inverse : UInt32 := 0x359C449B

theorem prime_mul_inverse : prime * inverse = 1 := by decide

theorem inverse_mul_prime : inverse * prime = 1 := by decide

def unstep (h : UInt32) (b : UInt8) : UInt32 := (h * inverse) ^^^ b.toUInt32

theorem unstep_step (h : UInt32) (b : UInt8) : unstep (step h b) b = h := by
  rw [unstep, step, UInt32.mul_assoc, prime_mul_inverse, UInt32.mul_one, UInt32.xor_assoc, UInt32.xor_self,
    UInt32.xor_zero]

theorem step_unstep (h : UInt32) (b : UInt8) : step (unstep h b) b = h := by
  rw [step, unstep, UInt32.xor_assoc, UInt32.xor_self, UInt32.xor_zero, UInt32.mul_assoc, inverse_mul_prime,
    UInt32.mul_one]

theorem step_bijective (b : UInt8) : Function.Bijective (step · b) :=
  Function.bijective_iff_has_inverse.2 ⟨(unstep · b), (unstep_step · b), (step_unstep · b)⟩

theorem hashFrom_bijective (bs : List UInt8) : Function.Bijective (hashFrom · bs) := by
  induction bs with
  | nil => exact Function.bijective_id
  | cons b bs ih => exact ih.comp (step_bijective b)

theorem hash_append (xs s : List (List UInt8)) : hash (xs ++ s) = hashFrom (hash xs) s.flatten := by
  rw [hash_eq_flatten, hash_eq_flatten, List.flatten_append, hashFrom, List.foldl_append]
  rfl

theorem hash_append_inj {xs ys s : List (List UInt8)} : hash (xs ++ s) = hash (ys ++ s) ↔ hash xs = hash ys := by
  rw [hash_append, hash_append]
  exact (hashFrom_bijective s.flatten).injective.eq_iff

theorem of_congr {i j : String} (h : hash [Utf8.bytes i] = hash [Utf8.bytes j]) (seed : String) :
    of i seed = of j seed := by
  have seeded : hash [Utf8.bytes i, Utf8.bytes seed] = hash [Utf8.bytes j, Utf8.bytes seed] :=
    hash_append_inj (s := [Utf8.bytes seed]).2 h
  rw [of, of, seeded]

theorem hash_flatten (xs : List (List UInt8)) : hash xs = hash [xs.flatten] := by
  rw [hash_eq_flatten, hash_eq_flatten, List.flatten_singleton]

/-- Chunks count for what they hold together, and what follows them merges and separates no hashes. So identities with
one hash are in one bucket under every seed, and identities with two hashes have two under every seed. -/
theorem hash_classes_kept :
    (∀ xs, hash xs = hash [xs.flatten]) ∧
      (∀ xs ys s, hash (xs ++ s) = hash (ys ++ s) ↔ hash xs = hash ys) ∧
      ∀ i j : String,
        (hash [Utf8.bytes i] = hash [Utf8.bytes j] →
          ∀ (c : Context) (seed : Option String), (c.withIdentity i).bucket seed = (c.withIdentity j).bucket seed) ∧
        (hash [Utf8.bytes i] ≠ hash [Utf8.bytes j] →
          ∀ seed : String, hash [Utf8.bytes i, Utf8.bytes seed] ≠ hash [Utf8.bytes j, Utf8.bytes seed]) := by
  refine ⟨hash_flatten, fun xs ys s => hash_append_inj, fun i j => ⟨?merged, ?separated⟩⟩
  case merged =>
    intro same c seed
    exact of_congr same (seed.getD "")
  case separated =>
    intro different seed same
    apply different
    exact hash_append_inj (s := [Utf8.bytes seed]).1 same

example : hash [Utf8.bytes "costarring"] = hash [Utf8.bytes "liquid"] := by decide

end Bucket

end DeepLink
