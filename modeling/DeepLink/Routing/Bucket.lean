import DeepLink.Text.Utf8

namespace DeepLink.Bucket

def basis : UInt32 := 0x811C9DC5

def prime : UInt32 := 0x01000193

def step (h : UInt32) (b : UInt8) : UInt32 := (h ^^^ b.toUInt32) * prime

def hashFrom (h : UInt32) (bs : List UInt8) : UInt32 := bs.foldl step h

def hash (chunks : List (List UInt8)) : UInt32 := chunks.foldl hashFrom basis

theorem hash_eq_flatten (chunks : List (List UInt8)) : hash chunks = hashFrom basis chunks.flatten := by
  simp only [hash, hashFrom, List.foldl_flatten]
  rfl

def count : Nat := 100

def of (identity seed : String) : Nat := (hash [Utf8.bytes identity, Utf8.bytes seed]).toNat % count

theorem of_lt (identity seed : String) : of identity seed < count := Nat.mod_lt _ (by decide)

end DeepLink.Bucket
