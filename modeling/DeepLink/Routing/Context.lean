import DeepLink.Routing.Bucket
import DeepLink.Rules.Os
import DeepLink.Text.Case
import DeepLink.Time.Instant

namespace DeepLink

inductive RolloutKey where
  | identity (name : String)
  | bucket (n : Nat)
deriving DecidableEq, Repr

structure Context where
  os : Os
  lang : String
  now : Instant
  rollout : RolloutKey
deriving DecidableEq, Repr

namespace Context

def new (os : Os) (lang : String) (now : Instant) : Context := ⟨os, Text.lower lang, now, .bucket 0⟩

def atTime (c : Context) (now : Instant) : Context := { c with now }

def withIdentity (c : Context) (name : String) : Context := { c with rollout := .identity name }

def withBucket (c : Context) (n : Nat) : Context := { c with rollout := .bucket (min n 99) }

def bucket (c : Context) (seed : Option String) : Nat :=
  match c.rollout with
  | .identity name => Bucket.of name (seed.getD "")
  | .bucket n => n

end Context

end DeepLink
