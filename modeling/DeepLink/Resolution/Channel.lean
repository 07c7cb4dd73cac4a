import DeepLink.Visitor.Environment

/-!
The channel on which a host reports visibility. It holds the last value and counts what was sent, so
that who waits sees that there is something new, and of several values only the last.
-/

namespace DeepLink

structure Channel where
  value : Visibility
  version : Nat := 0
  closed : Bool := false
deriving DecidableEq, Repr

namespace Channel

def apply (c : Channel) : Signal → Channel
  | .send v => if c.closed then c else { c with value := v, version := c.version + 1 }
  | .close => { c with closed := true }

def applyAll (c : Channel) (signals : List Signal) : Channel := signals.foldl apply c

theorem applyAll_append (c : Channel) (xs ys : List Signal) :
    c.applyAll (xs ++ ys) = (c.applyAll xs).applyAll ys := List.foldl_append

theorem apply_of_closed {c : Channel} (h : c.closed) (s : Signal) : c.apply s = c := by
  cases s <;> cases c <;> simp_all [apply]

/-- The version that a new subscriber has seen. A closed channel takes no new subscriber; one that
subscribed before everything else is still there. -/
def subscribe (c : Channel) : Reports → Option Nat
  | .none => none
  | .fresh => if c.closed then none else some c.version
  | .stale => some 0

def hides (c : Channel) (seen : Nat) : Bool := c.version ≠ seen && c.value = .hidden

end Channel

structure Event where
  time : Nat
  signal : Signal
deriving DecidableEq, Repr

/-- The first time at which a subscriber finds the page newly hidden. Signals of one time come
together: it looks only after the last of them. -/
def hiddenAmong (seen : Nat) (c : Channel) : List Event → Option Nat
  | [] => none
  | e :: rest =>
    let c := c.apply e.signal
    if rest.head?.any (·.time = e.time) then hiddenAmong seen c rest
    else if c.hides seen then some e.time
    else hiddenAmong c.version c rest

def hiddenFrom (seen : Nat) (c : Channel) (now : Nat) (ahead : List Event) : Option Nat :=
  if c.hides seen then some now else hiddenAmong c.version c ahead

end DeepLink
