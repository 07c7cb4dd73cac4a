import DeepLink.Url.Domain
import DeepLink.Url.Fault
import DeepLink.Url.Ipv4
import DeepLink.Url.Ipv6

namespace DeepLink.Url.Host

def bracketed (s : List Char) : Except Fault Unit :=
  if s.getLast? = some ']' ∧ Ipv6.isValid s.dropLast then .ok () else .error .badIpv6

def domain (s : List Char) : Except Fault Unit :=
  match s with
  | '[' :: inside => bracketed inside
  | _ =>
    match (Utf8.decode? (percentDecode s)).bind Domain.normalized? with
    | none => .error .badDomain
    | some [] => .error .emptyHost
    | some name =>
      if Ipv4.isCandidate name && !Ipv4.isValid name then .error .badIpv4 else .ok ()

def isForbidden (c : Char) : Bool := "\x00\t\n\r #/:<>?@[\\]^|".toList.contains c

def plain (s : List Char) : Except Fault Unit :=
  match s with
  | '[' :: inside => bracketed inside
  | _ => if s.any isForbidden then .error .badHostCharacter else .ok ()

end DeepLink.Url.Host
