namespace DeepLink.Url

inductive Fault where
  | noBase | emptyHost | badDomain | badHostCharacter | badPort | badIpv4 | badIpv6
deriving DecidableEq, Repr

def Fault.message : Fault → String
  | noBase => "relative URL without a base"
  | emptyHost => "empty host"
  | badDomain => "invalid international domain name"
  | badHostCharacter => "invalid domain character"
  | badPort => "invalid port number"
  | badIpv4 => "invalid IPv4 address"
  | badIpv6 => "invalid IPv6 address"

end DeepLink.Url
