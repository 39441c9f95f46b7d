/-!
Why a text is no URL.
-/

namespace ServerLogin

/-- The reasons for refusing a URL. -/
inductive UrlFault
  | emptyHost
  | badDomain
  | badPort
  | badIpv4
  | badIpv6
  | forbiddenCharacter
  | noScheme
deriving DecidableEq, Repr

def UrlFault.message : UrlFault → String
  | .emptyHost => "empty host"
  | .badDomain => "invalid international domain name"
  | .badPort => "invalid port number"
  | .badIpv4 => "invalid IPv4 address"
  | .badIpv6 => "invalid IPv6 address"
  | .forbiddenCharacter => "invalid domain character"
  | .noScheme => "relative URL without a base"

end ServerLogin
