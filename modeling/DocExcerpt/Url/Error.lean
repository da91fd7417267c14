import DocExcerpt.Text.Basic

/-!
# Why a text is not an absolute URL
-/

namespace DocExcerpt.Url

/-- The reasons for which a text is refused as an absolute URL. -/
inductive Error where
  | emptyHost
  | malformedDomain
  | malformedPort
  | malformedIpv4
  | malformedIpv6
  | malformedHostCharacter
  | relative
  deriving DecidableEq, Repr

def Error.message : Error → String
  | .emptyHost => "empty host"
  | .malformedDomain => "invalid international domain name"
  | .malformedPort => "invalid port number"
  | .malformedIpv4 => "invalid IPv4 address"
  | .malformedIpv6 => "invalid IPv6 address"
  | .malformedHostCharacter => "invalid domain character"
  | .relative => "relative URL without a base"

end DocExcerpt.Url
