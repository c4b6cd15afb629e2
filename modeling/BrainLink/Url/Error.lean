/-
  Why a text is not a URL.

  Key definitions include:
    * `Url.Fault`
    * `Url.Fault.message`
-/

namespace BrainLink.Url

/- The ways in which a text fails to be a URL. -/
inductive Fault where
| emptyHost
| badDomainName
| badPort
| badIpv4
| badIpv6
| badHostCharacter
| noScheme
deriving DecidableEq, Repr

namespace Fault

/- The wording of each fault. -/
def message : Fault → String
| .emptyHost => "empty host"
| .badDomainName => "invalid international domain name"
| .badPort => "invalid port number"
| .badIpv4 => "invalid IPv4 address"
| .badIpv6 => "invalid IPv6 address"
| .badHostCharacter => "invalid domain character"
| .noScheme => "relative URL without a base"

end Fault

end BrainLink.Url
