import FeatureAudit.Idna.Domain
import FeatureAudit.Url.Address
import FeatureAudit.Url.Percent

/-! Hosts: a name, or an address. Where the scheme has a fixed meaning, a name is a domain name, and
one that ends in a number has to be an address; elsewhere it is any text without delimiters. -/
namespace FeatureAudit

namespace Url

inductive Error where
  | noBase
  | baseWithoutPath
  | emptyHost
  | domainName
  | hostCharacter
  | ipv4Address
  | ipv6Address
  | port
  deriving DecidableEq, Repr

def Error.message : Error → String
  | noBase => "relative URL without a base"
  | baseWithoutPath => "relative URL with a cannot-be-a-base base"
  | emptyHost => "empty host"
  | domainName => "invalid international domain name"
  | hostCharacter => "invalid domain character"
  | ipv4Address => "invalid IPv4 address"
  | ipv6Address => "invalid IPv6 address"
  | port => "invalid port number"

inductive Host where
  | name (text : List Char)
  | ipv4 (number : Nat)
  | ipv6 (groups : List Nat)
  deriving DecidableEq, Repr

namespace Host

def text : Host → List Char
  | name t => t
  | ipv4 n => ipv4Text n
  | ipv6 gs => '[' :: ipv6Text gs ++ [']']

/-- An address between brackets, if the text opens with one. -/
def bracketed? : List Char → Option (Except Error Host)
  | '[' :: r =>
    if r.getLast? = some ']' then
      match ipv6? r.dropLast with
      | some gs => some (.ok (ipv6 gs))
      | none => some (.error .ipv6Address)
    else some (.error .ipv6Address)
  | _ => none

/-- The host of a scheme with a fixed meaning. -/
def ofDomain (cs : List Char) : Except Error Host :=
  match bracketed? cs with
  | some answer => answer
  | none =>
    match (Percent.utf8? (Percent.decode cs)).bind fun s => Idna.toAscii? s.toList with
    | none => .error .domainName
    | some [] => .error .emptyHost
    | some domain =>
      if endsInNumber domain then
        match ipv4? domain with
        | some n => .ok (ipv4 n)
        | none => .error .ipv4Address
      else .ok (name domain)

/-- Characters that end a host or are its delimiters. -/
def isDelimiter (c : Char) : Bool :=
  c == '\x00' || c == '\t' || c == '\n' || c == '\r' || c == ' ' || c == '#' || c == '/' ||
    c == ':' || c == '<' || c == '>' || c == '?' || c == '@' || c == '[' || c == '\\' || c == ']' ||
    c == '^' || c == '|'

/-- The host of any other scheme. -/
def ofText (cs : List Char) : Except Error Host :=
  match bracketed? cs with
  | some answer => answer
  | none =>
    if cs.any isDelimiter then .error .hostCharacter
    else .ok (name (Percent.encode Percent.controls cs))

end Host
end Url
end FeatureAudit
