import FeatureAudit.Url.Host

/-! Addresses of resources: a scheme, an authority where there is one, a path, a query and a
fragment. -/
namespace FeatureAudit

namespace Url

/-- What a scheme makes of the rest of an address. -/
inductive Scheme.Kind where
  | file
  | special
  | other
  deriving DecidableEq, Repr

def Scheme.kind (scheme : List Char) : Scheme.Kind :=
  if scheme = "file".toList then .file
  else if ["http", "https", "ws", "wss", "ftp"].any (·.toList = scheme) then .special
  else .other

/-- The port that goes without saying. -/
def Scheme.port? (scheme : List Char) : Option Nat :=
  if scheme = "http".toList ∨ scheme = "ws".toList then some 80
  else if scheme = "https".toList ∨ scheme = "wss".toList then some 443
  else if scheme = "ftp".toList then some 21
  else none

/-- User and password are kept as they are written, with the sign that ends them. -/
structure Authority where
  credentials : List Char
  host : Option Host
  port : Option Nat
  deriving DecidableEq, Repr

def Authority.empty : Authority := ⟨[], none, none⟩

def Authority.text (a : Authority) : List Char :=
  a.credentials ++ (a.host.map Host.text).getD [] ++
    (a.port.map fun n => ':' :: Nat.toDigits 10 n).getD []

end Url

structure Url where
  scheme : List Char
  authority : Option Url.Authority
  path : List Char
  query : Option (List Char)
  fragment : Option (List Char)
  deriving DecidableEq, Repr

namespace Url

def kind (u : Url) : Scheme.Kind := Scheme.kind u.scheme

/-- An address without an authority whose path is no path from a root: nothing is relative to it. -/
def isOpaqueText (u : Url) : Bool := u.authority.isNone && u.path.head? != some '/'

/-- A path that starts with two slashes would pass for an authority; a dot keeps the two apart. -/
def pathGuard (u : Url) : List Char :=
  if u.authority.isNone ∧ "//".toList <+: u.path then "/.".toList else []

def text (u : Url) : List Char :=
  u.scheme ++ ':' :: (u.authority.map fun a => '/' :: '/' :: a.text).getD [] ++ u.pathGuard ++
    u.path ++ (u.query.map ('?' :: ·)).getD [] ++ (u.fragment.map ('#' :: ·)).getD []

end Url
end FeatureAudit
