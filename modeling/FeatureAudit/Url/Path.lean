import FeatureAudit.Url.Basic

/-! Paths, built name by name. A name of one dot stands for the place reached so far, one of two dots
for the place above it. A path of files may start with the letter of a drive, which is never left. -/
namespace FeatureAudit.Url

def isSlash (k : Scheme.Kind) (c : Char) : Bool := c == '/' || (c == '\\' && k != .other)

/-- Characters that end a path. -/
def endsPath (c : Char) : Bool := c == '?' || c == '#'

namespace Path

/-- A letter and a colon. -/
def isDrive : List Char → Bool
  | [a, ':'] => a.isAlpha
  | _ => false

/-- A letter and a colon or a bar. -/
def isDriveWritten : List Char → Bool
  | [a, b] => a.isAlpha && (b == ':' || b == '|')
  | _ => false

/-- Whether a text starts with the letter of a drive as a whole name. -/
def startsWithDrive : List Char → Bool
  | [a, b] => isDriveWritten [a, b]
  | a :: b :: c :: _ => isDriveWritten [a, b] && (c == '/' || c == '\\' || endsPath c)
  | _ => false

def isHere (name : List Char) : Bool :=
  [".", "%2e"].any (·.toList = name.map Char.toLower)

def isAbove (name : List Char) : Bool :=
  ["..", ".%2e", "%2e.", "%2e%2e"].any (·.toList = name.map Char.toLower)

/-- The path up to its last slash, and what follows that slash. -/
def cutLastSlash (p : List Char) : List Char × List Char :=
  let last := p.reverse.takeWhile (· != '/')
  (p.take (p.length - last.length), last.reverse)

/-- The path without its last name; the letter of a drive stays. -/
def dropName (k : Scheme.Kind) (p : List Char) : List Char :=
  let (front, last) := cutLastSlash p
  if k = .file ∧ isDrive last then p else front

def endSlash (p : List Char) : List Char := if p.getLast? = some '/' then p else p ++ ['/']

/-- The path without the slash at its end, unless that slash ends the root or a drive. -/
def dropEndSlash (p : List Char) : List Char :=
  if p.getLast? = some '/' then
    let front := p.dropLast
    let (upper, name) := cutLastSlash front
    if upper.isEmpty || startsWithDrive (name ++ ['/']) then p else front
  else p

/-- The place above the one that a path leads to. -/
def above (k : Scheme.Kind) (p : List Char) : List Char := dropName k (dropEndSlash p)

/-- A path with one name more, behind which a slash may stand; and whether the name is a drive,
which takes the place of the host. -/
def close (k : Scheme.Kind) (p name : List Char) (slash : Bool) : List Char × Bool :=
  let ended (q : List Char) : List Char := if slash then q ++ ['/'] else q
  if isAbove name then (if slash then endSlash (above k p) else above k p, false)
  else if isHere name then (endSlash p, false)
  else if k = .file ∧ p.length = 1 ∧ isDriveWritten name then
    (ended (p ++ name.take 1 ++ [':']), true)
  else (ended (p ++ name), false)

/-- A path, whether a drive took the place of the host, and what follows the path. -/
structure Walk where
  path : List Char
  drive : Bool
  rest : List Char

/-- What follows a drive is a name of its own, even without a slash between. -/
def partDrive (k : Scheme.Kind) (p : List Char) : List Char :=
  if k = .file ∧ isDrive (p.drop 1) then p ++ ['/'] else p

/-- The path that a text adds to a path and to the start of a name. -/
def walkNames (k : Scheme.Kind) (p name : List Char) (drive : Bool) : List Char → Walk
  | [] =>
    let (q, d) := close k p name false
    ⟨q, drive || d, []⟩
  | c :: r =>
    if isSlash k c then
      let (q, d) := close k p name true
      walkNames k q [] (drive || d) r
    else if endsPath c then
      let (q, d) := close k p name false
      ⟨q, drive || d, c :: r⟩
    else
      walkNames k (partDrive k p) (name ++ Percent.encodeChar Percent.path c) drive r

/-- The path that a text adds to a path. A path of files has one slash at its start. -/
def walk (k : Scheme.Kind) (p cs : List Char) : Walk :=
  let w := walkNames k p [] false cs
  if k = .file then { w with path := '/' :: w.path.dropWhile (· == '/') } else w

/-- The path that starts behind an authority. -/
def afterAuthority (k : Scheme.Kind) (cs : List Char) : Walk :=
  match k, cs with
  | .other, [] => walk k [] []
  | .other, c :: r =>
    if endsPath c then ⟨[], false, c :: r⟩
    else if c = '/' then walk k [] (c :: r)
    else walk k ['/'] (c :: r)
  | k, c :: r => if isSlash k c then walk k ['/'] r else walk k ['/'] (c :: r)
  | k, [] => walk k ['/'] []

/-- The names of a path from a root. -/
def names (p : List Char) : List (List Char) := Text.splitWhere (· == '/') (p.drop 1)

end Path
end FeatureAudit.Url
