import FeatureAudit.Url.Path

/-! Addresses read from text, on their own or relative to another one. Blanks and controls around the
text do not count, and neither do tabs and line ends inside it. -/
namespace FeatureAudit.Url

/-- The characters of a text that count. -/
def significant (s : String) : List Char :=
  let outer (c : Char) : Bool := c.toNat ≤ 32
  ((s.toList.dropWhile outer).reverse.dropWhile outer).reverse.filter fun c =>
    c != '\t' && c != '\n' && c != '\r'

/-- The scheme at the start of a text, in small letters, and what follows its colon. -/
def cutScheme (cs : List Char) : Option (List Char × List Char) :=
  let isSchemeChar (c : Char) : Bool := c.isAlphanum || c == '+' || c == '-' || c == '.'
  match cs with
  | c :: _ =>
    if c.isAlpha then
      match cs.dropWhile isSchemeChar with
      | ':' :: r => some ((cs.takeWhile isSchemeChar).map Char.toLower, r)
      | _ => none
    else none
  | [] => none

/-- The address with the fragment that a text spells. -/
def withFragment (u : Url) (cs : List Char) : Url :=
  { u with fragment := some (Percent.encode Percent.fragment cs) }

/-- The address with the query and the fragment that follow its path. -/
def withEnding (u : Url) : List Char → Url
  | '?' :: r =>
    let set := if u.kind = .other then Percent.query else Percent.specialQuery
    let v := { u with query := some (Percent.encode set (r.takeWhile (· != '#'))), fragment := none }
    match r.dropWhile (· != '#') with
    | _ :: f => v.withFragment f
    | [] => v
  | '#' :: f => { u with query := none }.withFragment f
  | _ => { u with query := none, fragment := none }

/-- The address with a path and what follows it. -/
def withWalk (u : Url) (w : Path.Walk) : Url := { u with path := w.path }.withEnding w.rest

/-! Authorities. -/

/-- Whether an authority ends at a character. -/
def endsAuthority (k : Scheme.Kind) (c : Char) : Bool := isSlash k c || endsPath c

/-- A text cut at the last of its characters of a kind. -/
def cutLast (mark : Char) (cs : List Char) : Option (List Char × List Char) :=
  match cs.reverse.dropWhile (· != mark) with
  | [] => none
  | _ :: front => some (front.reverse, (cs.reverse.takeWhile (· != mark)).reverse)

/-- User and password, written with the sign that ends them unless both are empty. -/
def writeCredentials (cs : List Char) : List Char :=
  let encoded (part : List Char) : List Char := Percent.encode Percent.credentials part
  let written := encoded (cs.takeWhile (· != ':')) ++
    match cs.dropWhile (· != ':') with
    | _ :: c :: r => ':' :: encoded (c :: r)
    | _ => []
  if written.isEmpty then [] else written ++ ['@']

/-- The credentials of an authority and the text behind them. -/
def readCredentials (k : Scheme.Kind) (cs : List Char) : Except Error (List Char × List Char) :=
  let front := cs.takeWhile (!endsAuthority k ·)
  let rest := cs.dropWhile (!endsAuthority k ·)
  match cutLast '@' front with
  | none => .ok ([], cs)
  | some ([], []) => if rest.isEmpty then .ok ([], []) else .error .emptyHost
  | some (user, host) => .ok (writeCredentials user, host ++ rest)

/-- A host up to a colon outside brackets or the end of the authority, and what follows it. -/
def cutHost (k : Scheme.Kind) (inBrackets : Bool) : List Char → List Char × List Char
  | [] => ([], [])
  | c :: r =>
    if (c = ':' ∧ !inBrackets) ∨ endsAuthority k c then ([], c :: r)
    else
      let (host, rest) := cutHost k (c = '[' || (inBrackets && c != ']')) r
      (c :: host, rest)

def readHost (k : Scheme.Kind) (cs : List Char) : Except Error (Option Host × List Char) :=
  match k, cutHost k false cs with
  | .other, ([], ':' :: _) => .error .emptyHost
  | .other, ([], rest) => .ok (none, rest)
  | .other, (host, rest) => (Host.ofText host).map fun h => (some h, rest)
  | _, ([], _) => .error .emptyHost
  | _, (host, rest) => (Host.ofDomain host).map fun h => (some h, rest)

/-- A port that does not go without saying, and what follows it. -/
def readPort (scheme cs : List Char) : Except Error (Option Nat × List Char) :=
  match cs with
  | ':' :: r =>
    let digits := r.takeWhile Char.isDigit
    let rest := r.dropWhile Char.isDigit
    let port := digits.foldl (fun n c => 10 * n + (c.toNat - 48)) 0
    if 65535 < port ∨ !(rest.head?.map fun c => isSlash .special c || endsPath c).getD true then
      .error .port
    else if digits.isEmpty ∨ Scheme.port? scheme = some port then .ok (none, rest)
    else .ok (some port, rest)
  | _ => .ok (none, cs)

/-- The address that starts behind the two slashes of an authority. -/
def ofAuthority (scheme cs : List Char) : Except Error Url := do
  let k := Scheme.kind scheme
  let (credentials, r) ← readCredentials k cs
  let (host, r) ← readHost k r
  let (port, r) ← readPort scheme r
  if host.isNone ∧ !credentials.isEmpty then throw .emptyHost
  return withWalk ⟨scheme, some ⟨credentials, host, port⟩, [], none, none⟩
    (Path.afterAuthority k r)

/-! Files. -/

def ofFileHost (host : Option Host) : Url :=
  ⟨"file".toList, some { Authority.empty with host }, [], none, none⟩

/-- The address of a file behind two slashes. A drive and the local host are no hosts. -/
def ofFileAuthority (cs : List Char) : Except Error Url := do
  let host := cs.takeWhile (!endsAuthority .file ·)
  let rest := cs.dropWhile (!endsAuthority .file ·)
  let whole (r : List Char) : Url := (ofFileHost none).withWalk (Path.walk .file ['/'] r)
  if Path.isDriveWritten host then return whole cs
  if host.isEmpty then return whole rest
  match ← Host.ofDomain host with
  | .name ['l', 'o', 'c', 'a', 'l', 'h', 'o', 's', 't'] => return whole rest
  | h =>
    let w := Path.afterAuthority .file rest
    return (ofFileHost (if w.drive then none else some h)).withWalk w

/-- The drive of a path of files. -/
def pathDrive? (p : List Char) : Option (List Char) :=
  match Path.names p with
  | first :: _ => if Path.isDrive first then some first else none
  | [] => none

/-- The address of a file behind one slash: its drive or else its host are those of the base. -/
def ofFileRoot (base : Option Url) (cs : List Char) : Url :=
  let own := (ofFileHost none).withWalk (Path.walk .file [] cs)
  match base with
  | none => own
  | some b =>
    if Path.startsWithDrive (cs.drop 1) then own
    else
      match pathDrive? b.path with
      | some drive => (ofFileHost none).withWalk (Path.walk .file ('/' :: drive) cs)
      | none => (ofFileHost (b.authority.bind (·.host))).withWalk (Path.walk .file [] cs)

/-- An address relative to a base: only its end differs. -/
def withNewEnding (base : Url) (cs : List Char) : Option Url :=
  match cs with
  | [] => some { base with fragment := none }
  | '?' :: r => some (base.withEnding ('?' :: r))
  | '#' :: r => some (base.withFragment r)
  | _ => none

def ofFile (base : Option Url) (cs : List Char) : Except Error Url :=
  match cs with
  | c :: d :: r =>
    if isSlash .file c && isSlash .file d then ofFileAuthority r
    else if isSlash .file c then .ok (ofFileRoot base cs)
    else .ok (beside cs)
  | [c] => if isSlash .file c then .ok (ofFileRoot base cs) else .ok (beside cs)
  | [] => .ok (beside cs)
where
  beside (cs : List Char) : Url :=
    let own := (ofFileHost none).withWalk (Path.walk .file ['/'] cs)
    match base with
    | none => own
    | some b =>
      match b.withNewEnding cs with
      | some u => u
      | none =>
        if Path.startsWithDrive cs then own
        else
          b.withWalk (Path.walk .file (Path.dropName .file b.path) cs)

/-! Any scheme. -/

/-- An address with the scheme of its base and, unless it starts with two slashes, the authority. -/
def ofRelative (base : Url) (cs : List Char) : Except Error Url :=
  let k := base.kind
  match base.withNewEnding cs with
  | some u => .ok u
  | none =>
    let slashes := cs.takeWhile (isSlash .special)
    if 2 ≤ slashes.length then
      ofAuthority base.scheme
        (if "//".toList <+: cs then cs.drop 2 else cs.dropWhile (isSlash .special))
    else if slashes.length = 1 then .ok (base.withWalk (Path.walk k ['/'] (cs.drop 1)))
    else
      let front := Path.dropName k base.path
      .ok (base.withWalk (Path.walk k (if front.isEmpty then ['/'] else front) cs))

/-- An address with a scheme of its own, which may leave out what it has in common with a base. -/
def ofScheme (base : Option Url) (scheme cs : List Char) : Except Error Url :=
  let same := base.filter (·.scheme = scheme)
  match Scheme.kind scheme with
  | .file => ofFile same cs
  | .special =>
    match same with
    | some b =>
      if (cs.takeWhile (isSlash .special)).length < 2 then ofRelative b cs
      else ofAuthority scheme (cs.dropWhile (isSlash .special))
    | none => ofAuthority scheme (cs.dropWhile (isSlash .special))
  | .other =>
    let bare : Url := ⟨scheme, none, [], none, none⟩
    match cs with
    | '/' :: '/' :: r => ofAuthority scheme r
    | '/' :: r => .ok (bare.withWalk (Path.walk .other ['/'] r))
    | _ =>
      .ok ({ bare with path := Percent.encode Percent.controls (cs.takeWhile (!endsPath ·)) }.withEnding
        (cs.dropWhile (!endsPath ·)))

def read (base : Option Url) (s : String) : Except Error Url :=
  let cs := significant s
  match cutScheme cs with
  | some (scheme, r) => ofScheme base scheme r
  | none =>
    match base with
    | none => .error .noBase
    | some b =>
      match cs with
      | '#' :: r => .ok (b.withFragment r)
      | _ =>
        if b.isOpaqueText then .error .baseWithoutPath
        else if b.kind = .file then ofFile (some b) cs
        else ofRelative b cs

/-- The address that a text spells on its own. -/
def parse (s : String) : Except Error Url := read none s

/-- The address that a text spells relative to another one. -/
def join (base : Url) (s : String) : Except Error Url := read (some base) s

def print (u : Url) : String := String.ofList u.text

/-- A reference made absolute; one that spells no address stays as it is. -/
def resolve (base : Option Url) (reference : String) : String :=
  match parse reference, base with
  | .ok u, _ => u.print
  | .error _, some b =>
    match b.join reference with
    | .ok u => u.print
    | .error _ => reference
  | .error _, none => reference

end FeatureAudit.Url
