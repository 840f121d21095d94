import FeatureAudit.Disk.Basic
import FeatureAudit.Fetch.Basic
import FeatureAudit.Url.FilePath

/-! Resources by their addresses: those of files are on a disk, those of the web are asked for in a
network. -/
namespace FeatureAudit.Fetch

/-- What a server answers: a status, and the text of the resource unless it cannot be had. -/
structure Response where
  status : Nat
  text : Except String String

/-- What comes of asking for addresses: a response, or why there is none. -/
abbrev Network := Url → Except String Response

/-- A network in which nobody answers. -/
def Network.silent : Network := fun u =>
  .error ("error sending request for url (" ++ String.ofList u.text ++ ")")

/-- A response brings a text if its status tells of success. -/
def Response.answer (r : Response) : Answer :=
  if 200 ≤ r.status ∧ r.status < 300 then r.text.mapError .transport else .error (.status r.status)

/-- Asks a network for an address. -/
def ask (network : Network) (u : Url) : Answer :=
  match network u with
  | .ok r => r.answer
  | .error cause => .error (.transport cause)

/-- Fetches a resource. Of all schemes only those of files and of the web are served. -/
def resource [Monad m] (disk : Disk m) (address : String) (network : Network := .silent) :
    m Answer := do
  let failed (cause : String) : Answer := .error (.transport cause)
  match Url.parse address with
  | .error e => return failed e.message
  | .ok u =>
    if u.kind = .file then
      match u.filePath? with
      | none => return failed ("invalid file url: " ++ address)
      | some bytes =>
        match ← disk.read ⟨bytes⟩ with
        | .ok text => return .ok text
        | .error e => return failed e.message
    else if u.scheme = "http".toList ∨ u.scheme = "https".toList then return ask network u
    else
      return failed ("builder error for url (" ++ String.ofList u.text ++
        "): URL scheme is not allowed")

end FeatureAudit.Fetch
