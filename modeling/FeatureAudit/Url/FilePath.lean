import FeatureAudit.Url.Parser

/-! Paths of files and the addresses that stand for them. -/
namespace FeatureAudit.Url

/-- The bytes of the file path that an address stands for, unless it names another host. A path that
ends with the letter of a drive gets a slash. -/
def filePath? (u : Url) : Option (List UInt8) :=
  if u.isOpaqueText ∨ (u.authority.bind (·.host)).any (· ≠ .name "localhost".toList) then none
  else
    let bytes := (Path.names u.path).flatMap fun name => 47 :: Percent.decode name
    match bytes.reverse with
    | mark :: letter :: _ :: _ =>
      if (mark = 58 ∨ mark = 124) ∧ (Char.ofNat letter.toNat).isAlpha then some (bytes ++ [47])
      else some bytes
    | _ => some bytes

/-- The address of a file with an absolute path, given by its bytes. -/
def ofFilePath (path : List UInt8) : Url :=
  let names := (Text.splitWhere (· == 47) path).filter (!·.isEmpty)
  let encoded := names.flatMap fun name => '/' :: Percent.encodeBytes Percent.fileName name
  { ofFileHost none with path := if encoded.isEmpty then ['/'] else encoded }

end FeatureAudit.Url
