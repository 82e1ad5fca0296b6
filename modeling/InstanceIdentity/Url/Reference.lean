import InstanceIdentity.Text.Split

/-!
# References

An address, complete or relative, taken apart into its components. A component that
is absent and one that is empty are the same here. The last segment of a path may
have parameters behind a semicolon; they are a component of their own where they are
asked for.

## Main definitions

* `Url.Reference` — the components
* `Url.Reference.parse` — taking a text apart
* `Url.Reference.splitParameters` — taking the parameters off the path
* `Url.Reference.text` — putting the components together
-/

namespace InstanceIdentity

namespace Url

/-- The components of an address. -/
structure Reference where
  scheme : List Char
  authority : List Char
  path : List Char
  parameters : List Char := []
  query : List Char
  fragment : List Char
  deriving DecidableEq, Repr

/-- The characters of a scheme. -/
def isSchemeChar (c : Char) : Bool := c.isAlphanum || c = '+' || c = '-' || c = '.'

/-- The scheme in front of a colon, in lower case, and the text after it. Without a scheme the
whole text is left. -/
def splitScheme (s : List Char) : List Char × List Char :=
  match s.takeWhile isSchemeChar, s.dropWhile isSchemeChar with
  | c :: name, ':' :: rest =>
    if c.isAlpha then ((c :: name).map Char.toLower, rest) else ([], s)
  | _, _ => ([], s)

/-- The authority behind two slashes, up to a character that ends it, and the text after it. -/
def splitAuthority (endsAuthority : Char → Bool) : List Char → List Char × List Char
  | '/' :: '/' :: rest =>
    (rest.takeWhile (!endsAuthority ·), rest.dropWhile (!endsAuthority ·))
  | s => ([], s)

/-- The schemes whose addresses have an authority. -/
def hierarchicalSchemes : List String :=
  ["ftp", "http", "gopher", "nntp", "telnet", "imap", "wais", "file", "mms", "https", "shttp",
   "snews", "prospero", "rtsp", "rtspu", "rsync", "svn", "svn+ssh", "sftp", "nfs", "git",
   "git+ssh", "ws", "wss"]

namespace Reference

/-- Takes a text apart. The characters that end an authority differ between addresses that are typed
in and references that are followed. -/
def parse (endsAuthority : Char → Bool) (s : List Char) : Reference :=
  let (scheme, rest) := splitScheme s
  let (authority, rest) := splitAuthority endsAuthority rest
  let (rest, fragment) := Text.splitFirst '#' rest
  let (path, query) := Text.splitFirst '?' rest
  { scheme, authority, path, query, fragment }

/-- The schemes whose paths may have parameters. No scheme at all counts as one of them. -/
def parameterSchemes : List String :=
  ["", "ftp", "hdl", "prospero", "http", "imap", "https", "shttp", "rtsp", "rtspu", "sip", "sips",
   "mms", "sftp", "tel"]

/-- Takes the parameters off the last segment of the path. -/
def splitParameters (r : Reference) : Reference :=
  if parameterSchemes.contains (String.ofList r.scheme) then
    let segment := (r.path.reverse.takeWhile (· ≠ '/')).reverse
    let (name, parameters) := Text.splitFirst ';' segment
    { r with
      path := r.path.take (r.path.length - segment.length) ++ name
      parameters := parameters }
  else r

/-- The path with the parameters of its last segment. -/
def fullPath (r : Reference) : List Char :=
  if r.parameters = [] then r.path else r.path ++ ';' :: r.parameters

/-- The authority and the path. A path behind an authority begins with a slash. -/
def hierarchy (r : Reference) : List Char :=
  let path := r.fullPath
  if r.authority ≠ [] ∨
      (hierarchicalSchemes.contains (String.ofList r.scheme) ∧ path.take 2 ≠ ['/', '/']) then
    let path := if path = [] ∨ path.head? = some '/' then path else '/' :: path
    '/' :: '/' :: (r.authority ++ path)
  else path

/-- The components put together. -/
def text (r : Reference) : List Char :=
  (if r.scheme = [] then [] else r.scheme ++ [':']) ++ r.hierarchy ++
    (if r.query = [] then [] else '?' :: r.query) ++
    (if r.fragment = [] then [] else '#' :: r.fragment)

end Reference

end Url

end InstanceIdentity
