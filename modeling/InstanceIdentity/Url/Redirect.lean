import InstanceIdentity.Url.Defect
import InstanceIdentity.Url.Path
import InstanceIdentity.Url.Percent

/-!
# Where a redirect leads

The location of a redirect is a reference, seen from the address that answered. It
may leave out the scheme, the authority or parts of the path. A location without a
fragment keeps the fragment that was asked for last.

## Main definitions

* `Url.join` — the address that a reference stands for
* `Url.resolve` — the address and the fragment that a location stands for
-/

namespace InstanceIdentity

namespace Url

/-- A reference without an authority, seen from an address. A path that is empty and has no
parameters is that of the address. -/
def joinReference (base r : Reference) : List Char :=
  if r.path = [] ∧ r.parameters = [] then
    Reference.text
      { base with query := if r.query = [] then base.query else r.query, fragment := r.fragment }
  else
    Reference.text
      { base with
        path := joinPath base.path r.path
        parameters := r.parameters
        query := r.query
        fragment := r.fragment }

/-- The address that a reference stands for, seen from an address. -/
def join (current reference : List Char) : Except Defect (List Char) := do
  if reference = [] then .ok current
  else
    let base ← takeApart current
    let r ← takeApart reference
    if r.scheme ≠ [] ∧ r.scheme ≠ base.scheme then .ok reference
    else if r.authority ≠ [] then
      .ok (Reference.text { r.splitParameters with scheme := base.scheme })
    else .ok (joinReference base.splitParameters r.splitParameters)

/-- The address that a location stands for, seen from the address that named it, and the fragment to
keep. A location that begins with an authority takes the scheme of the address. -/
def resolve (current fragment location : List Char) :
    Except Defect (List Char × List Char) := do
  let base ← takeApart current
  let r ← takeApart
    (if ['/', '/'].isPrefixOf location then base.scheme ++ ':' :: location else location)
  let r := { r.splitParameters with fragment := if r.fragment = [] then fragment else r.fragment }
  let url ← if r.authority = [] then join current (requote r.text) else .ok (requote r.text)
  .ok (url, r.fragment)

end Url

end InstanceIdentity
