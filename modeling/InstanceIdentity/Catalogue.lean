import InstanceIdentity.Detector

/-!
# What the library makes public

## Main definitions

* `Catalogue.publicNames` — the public names, sorted
* `Catalogue.fields` — the keys and the names of the fields

## Main results

* `Catalogue.pairwise_publicNames`, `Catalogue.nodup_fields` — nothing is listed twice
-/

namespace InstanceIdentity

namespace Catalogue

/-- The public names, sorted. -/
def publicNames : List String :=
  ["AwsEc2ResourceDetector", "DEFAULT_BASE_ADDRESS", "DEFAULT_TIMEOUT", "DecodeFailure",
   "FetchError", "IdentityDocument", "InstanceMetadataClient", "MetadataClient",
   "TransportFailure"]

/-- The public names are in ascending order. -/
theorem pairwise_publicNames : publicNames.Pairwise (· < ·) := by decide +kernel

/-- The keys and the names of the fields in the order of the table. -/
def fields : List (String × String) := Field.all.map fun field => (field.key, field.name)

/-- No two fields share a key or a name. -/
theorem nodup_fields : (fields.map Prod.fst).Nodup ∧ (fields.map Prod.snd).Nodup := by
  decide +kernel

end Catalogue

end InstanceIdentity
