import Assessment.Digest.Sha256
import Assessment.Json.Decoding
import Assessment.Json.Writing

/-!
# Digests of definitions

A session is tied to the definition it was made for by the digest of the definition's canonical
JSON text.
-/

namespace Assessment

/-- The hash function of a digest. -/
inductive HashAlgorithm where
  /-- The secure hash function of 256 bits. -/
  | sha256
  deriving DecidableEq

/-- The digest of a definition. -/
structure Digest where
  /-- The hash function. -/
  algorithm : HashAlgorithm
  /-- The digest in hexadecimal digits. -/
  value : String
  deriving DecidableEq

namespace Digest

/-- The digest of the canonical text of a JSON value. -/
def ofJsonText (json : Json) : Digest := ⟨.sha256, Sha256.hexDigest json.canonical⟩

/-- A digest as JSON. -/
def toJson (digest : Digest) : Json :=
  .obj [("algorithm", .str "sha256"), ("value", .str digest.value)]

/-- The digest that JSON writes. -/
def ofJson? (datum : Datum) : Option Digest := do
  let fields ← datum.fields? ["algorithm", "value"]
  some ⟨← fields.required "algorithm" (Datum.oneOf? [("sha256", HashAlgorithm.sha256)]),
    ← fields.required "value" Datum.str?⟩

end Digest

end Assessment
