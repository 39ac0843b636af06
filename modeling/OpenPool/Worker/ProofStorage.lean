import OpenPool.Worker.Services
import Mathlib.Logic.Function.Basic

/-! # The object store for proofs

A proof is uploaded once, under a key made of its hash. The upload asks the store to reject a key
that exists. -/

namespace OpenPool

inductive ProofStorageError where
  | transport (detail : String)
  | rejected (status : ℕ) (body : String)
  | missingMetadata (header : String)
  | configuration (detail : String)
  deriving DecidableEq

/-- The texts of `Display`. -/
def ProofStorageError.toString : ProofStorageError → String
  | transport detail => "object store transport failed: " ++ detail
  | rejected status body => "object store rejected immutable publication (" ++ status.repr ++
      "): " ++ body
  | missingMetadata header => "object store response omitted " ++ header
  | configuration detail => "proof storage configuration is invalid: " ++ detail

/-! ## Keys -/

def isAsciiHexdigit (c : Char) : Bool :=
  c.isDigit || ('a' ≤ c && c ≤ 'f') || ('A' ≤ c && c ≤ 'F')

/-- A text of hex digits has as many bytes as characters. -/
def objectKey (hash : String) : Except ProofStorageError String :=
  if hash.toList.length ≠ 64 ∨ hash.toList.all isAsciiHexdigit = false then
    .error (.configuration "proof hash must be lowercase/uppercase 64-char hex")
  else .ok ("proofs/OPENPOOL-1/" ++ hash ++ "/proof.json")

/-- A 32-byte hash names a key. -/
theorem objectKey_toHex (hash : Hash32) : objectKey (String.ofList (Bytes.toHex hash.val)) =
    .ok ("proofs/OPENPOOL-1/" ++ String.ofList (Bytes.toHex hash.val) ++ "/proof.json") := by
  have hdigits : ∀ a : Fin 16, isAsciiHexdigit (Bytes.hexDigit a) = true := by decide
  have hall : ∀ c ∈ Bytes.toHex hash.val, isAsciiHexdigit c = true := by
    intro c hc
    by_contra hdigit
    refine Bytes.not_mem_toHex (fun a hsame => hdigit ?_) hash.val hc
    rw [← hsame]
    exact hdigits a
  have hlength : (Bytes.toHex hash.val).length = 64 := by
    simp [Bytes.toHex, List.length_flatMap, hash.property]
  unfold objectKey
  rw [String.toList_ofList, if_neg]
  simp only [hlength, ne_eq, not_true_eq_false, false_or, Bool.not_eq_false]
  exact List.all_eq_true.mpr hall

/-! ## Uploads -/

/-- The answer to a `PUT`, with the headers that are read. -/
structure PutResponse where
  status : ℕ
  body : String
  versionId : Option String
  etag : Option String

/-- A header that has a value. -/
def presentHeader (name : String) (header : Option String) : Except ProofStorageError String :=
  match header.filter (· ≠ "") with
  | some value => .ok value
  | none => .error (.missingMetadata name)

def trimQuotes (text : String) : String :=
  let unquoted := text.toList.dropWhile (· = Char.ofNat 34)
  String.ofList (unquoted.reverse.dropWhile (· = Char.ofNat 34)).reverse

/-- How `publish_immutable` reads the answer. -/
def PutResponse.read (bucket key : String) (response : PutResponse) :
    Except ProofStorageError PublishedProof :=
  if response.status < 200 ∨ 300 ≤ response.status then
    .error (.rejected response.status response.body)
  else do
    let versionId ← presentHeader "x-amz-version-id" response.versionId
    let etag ← presentHeader "etag" response.etag
    return ⟨"s3://" ++ bucket ++ "/" ++ key, versionId, trimQuotes etag⟩

/-- The objects of a bucket, by their keys. -/
abbrev Bucket := String → Option (List UInt8)

/-- What a store with versions says about a new object. -/
structure ObjectVersion where
  versionId : { text : String // text ≠ "" }
  etag : { text : String // text ≠ "" }

/-- A `PUT` with `if-none-match: *`. -/
def Bucket.put (objects : Bucket) (key : String) (body : List UInt8) (version : ObjectVersion) :
    PutResponse × Bucket :=
  match objects key with
  | some _ => (⟨412, "PreconditionFailed", none, none⟩, objects)
  | none => (⟨200, "", some version.versionId, some version.etag⟩,
      Function.update objects key (some body))

/-- `S3ProofStore::publish_immutable`, whose store answers. -/
def publishImmutable (bucket proofHash : String) (canonicalJson : List UInt8)
    (version : ObjectVersion) (objects : Bucket) :
    Except ProofStorageError PublishedProof × Bucket :=
  match objectKey proofHash with
  | .error error => (.error error, objects)
  | .ok key =>
      let (response, objects) := objects.put key canonicalJson version
      (response.read bucket key, objects)

/-- The first upload under a key succeeds. -/
theorem publishImmutable_of_absent {bucket proofHash key : String} {canonicalJson : List UInt8}
    {version : ObjectVersion} {objects : Bucket} (hkey : objectKey proofHash = .ok key)
    (habsent : objects key = none) :
    publishImmutable bucket proofHash canonicalJson version objects =
      (.ok ⟨"s3://" ++ bucket ++ "/" ++ key, version.versionId, trimQuotes version.etag⟩,
        Function.update objects key (some canonicalJson)) := by
  have hversion : presentHeader "x-amz-version-id" (some version.versionId.val) =
      .ok version.versionId := by
    simp [presentHeader, Option.filter, version.versionId.property]
  have hetag : presentHeader "etag" (some version.etag.val) = .ok version.etag := by
    simp [presentHeader, Option.filter, version.etag.property]
  simp only [publishImmutable, hkey, Bucket.put, habsent, PutResponse.read]
  rw [if_neg (by decide), hversion, hetag]
  rfl

end OpenPool
