import KsbaCms.Model.Cms

/-! # Building signed data

The three steps of `ct_build_signed_data` and what they write:

* `buildSignedDataHeader` (START): the outer ContentInfo up to the inner content type,
  with indefinite lengths; the digestAlgorithms SET with the hard-coded length 11.
* `buildSignedDataAttributes` (DATAREADY): the end-of-contents of the data, then for every
  signer the messageDigest attribute (`messageDigestAttr`), kept on the signer record, and
  a SignerInfos tree holding only that attribute (`signedAttrsTree`), kept as
  `cms->signer_info` for `ksba_cms_hash_signed_attrs`.
* `buildSignedDataRest` (GOTSIG): for every signer the full SignerInfos tree
  (`signerInfoTree`), encoded, its first byte set to `0xA0` for the first signer, and
  written; then two end-of-contents.

The tree-building parts are pure (`Except Fault`): they read a signer record and build
a tree, failing with an error code or an assertion where the source does.
-/

namespace Ksba
set_option autoImplicit false

/-! ## Writing -/

/-- `ksba_writer_write (cms->writer, ...)`: a write into the container's writer; a NULL
writer refuses it. -/
def writeChunk (c : Chunk) : CmsM Unit := do
  let w ← someOr .invalidValue (← get).writer
  let w ← liftErr (w.write c)
  modify fun cms => { cms with writer := some w }

/-- `_ksba_ber_write_tl (cms->writer, tag, class, constructed, length)`. -/
def berWriteTl (tag : Nat) (cls : TagClass) (constructed : Bool) (len : Nat) : CmsM Unit := do
  let _ ← liftErr (berWriteTlBytes tag cls constructed len)
  writeChunk (.tl tag cls constructed len)

/-- `_ksba_der_write_algorithm_identifier (cms->writer, oid)`. -/
def derWriteAlgorithmIdentifier (oid : String) : CmsM Unit := do
  let _ ← liftErr (algorithmIdentifierBytes oid)
  writeChunk (.algorithmIdentifier oid)

/-- `TYPE_SEQUENCE`, `TYPE_SET`, `TYPE_INTEGER` and `TYPE_OBJECT_ID` as tag numbers. -/
abbrev typeSequence : Nat := 16
abbrev typeSet : Nat := 17
abbrev typeInteger : Nat := 2
abbrev typeObjectId : Nat := 6

/-! ## START -/

/-- The loop over `ksba_cms_get_digest_algo_list`. -/
def writeAlgorithmIdentifiers : List String → CmsM Unit
  | [] => pure ()
  | s :: rest => do
    derWriteAlgorithmIdentifier s
    writeAlgorithmIdentifiers rest

/-- An OBJECT IDENTIFIER: `ksba_oid_from_str`, its header, its bytes. -/
def writeOid (oid : Option String) : CmsM Unit := do
  let buf ← someOr .invalidOid (oid.bind oidFromStr)
  berWriteTl typeObjectId .universal false buf.length
  writeChunk (.data buf)

/-- `build_signed_data_header`: everything up to the encapsulated content. The CMS version
is always 3 (`if (1 /* fixme ... */)`), and the digestAlgorithms SET is written with the
length 11 whatever the list holds. -/
def buildSignedDataHeader : CmsM Unit := do
  berWriteTl typeSequence .universal true 0
  writeOid (← get).contentOid
  berWriteTl 0 .context true 0
  berWriteTl typeSequence .universal true 0
  berWriteTl typeInteger .universal false 1
  writeChunk (.data [0x03])
  berWriteTl typeSet .universal true 11
  writeAlgorithmIdentifiers (← get).digestAlgos
  berWriteTl typeSequence .universal true 0
  writeOid (← get).encapContType
  if !(← get).detachedSignature then
    berWriteTl 0 .context true 0

/-! ## DATAREADY -/

/-- The address of the element the source walks to below `signedAttrs` at `n`:
`for (n = n->down->down; n && n->type != TYPE_SEQUENCE; n = n->right);`. -/
def firstSequenceBelow (root : AsnNode) (n : Pos) : Option Pos :=
  (nodeAt root (n ++ [.down, .down])).bind fun m =>
    (scanType .sequence m).map ((n ++ [.down, .down]) ++ ·)

/-- The messageDigest attribute of a signer, before it is encoded: the part of the loop of
`build_signed_data_attributes` up to `_ksba_der_encode_tree (attr, ...)`. -/
def messageDigestAttr (cl : CertList) : Except Fault AsnNode := do
  failIf cl.cert.isNone .bug
  let attr ← someOr .elementNotFound (asnExpandTree "CryptographicMessageSyntax.Attribute")
  let n ← someOr .elementNotFound (asnFindNode attr "Attribute.attrType")
  let attr ← liftErr (derStoreOid attr n oidstrMessageDigest)
  let n ← someOr .elementNotFound (asnFindNode attr "Attribute.attrValues")
  failIf ((nodeAt attr (n ++ [.down])).isNone) .elementNotFound
  check (cl.msgDigest.length != 0)
  liftErr (derStoreOctetString attr (n ++ [.down]) cl.msgDigest)

/-- The SignerInfos tree holding only the encoded attribute `attr` with its image. -/
def signedAttrsTree (attr : AsnNode) (image : Bytes) : Except KsbaError AsnNode := do
  let root ← (asnExpandTree "CryptographicMessageSyntax.SignerInfos").elim
    (.error .elementNotFound) .ok
  let n ← (asnFindNode root "SignerInfos..signedAttrs").elim (.error .elementNotFound) .ok
  if (nodeAt root (n ++ [.down])).isNone then .error .elementNotFound
  let q ← (firstSequenceBelow root n).elim (.error .elementNotFound) .ok
  derCopyTree root (some q) (some attr) image

/-- One turn of the loop of `build_signed_data_attributes`, for the `k`-th signer: its
attribute is kept on its record, the SignerInfos tree replaces `cms->signer_info`. -/
def signerAttributes (k : Nat) (cl : CertList) : CmsM Unit := do
  let attr ← liftFault (messageDigestAttr cl)
  let (attr, image) := derEncodeTree attr
  modify fun cms => { cms with
    certList := cms.certList.set k { cl with attrRoot := some attr, attrImage := some image } }
  let root ← liftErr (signedAttrsTree attr image)
  let (root, image) := derEncodeTree root
  modify fun cms => { cms with signerInfoRoot := some root, signerInfoImage := some image }

/-- The loop of `build_signed_data_attributes`: signers and digest algorithms in step, a
missing digest algorithm is a missing value. -/
def attributesLoop : Nat → List CertList → List String → CmsM Unit
  | _, [], _ => pure ()
  | _, _ :: _, [] => fail .missingValue
  | k, cl :: cls, _ :: oids => do
    signerAttributes k cl
    attributesLoop (k + 1) cls oids

/-- `build_signed_data_attributes`. -/
def buildSignedDataAttributes : CmsM Unit := do
  berWriteTl 0 .universal false 0
  let cms ← get
  failIf cms.certList.isEmpty .missingValue
  failIf cms.digestAlgos.isEmpty .missingValue
  attributesLoop 0 cms.certList cms.digestAlgos

/-! ## GOTSIG -/

/-- `set_issuer_serial`: the serial number, then the issuer, of the certificate copied
into the `sid` node at `p`. -/
def setIssuerSerial (root : AsnNode) (p : Pos) (cert : Option Cert) :
    Except KsbaError AsnNode := do
  let cert ← cert.elim (.error .invalidValue) .ok
  let sid ← (nodeAt root p).elim (.error .invalidValue) .ok
  let root ← derCopyTree root
    ((asnFindNode sid "sid.issuerAndSerialNumber.serialNumber").map (p ++ ·))
    (findNodeAt cert.root "Certificate.tbsCertificate.serialNumber") cert.image
  let sid ← (nodeAt root p).elim (.error .invalidValue) .ok
  derCopyTree root ((asnFindNode sid "sid.issuerAndSerialNumber.issuer").map (p ++ ·))
    (findNodeAt cert.root "Certificate.tbsCertificate.issuer") cert.image

/-- The SignerInfos tree of one signer, built by the loop of `build_signed_data_rest`
before it is encoded. The signature algorithm is the digest algorithm and the signature
the five bytes `xxxxx`, as the source has them (both `fixme`). -/
def signerInfoTree (cl : CertList) (oid : String) : Except Fault AsnNode := do
  failIf cl.cert.isNone .bug
  let root ← someOr .elementNotFound (asnExpandTree "CryptographicMessageSyntax.SignerInfos")
  let n ← someOr .elementNotFound (asnFindNode root "SignerInfos..version")
  let root ← liftErr (derStoreInteger root n [0x00, 0x00, 0x00, 0x01, 0x01])
  let n ← someOr .elementNotFound (asnFindNode root "SignerInfos..sid")
  let root ← liftErr (setIssuerSerial root n cl.cert)
  let n ← someOr .elementNotFound (asnFindNode root "SignerInfos..digestAlgorithm.algorithm")
  let root ← liftErr (derStoreOid root n oid)
  let n ← someOr .elementNotFound (asnFindNode root "SignerInfos..digestAlgorithm.parameters")
  let root ← liftErr (derStoreNull root n)
  let n ← someOr .elementNotFound (asnFindNode root "SignerInfos..signedAttrs")
  failIf ((nodeAt root (n ++ [.down])).isNone) .elementNotFound
  let q ← someOr .elementNotFound (firstSequenceBelow root n)
  check cl.attrRoot.isSome
  check cl.attrImage.isSome
  let root ← liftErr (derCopyTree root (some q) cl.attrRoot (cl.attrImage.getD []))
  let n ← someOr .elementNotFound
    (asnFindNode root "SignerInfos..signatureAlgorithm.algorithm")
  let root ← liftErr (derStoreOid root n oid)
  let n ← someOr .elementNotFound
    (asnFindNode root "SignerInfos..signatureAlgorithm.parameters")
  let root ← liftErr (derStoreNull root n)
  let n ← someOr .elementNotFound (asnFindNode root "SignerInfos..signature")
  liftErr (derStoreOctetString root n ("xxxxx".toList.map Char.toUInt8))

/-- The bytes `build_signed_data_rest` writes for the `signer`-th SignerInfos image: the
first signer's has its first byte replaced by `0xA0`. -/
def patchedImage (signer : Nat) (image : Bytes) : Bytes :=
  if signer = 0 then image.set 0 0xa0 else image

/-- The loop of `build_signed_data_rest`. -/
def restLoop : Nat → List CertList → List String → CmsM Unit
  | _, [], _ => pure ()
  | _, _ :: _, [] => fail .missingValue
  | signer, cl :: cls, oid :: oids => do
    let root ← liftFault (signerInfoTree cl oid)
    writeChunk (.data (patchedImage signer (derEncodeTree root).2))
    restLoop (signer + 1) cls oids

/-- `build_signed_data_rest`: the SignerInfos, then two end-of-contents (`HACK for
testing`). -/
def buildSignedDataRest : CmsM Unit := do
  let cms ← get
  failIf cms.certList.isEmpty .missingValue
  failIf cms.digestAlgos.isEmpty .missingValue
  restLoop 0 cms.certList cms.digestAlgos
  berWriteTl 0 .universal false 0
  berWriteTl 0 .universal false 0

end Ksba
