import KsbaCms.Model.Templates

/-! # The CMS container

`struct ksba_cms_s` as `cms.c` uses it (`Cms`, with the nested `content`, `signer_info`
and `signer_info.cache` records flattened), the signer records `struct certlist_s`, the
dispatcher table `content_handlers`, and every function of `cms.c` that sets up a
container: the reader and writer, the content types, the digest algorithms, the signers
and their digests, the hash function, and `ksba_cms_get_cert`.

The reader, the writer and the certificates are objects of other parts of the library;
they are modelled from the spec here:

* a `Writer` records each write it accepts as a `Chunk`, the call that made it, and
  accepts `room` more writes (`none`: any number) before it fails;
* a `Reader` stands for the message being parsed, as the outcomes of the three parser
  stages that read it.

Allocation is not modelled: `xtrymalloc` and `xtrystrdup` always succeed.
-/

namespace Ksba
set_option autoImplicit false

/-! ## Collaborators -/

/-- Modelled from the spec: a parsed certificate, its ASN.1 tree and raw image. -/
structure Cert where
  root : AsnNode
  image : Bytes
  deriving DecidableEq, Repr

/-- One write into a writer: `_ksba_ber_write_tl`, a plain `ksba_writer_write`, or
`_ksba_der_write_algorithm_identifier`. -/
inductive Chunk where
  | tl (tag : Nat) (cls : TagClass) (constructed : Bool) (len : Nat)
  | data (b : Bytes)
  | algorithmIdentifier (oid : String)
  deriving DecidableEq, Repr

/-- Modelled from the spec: a writer, with everything written to it so far. -/
structure Writer where
  out : List Chunk
  room : Option Nat
  deriving DecidableEq, Repr

/-- `ksba_writer_write`: the chunk is appended, or the sink fails. -/
def Writer.write (w : Writer) (c : Chunk) : Except KsbaError Writer :=
  match w.room with
  | some 0 => .error .writeError
  | some (n + 1) => .ok { out := w.out ++ [c], room := some n }
  | none => .ok { w with out := w.out ++ [c] }

/-- What `_ksba_cms_parse_signed_data_part_1` reads: the digest algorithms, the inner
content type, whether the content is detached, and a digest the message may carry. -/
structure Part1 where
  digestAlgos : List String
  encapContType : String
  detached : Bool
  digest : Option Bytes
  deriving DecidableEq, Repr

/-- Modelled from the spec: the message behind a reader, as the outcomes of
`_ksba_cms_parse_content_info` (the contentType OID), `_ksba_cms_parse_signed_data_part_1`
and `_ksba_cms_parse_signed_data_part_2` (the SignerInfos tree and its image). -/
structure Reader where
  contentInfo : Except KsbaError String
  part1 : Except KsbaError Part1
  part2 : Except KsbaError (AsnNode × Bytes)

/-! ## The container -/

/-- `struct certlist_s`: a signer, its message digest (`msg_digest[0..msg_digest_len)`) and
the signed attributes kept between the DATAREADY and GOTSIG steps. -/
structure CertList where
  cert : Option Cert
  msgDigest : Bytes
  attrRoot : Option AsnNode
  attrImage : Option Bytes
  deriving DecidableEq, Repr

/-- `struct ksba_cms_s`; `hashFnc` is the callback's address, `none` for NULL. -/
structure Cms where
  reader : Option Reader := none
  writer : Option Writer := none
  stopReason : StopReason := .none
  contentOid : Option String := none
  contentCt : ContentType := .none
  contentHandler : Option Handler := none
  encapContType : Option String := none
  digestAlgos : List String := []
  certList : List CertList := []
  signerInfoRoot : Option AsnNode := none
  signerInfoImage : Option Bytes := none
  cacheDigestAlgo : Option String := none
  dataDigest : Option Bytes := none
  detachedSignature : Bool := false
  hashFnc : Option Nat := none
  hashFncArg : Nat := 0

/-- A function of the container: it returns, fails with an error code, or aborts. -/
abbrev CmsM := EStateM Fault Cms

/-- `ksba_cms_new`: a zeroed container. -/
def ksbaCmsNew : Cms := {}

/-! ## The dispatcher -/

/-- One row of `content_handlers`. -/
structure ContentHandler where
  oid : String
  ct : ContentType
  parseHandler : Option Handler
  buildHandler : Option Handler
  deriving DecidableEq, Repr

/-- `content_handlers`. -/
def contentHandlers : List ContentHandler :=
  [ ⟨"1.2.840.113549.1.7.1", .data, some .ctParseData, some .ctBuildData⟩,
    ⟨"1.2.840.113549.1.7.2", .signedData, some .ctParseSignedData, some .ctBuildSignedData⟩,
    ⟨"1.2.840.113549.1.7.3", .envelopedData, some .ctParseEnvelopedData,
      some .ctBuildEnvelopedData⟩,
    ⟨"1.2.840.113549.1.7.5", .digestedData, some .ctParseDigestedData,
      some .ctBuildDigestedData⟩,
    ⟨"1.2.840.113549.1.7.6", .encryptedData, some .ctParseEncryptedData,
      some .ctBuildEncryptedData⟩,
    ⟨"1.2.840.113549.1.9.16.1.2", .authData, none, none⟩ ]

/-- `oidstr_messageDigest`. -/
def oidstrMessageDigest : String := "1.2.840.113549.1.9.4"

/-- `oid_messageDigest`, the DER content of that OID. -/
def oidMessageDigest : Bytes := [0x2A, 0x86, 0x48, 0x86, 0xF7, 0x0D, 0x01, 0x09, 0x04]

/-! ## Setting up a container -/

/-- `ksba_cms_set_reader_writer`: each direction may be set once. -/
def ksbaCmsSetReaderWriter (r : Option Reader) (w : Option Writer) : CmsM Unit := do
  let cms ← get
  failIf (r.isNone && w.isNone) .invalidValue
  failIf ((r.isSome && cms.reader.isSome) || (w.isSome && cms.writer.isSome)) .conflict
  modify fun cms => { cms with reader := r, writer := w }

/-- `ksba_cms_set_content_type`: `what = 0` installs the row's build handler with its OID
and type, `what = 1` sets the inner content type. -/
def ksbaCmsSetContentType (what : Int) (type : ContentType) : CmsM Unit := do
  failIf (what < 0 || what > 1) .invalidValue
  let row ← someOr .unknownCmsObject (contentHandlers.find? (·.ct == type))
  let h ← someOr .unsupportedCmsObject row.buildHandler
  if what = 0 then
    modify fun cms => { cms with contentOid := some row.oid, contentCt := row.ct,
                                 contentHandler := some h }
  else
    modify fun cms => { cms with encapContType := some row.oid }

/-- `ksba_cms_add_digest_algo`: the OID is put in front of the list. -/
def ksbaCmsAddDigestAlgo (oid : Option String) : CmsM Unit := do
  let o ← someOr .invalidValue oid
  modify fun cms => { cms with digestAlgos := o :: cms.digestAlgos }

/-- `ksba_cms_add_signer`: a new record, in front of the list; the certificate may be
NULL. -/
def ksbaCmsAddSigner (cert : Option Cert) : CmsM Unit :=
  modify fun cms =>
    { cms with certList := ⟨cert, [], none, none⟩ :: cms.certList }

/-- `ksba_cms_set_message_digest`: the `idx`-th record from the head keeps the digest;
`dim` is `DIM(cl->msg_digest)`. -/
def ksbaCmsSetMessageDigest (dim : Nat) (idx : Int) (digest : Option Bytes) : CmsM Unit := do
  let d ← someOr .invalidValue digest
  failIf (d.length = 0 || d.length > dim) .invalidValue
  failIf (idx < 0) .invalidIndex
  let cl ← someOr .invalidIndex (← get).certList[idx.toNat]?
  modify fun cms => { cms with certList := cms.certList.set idx.toNat { cl with msgDigest := d } }

/-- `ksba_cms_set_hash_function`. -/
def ksbaCmsSetHashFunction (fnc : Option Nat) (arg : Nat) : CmsM Unit :=
  modify fun cms => { cms with hashFnc := fnc, hashFncArg := arg }

/-- `ksba_cms_get_cert`: the certificate of the `idx`-th record, which gives it up. -/
def ksbaCmsGetCert (idx : Int) : CmsM (Option Cert) := do
  if idx < 0 then return none
  match (← get).certList[idx.toNat]? with
  | none => return none
  | some cl =>
    modify fun cms => { cms with certList := cms.certList.set idx.toNat { cl with cert := none } }
    return cl.cert

/-! ## Reading the set-up -/

/-- `ksba_cms_get_content_type`: `what = 0` the content type, `what = 1` the table type of
the inner content OID. -/
def ksbaCmsGetContentType (cms : Cms) (what : Int) : ContentType :=
  if what = 0 then cms.contentCt
  else if what = 1 then
    match cms.encapContType with
    | some o => ((contentHandlers.find? (·.oid == o)).map (·.ct)).getD .none
    | none => .none
  else .none

/-- `ksba_cms_get_content_oid`. -/
def ksbaCmsGetContentOid (cms : Cms) (what : Int) : Option String :=
  if what = 0 then cms.contentOid else if what = 1 then cms.encapContType else none

/-- `ksba_cms_get_digest_algo_list`: the `idx`-th digest algorithm from the head; a
negative index walks off the end of the list. -/
def ksbaCmsGetDigestAlgoList (cms : Cms) (idx : Int) : Option String :=
  if idx < 0 then none else cms.digestAlgos[idx.toNat]?

end Ksba
