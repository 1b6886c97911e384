import KsbaCms.Model.Engine

/-! # Reading the signer info

The accessors over `cms->signer_info`. Each one that copies bytes out of the image is
written in two parts: the lookup, with its checks and error codes, that ends in the
byte range the source reads (`serialRange`, `messageDigestRange`, `sigValRange`,
`signedAttrsRange`), and the read of that range. The digest, the signature value and the
hashed attributes are read with `imageRead`, exactly the bytes the range names or `none`,
so that a range leaving the image shows; the serial number with `imageSlice`, over a range
Proof/Bounds shows to lie in the image. The DN and S-expression converters
(`_ksba_dn_to_str`, `_ksba_sigval_to_sexp`) are not in the repository; the accessors
that call them take them as parameters.
-/

namespace Ksba
set_option autoImplicit false

/-- Modelled from the spec: `_ksba_oid_node_to_str (image, node)`, the dotted string of an
OBJECT IDENTIFIER node that is in the image. -/
def oidNodeToStr (img : Bytes) : Option AsnNode → Option String
  | some (.node i _ _) =>
    if i.type = .objectId ∧ i.off ≠ -1 then some (oidToStr (imageSlice img (i.off + i.nhdr) i.len))
    else none
  | _ => none

/-! ## `ksba_cms_get_issuer_serial` -/

/-- What `ksba_cms_get_issuer_serial` returns and what it has stored in `*r_issuer` and
`*r_serial` by then. -/
structure IssuerSerial where
  err : Option KsbaError
  issuer : Option String
  serial : Option Bytes
  deriving DecidableEq, Repr

/-- The serial number node's content range (`off + nhdr`, `len`), or the error of the
serial part. -/
def serialRange (root : AsnNode) : Except KsbaError (Int × Int) :=
  match findNodeAt root "SignerInfos..sid.issuerAndSerialNumber.serialNumber" with
  | some (.node i _ _) => if i.off = -1 then .error .generalError else .ok (i.off + i.nhdr, i.len)
  | _ => .error .noValue

/-- The serial number as `ksba_cms_get_issuer_serial` returns it: the four bytes of `len`,
big-endian (`n->len >> 24`, `>> 16`, `>> 8`, `n->len`), then the content. -/
def serialBytes (img : Bytes) (start len : Int) : Bytes :=
  [UInt8.ofNat (len.toNat >>> 24), UInt8.ofNat (len.toNat >>> 16),
    UInt8.ofNat (len.toNat >>> 8), UInt8.ofNat len.toNat] ++ imageSlice img start len

/-- `ksba_cms_get_issuer_serial (cms, idx, r_issuer, r_serial)`; `wantIssuer` and
`wantSerial` say whether the two output pointers are non-NULL. -/
def ksbaCmsGetIssuerSerial (dnToStr : Bytes → AsnNode → Except KsbaError String) (cms : Cms)
    (wantIssuer wantSerial : Bool) : IssuerSerial :=
  match cms.signerInfoRoot with
  | none => ⟨some .noData, none, none⟩
  | some root =>
    let img := cms.signerInfoImage.getD []
    let issuer : Except KsbaError (Option String) :=
      if wantIssuer then
        match findNodeAt root "SignerInfos..sid.issuerAndSerialNumber.issuer" with
        | some (.node _ (.node i d r) _) =>
          if i.off = -1 then .error .generalError
          else (dnToStr img (.node i d r)).map some
        | _ => .error .noValue
      else .ok none
    match issuer with
    | .error e => ⟨some e, none, none⟩
    | .ok iss =>
      if wantSerial then
        match serialRange root with
        | .error e => ⟨some e, iss, none⟩
        | .ok (start, len) => ⟨none, iss, some (serialBytes img start len)⟩
      else ⟨none, iss, none⟩

/-! ## `ksba_cms_get_digest_algo` -/

/-- The uncached lookup of `ksba_cms_get_digest_algo`. -/
def digestAlgoLookup (root : AsnNode) (img : Bytes) : Option String :=
  oidNodeToStr img (findNodeAt root "SignerInfos..digestAlgorithm.algorithm")

/-- `ksba_cms_get_digest_algo`: the cached string, or the lookup, which is cached when it
finds one. -/
def ksbaCmsGetDigestAlgo (idx : Int) : CmsM (Option String) := do
  let cms ← get
  match cms.signerInfoRoot with
  | none => return none
  | some root =>
    if idx ≠ 0 then return none
    match cms.cacheDigestAlgo with
    | some a => return some a
    | none =>
      let algo := digestAlgoLookup root (cms.signerInfoImage.getD [])
      if algo.isSome then modify fun cms => { cms with cacheDigestAlgo := algo }
      return algo

/-! ## `ksba_cms_get_message_digest` -/

/-- The lookup of `ksba_cms_get_message_digest` below the signed attributes `nsiginfo`:
the unique messageDigest attribute, of shape SET OF one OCTET STRING, and the range of
that string's content. -/
def messageDigestIn (img : Bytes) (nsiginfo : AsnNode) : Except KsbaError (Int × Int) :=
  match asnFindTypeValue img nsiginfo 0 oidMessageDigest with
  | none => .error .valueNotFound
  | some n =>
    if (asnFindTypeValue img nsiginfo 1 oidMessageDigest).isSome then .error .duplicateValue
    else match n with
      | .node i (.node o _ .nil) _ =>
        if i.type = .setOf ∧ o.type = .octetString then
          if o.off = -1 then .error .bug else .ok (o.off + o.nhdr, o.len)
        else .error .invalidCmsObject
      | _ => .error .invalidCmsObject

/-- The checks of `ksba_cms_get_message_digest` and the range it copies; `none` when there
are no signed attributes, which returns 0 and no digest. -/
def messageDigestRange (cms : Cms) (idx : Int) : Except KsbaError (Option (Int × Int)) :=
  match cms.signerInfoRoot with
  | none => .error .noData
  | some root =>
    if idx ≠ 0 then .error .notImplemented
    else match findNodeAt root "SignerInfos..signedAttrs" with
      | none => .ok none
      | some nsiginfo => (messageDigestIn (cms.signerInfoImage.getD []) nsiginfo).map some

/-- What `ksba_cms_get_message_digest` stores through its two output pointers once it has
found the digest. -/
structure DigestOut where
  /-- `*r_digest`: the `n->len` bytes `memcpy` copies from `image + n->off + n->nhdr`,
  `none` when that range leaves the image. -/
  digest : Option Bytes
  /-- `*r_digest_len`: `n->len`. -/
  digestLen : Int
  deriving DecidableEq, Repr

/-- The outputs for the digest range `(off + nhdr, len)` of an image. -/
def digestOut (img : Bytes) (r : Int × Int) : DigestOut := ⟨imageRead img r.1 r.2, r.2⟩

/-- `ksba_cms_get_message_digest`: the outputs, `none` for the NULL and the length 0 it
leaves for a message without signed attributes. -/
def ksbaCmsGetMessageDigest (cms : Cms) (idx : Int) : Except KsbaError (Option DigestOut) :=
  (messageDigestRange cms idx).map (·.map (digestOut (cms.signerInfoImage.getD [])))

/-! ## `ksba_cms_get_sig_val` -/

/-- The range `ksba_cms_get_sig_val` hands to `_ksba_sigval_to_sexp`: from the
signatureAlgorithm TLV through the TLV after it, when that one is in the image. -/
def sigValRange (root : AsnNode) : Option (Int × Int) :=
  match findNodeAt root "SignerInfos..signatureAlgorithm" with
  | some (.node i _ r) =>
    if i.off = -1 then none
    else
      let more := match r with
        | .node ri _ _ => if ri.off = -1 then 0 else ri.nhdr + ri.len
        | .nil => 0
      some (i.off, i.nhdr + i.len + more)
  | _ => none

/-- `ksba_cms_get_sig_val`. -/
def ksbaCmsGetSigVal (sigvalToSexp : Bytes → Except KsbaError String) (cms : Cms)
    (idx : Int) : Option String :=
  match cms.signerInfoRoot with
  | none => none
  | some root =>
    if idx ≠ 0 then none
    else (sigValRange root).bind fun r =>
      (imageRead (cms.signerInfoImage.getD []) r.1 r.2).bind fun b => (sigvalToSexp b).toOption

/-! ## `ksba_cms_hash_signed_attrs` -/

/-- The range `ksba_cms_hash_signed_attrs` hands to `hash_fnc` after the `0x31`: the
signedAttrs TLV without its first byte. -/
def signedAttrsRange (root : AsnNode) : Option (Int × Int) :=
  match findNodeAt root "SignerInfos..signedAttrs" with
  | some (.node i _ _) => if i.off = -1 then none else some (i.off + 1, i.nhdr + i.len - 1)
  | _ => none

/-- `ksba_cms_hash_signed_attrs (cms, idx)`: what the `hash_fnc` calls read, one entry a
call: the byte of the literal `"\x31"`, then the `nhdr + len - 1` bytes at
`image + off + 1`, `none` when that range leaves the image. -/
def ksbaCmsHashSignedAttrs (cms : Cms) (idx : Int) : Except KsbaError (List (Option Bytes)) :=
  if cms.hashFnc.isNone then .error .missingAction
  else if idx ≠ 0 then .error .eof
  else match cms.signerInfoRoot.bind signedAttrsRange with
    | none => .error .noValue
    | some r => .ok [some [0x31], imageRead (cms.signerInfoImage.getD []) r.1 r.2]

end Ksba
