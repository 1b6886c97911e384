import KsbaCms.Proof.Layout
import KsbaCms.Proof.BuildRun
import KsbaCms.Proof.Setup
import KsbaCms.Model.Accessors

/-! # The signed attributes

DATAREADY builds the messageDigest attribute of the signer from the digest
`ksba_cms_set_message_digest` stored, encodes it, and copies it into a SignerInfos tree. It
keeps the encoded tree as `cms->signer_info`, which `ksba_cms_get_message_digest` and
`ksba_cms_hash_signed_attrs` then read. GOTSIG copies the same encoded attribute into the
SignerInfos it writes.

* `mdAttrOf`: the attribute `build_signed_data_attributes` builds (`messageDigestAttr_ok`),
  a normal tree whose values are the OID and the digest.
* `signedAttrsTree_mdAttr`: the SignerInfos tree DATAREADY keeps is the template with that
  attribute in place of the element below `signedAttrs`.
* `messageDigestIn_derEncodeTree`: over the encoding of a normal tree, the reader of
  `ksba_cms_get_message_digest` returns the digest the tree holds before it is encoded.
* `message_digest_read_back`: after `ksba_cms_set_message_digest (cms, 0, d)` and
  DATAREADY, `ksba_cms_get_message_digest` copies exactly `d` out of the image and returns
  its length.
-/

namespace Ksba
set_option autoImplicit false

/-! ## The messageDigest attribute -/

/-- `oidstr_messageDigest` and `oid_messageDigest` name the same OID. -/
theorem oidFromStr_messageDigest : oidFromStr oidstrMessageDigest = some oidMessageDigest := by
  decide

/-- The messageDigest attribute holding the digest `d`, as `build_signed_data_attributes`
fills the `Attribute` template: the type stored from `oidstr_messageDigest`, the digest in
the first element of `attrValues`. -/
def mdAttrOf (name : String) (d : Bytes) : AsnNode :=
  tnode name .sequence
    (.node { name := "attrType", type := .objectId, value := some oidMessageDigest } .nil
      (tnode "attrValues" .setOf
        (.node { name := "", type := .octetString, value := some d } .nil .nil) .nil))
    .nil

theorem normal_mdAttrOf (name : String) (d : Bytes) : Normal (mdAttrOf name d) := by
  simp [mdAttrOf, tnode, Normal, NodeInfo.holdsChildren, NodeInfo.kind, NodeType.isPrimitive]

theorem messageDigestAttr_ok {cl : CertList} (hc : cl.cert.isSome) (hd : cl.msgDigest ≠ []) :
    messageDigestAttr cl = .ok (mdAttrOf "Attribute" cl.msgDigest) := by
  obtain ⟨c, hc⟩ := Option.isSome_iff_exists.mp hc
  have hn : (cl.msgDigest.length != 0) = true := by simpa using hd
  simp only [messageDigestAttr, hc, hn, derStoreOid, oidFromStr_messageDigest]
  rfl

/-- DATAREADY builds the attribute only for a signer with a certificate and a digest. -/
theorem messageDigestAttr_eq {cl : CertList} {attr : AsnNode}
    (h : messageDigestAttr cl = .ok attr) : attr = mdAttrOf "Attribute" cl.msgDigest := by
  cases hc : cl.cert with
  | none => simp [messageDigestAttr, hc] at h
  | some c =>
    by_cases hd : cl.msgDigest = []
    · simp only [messageDigestAttr, hc, hd] at h
      cases h
    · rw [messageDigestAttr_ok (by simp [hc]) hd] at h
      exact (Except.ok.inj h).symm

/-- The SignerInfos tree DATAREADY keeps: the template, with the attribute copied from its
encoding in place of the element below `signedAttrs`. -/
theorem signedAttrsTree_mdAttr (d : Bytes) :
    signedAttrsTree (derEncodeTree (mdAttrOf "Attribute" d)).1
      (derEncodeTree (mdAttrOf "Attribute" d)).2 =
      .ok (signerInfosWith (signedAttrsBody (mdAttrOf "" d))) := by
  simp only [signedAttrsTree, derCopyTree_derEncodeTree (normal_mdAttrOf "Attribute" d)]
  rfl

/-! ## Reading the digest back -/

/-- What `ksba_cms_get_message_digest` finds below `signedAttrs` in a tree before it is
encoded: the value of the one messageDigest attribute, when it is a SET OF one OCTET
STRING. -/
def messageDigestOfTree (nsig : AsnNode) : Option Bytes :=
  match (walkTree nsig).filterMap (typeValueIn oidMessageDigest) with
  | [.node i (.node o _ .nil) _] =>
    if i.type = .setOf ∧ o.type = .octetString then o.value else none
  | _ => none

theorem messageDigestOfTree_eq_some {n : AsnNode} {d : Bytes} (h : messageDigestOfTree n = some d) :
    ∃ i o od vr, (walkTree n).filterMap (typeValueIn oidMessageDigest) = [.node i (.node o od .nil) vr] ∧
      i.type = .setOf ∧ o.type = .octetString ∧ o.value = some d := by
  unfold messageDigestOfTree at h
  split at h
  · rename_i i o od vr hl
    split_ifs at h with ht
    exact ⟨i, o, od, vr, hl, ht.1, ht.2, h⟩
  · cases h

/-- Over the encoding of a normal tree, the lookup of `ksba_cms_get_message_digest` below
a `signedAttrs` node finds the range of the digest that node held before it was encoded:
`memcpy` copies exactly that digest out of the image, and `*r_digest_len` is its length. -/
theorem messageDigestIn_derEncodeTree {t nsig : AsnNode} {d : Bytes} (hn : Normal t)
    (hm : nsig ∈ walkChain (derEncodeTree t).1)
    (hd : messageDigestOfTree (clearLayout nsig) = some d) :
    (messageDigestIn (derEncodeTree t).2 nsig).map (digestOut (derEncodeTree t).2) =
      .ok ⟨some d, d.length⟩ := by
  obtain ⟨i, o, od, vr, hl, hi, ho, hv⟩ := messageDigestOfTree_eq_some hd
  have h0 := asnFindTypeValue_derEncodeTree hn hm 0 oidMessageDigest
  have h1 := asnFindTypeValue_derEncodeTree hn hm 1 oidMessageDigest
  rw [hl, List.getElem?_cons_zero] at h0
  rw [hl, List.getElem?_cons_succ, List.getElem?_nil, Option.map_eq_none'] at h1
  obtain ⟨v, hfv, hvc⟩ := Option.map_eq_some'.mp h0
  rcases v with _ | ⟨vi, _ | ⟨oi, od', or'⟩, vr'⟩ <;>
    simp only [clearLayout, AsnNode.node.injEq, reduceCtorEq, false_and, and_false] at hvc
  obtain ⟨rfl, ⟨rfl, -, hor⟩, -⟩ := hvc
  rw [clearLayout_eq_nil] at hor
  subst hor
  simp only at hi ho hv
  have hmem : AsnNode.node oi od' .nil ∈ walkChain (derEncodeTree t).1 :=
    walkChain_subset_of_mem (walkChain_subset_of_mem hm (mem_walkChain_of_asnFindTypeValue hfv))
      (by simp [walkChain])
  have hprim : oi.type.isPrimitive = true := by simp [ho, NodeType.isPrimitive]
  have hk := kind_of_primitive hprim ((hn.of_mem_layoutSeq hmem).2.1 hprim)
  obtain ⟨hoff, hlen, -⟩ := (derEncodeTree_inPlace hn _ hmem).content hk hv
  have hread := (derEncodeTree_inPlace hn _ hmem).read_content hk hv
  rw [hlen] at hread
  simp [messageDigestIn, hfv, h1, hi, ho, hoff, Except.map, digestOut, hread, hlen]

/-- The SignerInfos tree DATAREADY keeps is normal. -/
theorem normal_signerInfosWith_mdAttr (d : Bytes) :
    Normal (signerInfosWith (signedAttrsBody (mdAttrOf "" d))) := by
  simp [signerInfosWith, signedAttrsBody, sidTemplate, algorithmTemplate, attributesTemplate,
    attributeTemplate, mdAttrOf, tnode, Normal, NodeInfo.holdsChildren, NodeInfo.kind,
    NodeType.isPrimitive]

/-- Below `signedAttrs` of that tree, the reader finds the digest. -/
theorem signedAttrs_of_signerInfosWith_mdAttr (d : Bytes) :
    ∃ nsig, findNodeAt (signerInfosWith (signedAttrsBody (mdAttrOf "" d)))
        "SignerInfos..signedAttrs" = some nsig ∧ messageDigestOfTree (clearLayout nsig) = some d :=
  ⟨_, rfl, rfl⟩

/-! ## DATAREADY -/

/-- One signer's turn of DATAREADY: it builds the attribute, keeps its encoding on the
signer's record, copies it into a SignerInfos tree, and keeps that tree's encoding as
`cms->signer_info`. -/
theorem signerAttributes_state {k : Nat} {cl : CertList} {s t : Cms} {u : Unit}
    (h : signerAttributes k cl s = .ok u t) :
    ∃ attr root, messageDigestAttr cl = .ok attr ∧
      signedAttrsTree (derEncodeTree attr).1 (derEncodeTree attr).2 = .ok root ∧
      t = { s with
        certList := s.certList.set k
          { cl with attrRoot := some (derEncodeTree attr).1, attrImage := some (derEncodeTree attr).2 }
        signerInfoRoot := some (derEncodeTree root).1
        signerInfoImage := some (derEncodeTree root).2 } := by
  unfold signerAttributes at h
  simp only [derEncodeTree]
  cases ha : messageDigestAttr cl with
  | error f => simp [ha] at h
  | ok attr =>
    simp only [ha, liftFault_ok_bind, modify_bind, derEncodeTree] at h
    cases hr : signedAttrsTree (layoutSeq 0 attr) (encSeq attr) with
    | error e => simp [hr] at h
    | ok root =>
      simp only [hr, liftErr_ok_bind, modify_apply, EStateM.Result.ok.injEq] at h
      exact ⟨attr, root, rfl, hr, h.2.symm⟩

theorem signerAttributes_ok {k : Nat} {cl : CertList} {s t : Cms} {u : Unit}
    (h : signerAttributes k cl s = .ok u t) :
    ∃ attr root, messageDigestAttr cl = .ok attr ∧
      signedAttrsTree (derEncodeTree attr).1 (derEncodeTree attr).2 = .ok root ∧
      t.signerInfoRoot = some (derEncodeTree root).1 ∧
      t.signerInfoImage = some (derEncodeTree root).2 := by
  obtain ⟨attr, root, ha, hr, rfl⟩ := signerAttributes_state h
  exact ⟨attr, root, ha, hr, rfl, rfl⟩

/-- DATAREADY over a single signer is that signer's turn, after the end-of-contents. -/
theorem buildSignedDataAttributes_single_turn {cl : CertList} {s t : Cms} {u : Unit}
    (hc : s.certList = [cl]) (h : buildSignedDataAttributes s = .ok u t) :
    ∃ s', s'.certList = [cl] ∧ signerAttributes 0 cl s' = .ok () t := by
  unfold buildSignedDataAttributes at h
  obtain ⟨_, t₁, h₁, h⟩ := bind_eq_ok h
  have hc₁ : t₁.certList = [cl] :=
    ((@preserves_berWriteTl _ Cms.certList (fun _ _ => rfl) _ _ _ _).of_ok h₁).trans hc
  simp only [get_bind, failIf_bind, hc₁, List.isEmpty_cons, Bool.false_eq_true, if_false] at h
  split_ifs at h
  cases ho : t₁.digestAlgos with
  | nil => simp [ho, attributesLoop, fail_apply] at h
  | cons o os =>
    simp only [ho, attributesLoop] at h
    obtain ⟨_, t₂, h₂, h⟩ := bind_eq_ok h
    simp only [attributesLoop, pure_apply, EStateM.Result.ok.injEq] at h
    rw [← h.2]
    exact ⟨t₁, hc₁, h₂⟩

/-- DATAREADY over a single signer: what `signerAttributes` does for it. -/
theorem buildSignedDataAttributes_single {cl : CertList} {s t : Cms} {u : Unit}
    (hc : s.certList = [cl]) (h : buildSignedDataAttributes s = .ok u t) :
    ∃ attr root, messageDigestAttr cl = .ok attr ∧
      signedAttrsTree (derEncodeTree attr).1 (derEncodeTree attr).2 = .ok root ∧
      t.signerInfoRoot = some (derEncodeTree root).1 ∧
      t.signerInfoImage = some (derEncodeTree root).2 := by
  obtain ⟨s', -, h⟩ := buildSignedDataAttributes_single_turn hc h
  exact signerAttributes_ok h

/-- The SignerInfos tree DATAREADY builds for the digest `d`. -/
def dataReadyTree (d : Bytes) : AsnNode := signerInfosWith (signedAttrsBody (mdAttrOf "" d))

/-- Over the encoding of the SignerInfos tree DATAREADY keeps for the digest `d`,
`ksba_cms_get_message_digest (cms, 0)` copies `d` out of the image and stores its length. -/
theorem getMessageDigest_dataReady {d : Bytes} {s : Cms}
    (hr : s.signerInfoRoot = some (derEncodeTree (dataReadyTree d)).1)
    (hi : s.signerInfoImage = some (derEncodeTree (dataReadyTree d)).2) :
    ksbaCmsGetMessageDigest s 0 = .ok (some ⟨some d, d.length⟩) := by
  obtain ⟨nsig, hf, hd⟩ := signedAttrs_of_signerInfosWith_mdAttr d
  have hf' := findNodeAt_layoutSeq 0 (signerInfosWith (signedAttrsBody (mdAttrOf "" d)))
    "SignerInfos..signedAttrs"
  rw [hf] at hf'
  obtain ⟨n', hn', hc'⟩ := Option.map_eq_some'.mp hf'
  have hread := messageDigestIn_derEncodeTree (normal_signerInfosWith_mdAttr d)
    (mem_walkChain_of_findNodeAt hn') (by rw [hc']; exact hd)
  simp only [dataReadyTree, derEncodeTree] at hread hr hi
  simp only [ksbaCmsGetMessageDigest, messageDigestRange, hr, hi, hn', ne_eq, not_true_eq_false,
    if_false, Option.getD_some]
  revert hread
  cases messageDigestIn _ n' <;> simp [Except.map]

/-- DATAREADY over a single signer returns NEED_SIG and keeps the SignerInfos tree built
from that signer's digest. -/
theorem build_single_signer_info {s t : Cms} {r : StopReason} {cl : CertList}
    (hh : s.contentHandler = some .ctBuildSignedData)
    (hs : s.stopReason = .beginData ∨ s.stopReason = .endData) (hc : s.certList = [cl])
    (h : ksbaCmsBuild s = .ok r t) :
    r = .needSig ∧
      t.signerInfoRoot = some (derEncodeTree (dataReadyTree cl.msgDigest)).1 ∧
      t.signerInfoImage = some (derEncodeTree (dataReadyTree cl.msgDigest)).2 := by
  have hphase : BuildPhase s := ⟨by rcases hs with h | h <;> simp [h], by simp [hh]⟩
  obtain ⟨-, hb, rfl⟩ := ksbaCmsBuild_ok_runs hphase h
  obtain ⟨st, t', hst, ha, rfl⟩ := signedDataHandler_ok hb
  have hst' : st = .dataReady := by
    rcases hs with h | h <;> simp only [h, buildStateOf, Except.ok.injEq] at hst <;> exact hst.symm
  subst hst'
  obtain ⟨attr, root, hattr, hroot, hr, hi⟩ := buildSignedDataAttributes_single
    (show ({ s with stopReason := .running } : Cms).certList = [cl] from hc) ha
  rw [messageDigestAttr_eq hattr, signedAttrsTree_mdAttr, Except.ok.injEq] at hroot
  subst hroot
  exact ⟨rfl, hr, hi⟩

/-- Over a single signer whose digest `ksba_cms_set_message_digest (cms, 0, d)` stored
before DATAREADY, the build returns NEED_SIG and `ksba_cms_get_message_digest (cms, 0)`
then copies out exactly `d` and stores its length. The attribute DATAREADY types with
`oidstr_messageDigest` is the one the reader finds by `oid_messageDigest`, the only one, and
a SET OF one OCTET STRING. -/
theorem message_digest_read_back {dim : Nat} {s s' t : Cms} {r : StopReason} {cl : CertList}
    {d : Bytes} (hh : s.contentHandler = some .ctBuildSignedData)
    (hs : s.stopReason = .beginData ∨ s.stopReason = .endData) (hc : s.certList = [cl])
    (hd : d ≠ []) (hdim : d.length ≤ dim)
    (hset : ksbaCmsSetMessageDigest dim 0 (some d) s = .ok () s')
    (h : ksbaCmsBuild s' = .ok r t) :
    r = .needSig ∧ ksbaCmsGetMessageDigest t 0 = .ok (some ⟨some d, d.length⟩) := by
  have hstore : ksbaCmsSetMessageDigest dim 0 (some d) s =
      .ok () { s with certList := s.certList.set 0 { cl with msgDigest := d } } :=
    @ksbaCmsSetMessageDigest_at dim 0 d s cl (by simp [hc]) hd hdim
  rw [hset, hc] at hstore
  cases hstore
  obtain ⟨hr, hroot, himg⟩ :=
    @build_single_signer_info { s with certList := [{ cl with msgDigest := d }] } t r _ hh hs rfl h
  exact ⟨hr, getMessageDigest_dataReady hroot himg⟩

/-- A detached build at END_DATA, with one signer, SHA-1 and the digest `01 02 03`. -/
def dataReadyCms : Cms :=
  { writer := some unboundedWriter, stopReason := .endData,
    contentHandler := some .ctBuildSignedData, digestAlgos := ["1.3.14.3.2.26"],
    certList := [⟨some sampleCert, [1, 2, 3], none, none⟩] }

/-- The same build before the digest is set. -/
def digestlessCms : Cms := { dataReadyCms with certList := [⟨some sampleCert, [], none, none⟩] }

theorem data_ready_digest_read_back :
    ∃ s' t r, ksbaCmsSetMessageDigest 32 0 (some [1, 2, 3]) digestlessCms = .ok () s' ∧
      ksbaCmsBuild s' = .ok r t ∧
      (r = .needSig ∧ ksbaCmsGetMessageDigest t 0 = .ok (some ⟨some [1, 2, 3], 3⟩)) :=
  ⟨_, _, _, rfl, rfl, @message_digest_read_back 32 digestlessCms _ _ _ _ [1, 2, 3] rfl (.inr rfl)
    rfl (by decide) (by decide) rfl rfl⟩

end Ksba
