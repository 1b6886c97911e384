import KsbaCms.Proof.HashedAttrs
import KsbaCms.Proof.Setup

/-! # Several signers

`cms->cert_list` holds one record per `ksba_cms_add_signer`, the newest at the head, and
the DATAREADY loop of `build_signed_data_attributes` walks all of them.

* `signer_certificates_only_taken`: across every run of the API each record keeps its
  place and its certificate, or has handed the certificate out through
  `ksba_cms_get_cert`; the DATAREADY loop, which rewrites every record, keeps them.
* `data_ready_keeps_last_record`: DATAREADY over any number of signers keeps on each
  record the encoding of its own messageDigest attribute, and leaves as `cms->signer_info`
  (`fixme: the signer_info structure can only save one signerinfo`) the SignerInfos of the
  last record, the first signer added: `ksba_cms_get_message_digest (cms, 0)` then copies
  out that signer's digest and its length, not the digest of the signer of index 0.
* `data_ready_hashes_der_signed_attrs`: the bytes `ksba_cms_hash_signed_attrs (cms, 0)`
  then hands to `hash_fnc`, each range inside the image, are the DER encoding of that signer's signed attributes under
  an explicit SET OF tag, the message-digest input RFC 2630 prescribes.
-/

namespace Ksba
set_option autoImplicit false

/-! ## The certificates of the records across a run -/

/-- The certificates of the records, from the head. -/
def certsOf (s : Cms) : List (Option Cert) := s.certList.map (·.cert)

/-- The certificates of the records from the first signer added: a record keeps its place in
this list when signers are added. -/
def heldCerts (s : Cms) : List (Option Cert) := (certsOf s).reverse

/-- `b` holds the records of `a` at their places, each with its certificate or with none
left, and maybe more records after them. -/
def CertsTaken (a b : List (Option Cert)) : Prop :=
  a.length ≤ b.length ∧ ∀ j < a.length, b[j]? = a[j]? ∨ b[j]? = some none

theorem CertsTaken.refl (a : List (Option Cert)) : CertsTaken a a :=
  ⟨le_refl _, fun _ _ => .inl rfl⟩

theorem CertsTaken.trans {a b c : List (Option Cert)} (h₁ : CertsTaken a b)
    (h₂ : CertsTaken b c) : CertsTaken a c := by
  have hab := h₁.1
  refine ⟨hab.trans h₂.1, fun j hj => ?_⟩
  rcases h₂.2 j (by omega) with e | e
  · rw [e]; exact h₁.2 j hj
  · exact .inr e

theorem certsTaken_append (a b : List (Option Cert)) : CertsTaken a (a ++ b) :=
  ⟨by simp, fun _ hj => .inl (List.getElem?_append_left hj)⟩

/-- Taking the certificate of the `i`-th record from the head. -/
theorem certsTaken_set (l : List (Option Cert)) (i : Nat) :
    CertsTaken l.reverse (l.set i none).reverse := by
  refine ⟨by simp, fun j hj => ?_⟩
  rw [List.length_reverse] at hj
  rw [List.getElem?_reverse (by simpa using hj), List.getElem?_reverse hj, List.length_set,
    List.getElem?_set]
  split_ifs with h₁ h₂
  · exact .inr rfl
  · exact absurd (by omega) h₂
  · exact .inl rfl

/-- A list is unchanged by storing at an index the element it holds there. -/
theorem List.set_of_getElem? {α : Type} {l : List α} {i : Nat} {a : α} (h : l[i]? = some a) :
    l.set i a = l := by
  apply List.ext_getElem?
  intro j
  rw [List.getElem?_set]
  split_ifs with h₁ h₂
  · rw [← h₁, h]
  · exact absurd (List.getElem?_eq_some_iff.mp h).1 h₂
  · rfl

theorem certsOf_set {s : Cms} {i : Nat} {cl x : CertList} (hcl : s.certList[i]? = some cl)
    (hx : x.cert = cl.cert) : (s.certList.set i x).map (·.cert) = certsOf s := by
  rw [List.map_set, hx]
  exact List.set_of_getElem? (by simp [certsOf, hcl])

/-- One turn of the DATAREADY loop rewrites the `k`-th record, keeping its certificate. -/
theorem certsOf_signerAttributes (k : Nat) (cl : CertList) (s : Cms)
    (hk : (s.certList[k]?).map (·.cert) = some cl.cert) :
    certsOf (stateAfter (signerAttributes k cl s)) = certsOf s := by
  obtain ⟨c, hc, hcert⟩ := Option.map_eq_some'.mp hk
  unfold signerAttributes
  cases ha : messageDigestAttr cl with
  | error f => simp [ha]
  | ok attr =>
    simp only [ha, liftFault_ok_bind, modify_bind, derEncodeTree]
    have hp : Preserves certsOf (liftErr (signedAttrsTree (layoutSeq 0 attr) (encSeq attr)) >>=
        fun root => modify fun cms => { cms with
          signerInfoRoot := some (layoutSeq 0 root), signerInfoImage := some (encSeq root) }) :=
      .bind (.liftErr _) fun _ => .modify fun _ => by rfl
    rw [hp]
    exact certsOf_set hc hcert.symm

theorem certsOf_attributesLoop (k : Nat) (cls : List CertList) (oids : List String) :
    ∀ s : Cms, (∀ j cl, cls[j]? = some cl → (s.certList[k + j]?).map (·.cert) = some cl.cert) →
      certsOf (stateAfter (attributesLoop k cls oids s)) = certsOf s := by
  induction k, cls, oids using attributesLoop.induct with
  | case1 => intros; rfl
  | case2 => intros; rfl
  | case3 k cl cls o oids ih =>
    intro s hs
    simp only [attributesLoop]
    rw [bind_apply]
    have h0 := certsOf_signerAttributes k cl s (hs 0 cl (by simp))
    cases h : signerAttributes k cl s with
    | error e t => rw [h] at h0; exact h0
    | ok u t =>
      rw [h, stateAfter_ok] at h0
      refine (ih t fun j c hc => ?_).trans h0
      have e := congrArg (·[k + 1 + j]?) h0
      simp only [certsOf, List.getElem?_map] at e
      rw [e, show k + 1 + j = k + (j + 1) by omega]
      exact hs (j + 1) c (by simpa using hc)

theorem certsOf_buildSignedDataAttributes : Preserves certsOf buildSignedDataAttributes := by
  intro s
  have hw : Preserves certsOf (berWriteTl 0 .universal false 0) :=
    preserves_berWriteTl (fun _ _ => by rfl) _ _ _ _
  unfold buildSignedDataAttributes
  rw [bind_apply]
  cases h : berWriteTl 0 .universal false 0 s with
  | error e t => exact hw.of_error h
  | ok u t =>
    simp only [get_bind, failIf_bind]
    split_ifs
    · exact hw.of_ok h
    · exact hw.of_ok h
    · rw [certsOf_attributesLoop 0 _ _ t fun j cl hc => by simp [hc], hw.of_ok h]

/-- No handler changes the certificate of a record. -/
theorem certsOf_runHandler (h : Handler) : Preserves certsOf (runHandler h) := by
  have hact : ∀ st, Preserves certsOf (buildAction st) := fun st => by
    cases st
    · exact buildAction_start_preserves (fun _ _ => by rfl) (fun _ _ => by rfl)
    · exact certsOf_buildSignedDataAttributes
    · exact preserves_buildSignedDataRest (fun _ _ => by rfl)
    · exact .fail _
  cases h
  case ctParseSignedData =>
    have hp : ∀ st, Preserves certsOf (parseAction st) :=
      parseAction_preserves (fun _ _ _ _ _ => by rfl) (fun _ _ _ => by rfl)
    exact (preserves_signedDataHandler (fun _ _ => by rfl) hp : Preserves certsOf ctParseSignedData)
  case ctBuildSignedData =>
    exact (preserves_signedDataHandler (fun _ _ => by rfl) hact : Preserves certsOf ctBuildSignedData)
  all_goals exact .fail _

/-- Every call keeps each record's place and certificate, or takes the certificate, or adds
a record behind the others. -/
theorem certsTaken_next {dim : Nat} {c : Call} {s s' : Cms} (h : c.next dim s = some s') :
    CertsTaken (heldCerts s) (heldCerts s') := by
  rw [← Call.stateAfter_of_next h]
  have keep : ∀ {α : Type} {x : CmsM α}, Preserves certsOf x →
      CertsTaken (heldCerts s) (heldCerts (stateAfter (x s))) := fun hx => by
    unfold heldCerts
    rw [hx s]
    exact .refl _
  cases c
  case parse =>
    simp only [Call.run]; rw [stateAfter_bind_pure]
    exact keep (preserves_engineCall (preserves_parseInit fun _ _ _ _ _ => by rfl) certsOf_runHandler)
  case build =>
    simp only [Call.run]; rw [stateAfter_bind_pure]
    exact keep (preserves_engineCall (preserves_buildInit fun _ _ => by rfl) certsOf_runHandler)
  case addSigner cert =>
    simp only [Call.run, ksbaCmsAddSigner, modify_apply, stateAfter_ok, heldCerts, certsOf,
      List.map_cons, List.reverse_cons]
    exact certsTaken_append _ _
  case setMessageDigest idx dg =>
    rcases certList_setMessageDigest dim idx dg s with e | ⟨i, cl, d, hcl, e⟩ <;>
      unfold heldCerts certsOf <;> rw [Call.run, e]
    · exact .refl _
    · have e' : (s.certList.set i { cl with msgDigest := d }).map (·.cert) = certsOf s :=
        certsOf_set hcl rfl
      rw [e']
      exact .refl _
  case getCert idx =>
    simp only [Call.run]; rw [stateAfter_bind_pure]
    rcases certList_getCert idx s with e | ⟨i, cl, hcl, e⟩ <;> unfold heldCerts certsOf <;> rw [e]
    · exact .refl _
    · rw [List.map_set]
      exact certsTaken_set _ i
  case getDigestAlgo idx =>
    simp only [Call.run]; rw [stateAfter_bind_pure]
    exact keep (preserves_ksbaCmsGetDigestAlgo (fun _ _ => by rfl) idx)
  case setReaderWriter r w => exact keep (preserves_ksbaCmsSetReaderWriter (fun _ _ _ => by rfl) r w)
  case setContentType what type =>
    exact keep (preserves_ksbaCmsSetContentType (fun _ _ _ _ => by rfl) (fun _ _ => by rfl) what type)
  case addDigestAlgo oid => exact keep (preserves_ksbaCmsAddDigestAlgo (fun _ _ => by rfl) oid)
  case setHashFunction fnc arg =>
    exact keep (preserves_ksbaCmsSetHashFunction (fun _ _ _ => by rfl) fnc arg)
  case writeData b => exact keep (preserves_writeChunk (fun _ _ => by rfl) _)

/-- Over every run of the public API, in any order and with failed calls among them, each
signer record keeps its place, counted from the first signer added, and its certificate,
or has given the certificate up; new records come after the old ones. No call drops,
reorders or exchanges the certificate of a record, and once `ksba_cms_get_cert` has
handed a certificate out, its record never holds one again. -/
theorem signer_certificates_only_taken {dim : Nat} {s t : Cms} {cs : List Call}
    (h : runCalls dim s cs = some t) : CertsTaken (heldCerts s) (heldCerts t) :=
  @runCalls_preserves dim (fun u => CertsTaken (heldCerts s) (heldCerts u))
    (fun hp hc => hp.trans (certsTaken_next hc)) cs s t (.refl _) h

/-- A signer whose certificate was taken, and a second signer added after. -/
def takenCertCms : Cms := { certList := [⟨some firstCert, [], none, none⟩] }

theorem taken_certificate_stays_taken :
    ∃ t, runCalls 20 takenCertCms [.getCert 0, .addSigner (some secondCert), .getCert 1] =
        some t ∧ heldCerts t = [none, some secondCert] ∧
      CertsTaken (heldCerts takenCertCms) (heldCerts t) :=
  ⟨_, rfl, rfl, @signer_certificates_only_taken 20 takenCertCms _
    [.getCert 0, .addSigner (some secondCert), .getCert 1] rfl⟩

/-! ## DATAREADY over several signers -/

/-- A record with the encoded messageDigest attribute of its own digest, as DATAREADY leaves
it. -/
def withAttr (cl : CertList) : CertList :=
  { cl with attrRoot := some (derEncodeTree (mdAttrOf "Attribute" cl.msgDigest)).1,
            attrImage := some (derEncodeTree (mdAttrOf "Attribute" cl.msgDigest)).2 }

/-- One turn of the loop, for a record with a certificate and a digest. -/
theorem signerAttributes_of_ok {k : Nat} {cl : CertList} (hc : cl.cert.isSome)
    (hd : cl.msgDigest ≠ []) (s : Cms) :
    signerAttributes k cl s = .ok () { s with
      certList := s.certList.set k (withAttr cl),
      signerInfoRoot := some (derEncodeTree (dataReadyTree cl.msgDigest)).1,
      signerInfoImage := some (derEncodeTree (dataReadyTree cl.msgDigest)).2 } := by
  have ht := signedAttrsTree_mdAttr cl.msgDigest
  simp only [derEncodeTree] at ht
  simp only [signerAttributes, messageDigestAttr_ok hc hd, liftFault_ok_bind, derEncodeTree,
    modify_bind, ht, liftErr_ok_bind, modify_apply]
  rfl

theorem set_map_withAttr (pre rest : List CertList) (x y : CertList) :
    (pre.map withAttr ++ x :: rest).set pre.length y = pre.map withAttr ++ y :: rest := by
  rw [List.set_append_right _ _ (by simp)]
  simp

/-- The loop from the first of the records `cls ++ [cl]` not yet done: each gets its
attribute, and the last one's SignerInfos is what is left in `cms->signer_info`. -/
theorem attributesLoop_last {cl : CertList} (hcl : cl.cert.isSome ∧ cl.msgDigest ≠ []) :
    ∀ (cls pre : List CertList) (oids : List String) (s : Cms),
      s.certList = pre.map withAttr ++ (cls ++ [cl]) →
      (∀ c ∈ cls, c.cert.isSome ∧ c.msgDigest ≠ []) → cls.length < oids.length →
      attributesLoop pre.length (cls ++ [cl]) oids s = .ok () { s with
        certList := (pre ++ cls ++ [cl]).map withAttr,
        signerInfoRoot := some (derEncodeTree (dataReadyTree cl.msgDigest)).1,
        signerInfoImage := some (derEncodeTree (dataReadyTree cl.msgDigest)).2 } := by
  intro cls
  induction cls with
  | nil =>
    intro pre oids s hs _ ho
    obtain ⟨o, oids, rfl⟩ := List.exists_cons_of_length_pos ho
    simp only [List.nil_append, attributesLoop]
    rw [bind_ok _ (signerAttributes_of_ok hcl.1 hcl.2 s)]
    simp only [attributesLoop, pure_apply, hs, List.nil_append, List.singleton_append,
      set_map_withAttr, List.map_append, List.map_cons, List.map_nil, List.append_nil]
  | cons c cls ih =>
    intro pre oids s hs hok ho
    obtain ⟨o, oids, rfl⟩ := List.exists_cons_of_length_pos (by omega : 0 < oids.length)
    have hc := hok c (.head _)
    simp only [List.cons_append, attributesLoop, List.append_eq]
    rw [bind_ok _ (signerAttributes_of_ok hc.1 hc.2 s), show pre.length + 1 = (pre ++ [c]).length by simp,
      ih (pre ++ [c]) oids _ ?_ (fun c h => hok c (.tail _ h)) (by simpa using ho)]
    · simp only [List.append_assoc, List.singleton_append, List.cons_append, List.nil_append]
    · simp only [hs, List.cons_append, set_map_withAttr, List.map_append, List.map_cons,
        List.map_nil, List.append_assoc, List.singleton_append, List.nil_append]

/-- DATAREADY over the records `cls ++ [cl]`, each with a certificate and a digest, with a
digest algorithm for each and a writer that takes the end-of-contents: the container it
leaves. -/
theorem ksbaCmsBuild_dataReady_state {s : Cms} {cls : List CertList} {cl : CertList}
    {w w' : Writer} (hh : s.contentHandler = some .ctBuildSignedData)
    (hs : s.stopReason = .beginData ∨ s.stopReason = .endData)
    (hc : s.certList = cls ++ [cl]) (hok : ∀ c ∈ cls ++ [cl], c.cert.isSome ∧ c.msgDigest ≠ [])
    (halg : cls.length < s.digestAlgos.length) (hw : s.writer = some w)
    (hw' : w.write (.tl 0 .universal false 0) = .ok w') :
    ksbaCmsBuild s = .ok .needSig { s with
      writer := some w', certList := (cls ++ [cl]).map withAttr,
      signerInfoRoot := some (derEncodeTree (dataReadyTree cl.msgDigest)).1,
      signerInfoImage := some (derEncodeTree (dataReadyTree cl.msgDigest)).2,
      stopReason := .needSig } := by
  set s₀ : Cms := { s with stopReason := .running }
  have htl : berWriteTl 0 .universal false 0 s₀ = .ok () { s₀ with writer := some w' } := by
    simp only [berWriteTl, berWriteTlBytes_eoc, liftErr_ok_bind, writeChunk, get_bind, s₀, hw, someOr_some_bind, hw',
      modify_apply]
  have hloop := attributesLoop_last (hok cl (by simp)) cls [] s.digestAlgos
    { s₀ with writer := some w' } (by simp [s₀, hc]) (fun c h => hok c (by simp [h])) halg
  have ha : buildAction .dataReady s₀ = .ok () { s₀ with
      writer := some w', certList := (cls ++ [cl]).map withAttr,
      signerInfoRoot := some (derEncodeTree (dataReadyTree cl.msgDigest)).1,
      signerInfoImage := some (derEncodeTree (dataReadyTree cl.msgDigest)).2 } := by
    have hne : s.digestAlgos.isEmpty = false :=
      List.isEmpty_eq_false.mpr (List.ne_nil_of_length_pos (by omega))
    have hce : (cls ++ [cl]).isEmpty = false := List.isEmpty_eq_false.mpr (by simp)
    simp only [buildAction, buildSignedDataAttributes]
    rw [bind_ok _ htl]
    simp only [get_bind, failIf_bind, s₀, hc, hce, Bool.false_eq_true, if_false, hne]
    simpa [s₀, hc] using hloop
  have hst : buildStateOf s.stopReason = .ok .dataReady := by
    rcases hs with e | e <;> rw [e] <;> rfl
  have hb : ctBuildSignedData s = .ok () _ := signedDataHandler_of_ok hst ha
  exact engineCall_of_runHandler_ok (by rcases hs with e | e <;> simp [e]) hh hb

/-- The same, as the facts the read-back theorems use. -/
theorem ksbaCmsBuild_dataReady {s : Cms} {cls : List CertList} {cl : CertList} {w : Writer}
    (hh : s.contentHandler = some .ctBuildSignedData)
    (hs : s.stopReason = .beginData ∨ s.stopReason = .endData)
    (hc : s.certList = cls ++ [cl]) (hok : ∀ c ∈ cls ++ [cl], c.cert.isSome ∧ c.msgDigest ≠ [])
    (halg : cls.length < s.digestAlgos.length) (hw : s.writer = some w) (hroom : w.room ≠ some 0) :
    ∃ t, ksbaCmsBuild s = .ok .needSig t ∧ t.certList = (cls ++ [cl]).map withAttr ∧
      signerInfoOf t = (some (derEncodeTree (dataReadyTree cl.msgDigest)).1,
        some (derEncodeTree (dataReadyTree cl.msgDigest)).2) ∧ t.hashFnc = s.hashFnc := by
  obtain ⟨w', hw'⟩ : ∃ w', w.write (.tl 0 .universal false 0) = .ok w' := by
    unfold Writer.write
    split
    · contradiction
    all_goals exact ⟨_, rfl⟩
  exact ⟨_, ksbaCmsBuild_dataReady_state hh hs hc hok halg hw hw', rfl, rfl, rfl⟩

/-- DATAREADY over any number of signers, each with a certificate and a digest: it returns
NEED_SIG, keeps on every record the encoding of that record's own messageDigest
attribute, and leaves as `cms->signer_info` the SignerInfos of the last record, the first
signer added, so that `ksba_cms_get_message_digest (cms, 0)` returns that signer's digest
whatever the signer of index 0 set. -/
theorem data_ready_keeps_last_record {s : Cms} {cls : List CertList} {cl : CertList}
    {w : Writer} (hh : s.contentHandler = some .ctBuildSignedData)
    (hs : s.stopReason = .beginData ∨ s.stopReason = .endData)
    (hc : s.certList = cls ++ [cl]) (hok : ∀ c ∈ cls ++ [cl], c.cert.isSome ∧ c.msgDigest ≠ [])
    (halg : cls.length < s.digestAlgos.length) (hw : s.writer = some w) (hroom : w.room ≠ some 0) :
    ∃ t, ksbaCmsBuild s = .ok .needSig t ∧ t.certList = (cls ++ [cl]).map withAttr ∧
      ksbaCmsGetMessageDigest t 0 = .ok (some ⟨some cl.msgDigest, cl.msgDigest.length⟩) := by
  obtain ⟨t, hb, hcl, hi, -⟩ := ksbaCmsBuild_dataReady hh hs hc hok halg hw hroom
  obtain ⟨hr, himg⟩ := Prod.mk.inj hi
  exact ⟨t, hb, hcl, getMessageDigest_dataReady hr himg⟩

/-- Two signers at END_DATA: the first added, at index 1, with the digest `01 02 03`; the
second, at index 0, with `04 05`. -/
def twoSignerCms : Cms :=
  { writer := some unboundedWriter, stopReason := .endData,
    contentHandler := some .ctBuildSignedData, digestAlgos := ["1.3.14.3.2.26", "1.3.14.3.2.26"],
    certList := [⟨some secondCert, [4, 5], none, none⟩, ⟨some firstCert, [1, 2, 3], none, none⟩] }

theorem two_signers_read_first_digest :
    ∃ t, ksbaCmsBuild twoSignerCms = .ok .needSig t ∧
      t.certList = ([(⟨some secondCert, [4, 5], none, none⟩ : CertList)] ++
        [(⟨some firstCert, [1, 2, 3], none, none⟩ : CertList)]).map withAttr ∧
      ksbaCmsGetMessageDigest t 0 = .ok (some ⟨some [1, 2, 3], 3⟩) :=
  @data_ready_keeps_last_record twoSignerCms [⟨some secondCert, [4, 5], none, none⟩]
    ⟨some firstCert, [1, 2, 3], none, none⟩ unboundedWriter rfl (.inr rfl) rfl
    (by decide) (by decide) rfl (by decide)

/-! ## The bytes hashed -/

/-- A DER TLV with a one-byte tag: the tag, the definite length, the content (X.690 §8.1). -/
def derTlv (tag : UInt8) (content : Bytes) : Bytes := tag :: derLength content.length ++ content

/-- Written from RFC 2630 §5.4: the message-digest input for signed attributes holding only
the messageDigest attribute with the digest `d`. It is the DER encoding of the
SignedAttributes with an explicit SET OF tag in place of the IMPLICIT `[0]`: a SET OF one
Attribute, a SEQUENCE of the OID and a SET holding `d` as an OCTET STRING. -/
def rfcSignedAttrsDer (d : Bytes) : Bytes :=
  derTlv 0x31 (derTlv 0x30 (derTlv 0x06 oidMessageDigest ++ derTlv 0x31 (derTlv 0x04 d)))

/-- The signedAttrs element DATAREADY encodes is that encoding with the tag `[0]`. -/
theorem signedAttrsTlv_eq_rfc (d : Bytes) :
    signedAttrsTlv d = 0xA0 :: (rfcSignedAttrsDer d).tail := by
  simp [signedAttrsTlv, rfcSignedAttrsDer, derTlv, encNode, encSeq, signedAttrsBody, mdAttrOf,
    tnode, NodeInfo.kind, NodeInfo.tagByte, NodeType.universalTag]

/-- After DATAREADY over any number of signers, with a hash function set,
`ksba_cms_hash_signed_attrs (cms, 0)` hands `hash_fnc` the byte `0x31`, then the rest of
`rfcSignedAttrsDer` for the digest of the last record: together, exactly the DER encoding
RFC 2630 asks to be digested, for the first signer added. -/
theorem data_ready_hashes_der_signed_attrs {s : Cms} {cls : List CertList} {cl : CertList}
    {w : Writer} (hh : s.contentHandler = some .ctBuildSignedData)
    (hs : s.stopReason = .beginData ∨ s.stopReason = .endData)
    (hc : s.certList = cls ++ [cl]) (hok : ∀ c ∈ cls ++ [cl], c.cert.isSome ∧ c.msgDigest ≠ [])
    (halg : cls.length < s.digestAlgos.length) (hw : s.writer = some w) (hroom : w.room ≠ some 0)
    (hf : s.hashFnc.isSome) :
    ∃ t, ksbaCmsBuild s = .ok .needSig t ∧
      ksbaCmsHashSignedAttrs t 0 =
        .ok [some [0x31], some (rfcSignedAttrsDer cl.msgDigest).tail] := by
  obtain ⟨t, hb, -, hi, hfn⟩ := ksbaCmsBuild_dataReady hh hs hc hok halg hw hroom
  exact ⟨t, hb, by
    rw [(hashSignedAttrs_dataReady (hfn ▸ hf) hi).2, signedAttrsTlv_eq_rfc, List.tail_cons]⟩

theorem two_signers_hash_first_attrs :
    ∃ t, ksbaCmsBuild { twoSignerCms with hashFnc := some 1 } = .ok .needSig t ∧
      ksbaCmsHashSignedAttrs t 0 = .ok [some [0x31], some (rfcSignedAttrsDer [1, 2, 3]).tail] :=
  @data_ready_hashes_der_signed_attrs { twoSignerCms with hashFnc := some 1 }
    [⟨some secondCert, [4, 5], none, none⟩] ⟨some firstCert, [1, 2, 3], none, none⟩
    unboundedWriter rfl (.inr rfl) rfl (by decide) (by decide) rfl (by decide) rfl

end Ksba
