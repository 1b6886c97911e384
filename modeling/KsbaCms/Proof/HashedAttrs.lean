import KsbaCms.Proof.Stores
import KsbaCms.Proof.SignedAttrs
import KsbaCms.Proof.Cache

/-! # The hashed and the written signed attributes

DATAREADY encodes the messageDigest attribute of the signer, keeps that encoding on the
signer's record, and keeps the encoding of a SignerInfos tree holding it as
`cms->signer_info`; `ksba_cms_hash_signed_attrs` hands `0x31` and the range of the
signedAttrs element of that image, without its first byte, to `hash_fnc`. GOTSIG builds a
second SignerInfos tree by nine stores and copies into the template, the attribute copied from the record
among them, and writes its image with the first byte patched to `0xA0`.

* `signerInfoTree_agrees`: whatever certificate and digest algorithm the stores take,
  GOTSIG's tree agrees with DATAREADY's at the signedAttrs node, with its subtree, and on
  everything the lookups and the encoder read above it (`Agrees` of Proof/Stores).
* `Agrees.signedAttrs_slice`: in the image of any tree that so agrees, the signedAttrs element
  is the same bytes, `signedAttrsTlv d`.
* `DataReady`: what DATAREADY leaves until GOTSIG; every call keeps it
  (`DataReady.next`, `DataReady.runCalls`).
* `hashed_signed_attrs_are_written`: the range hashed lies in the image and is one byte
  shorter than the signedAttrs element GOTSIG writes, and the bytes hashed are `0x31` and
  the bytes of that element after the first.
-/

namespace Ksba
set_option autoImplicit false

/-! ## Peeling a tree built in `Except Fault` -/

section Peel

variable {α β : Type} {b : β}

theorem someOr_bind_eq_ok {e : KsbaError} {x : Option α} {g : α → Except Fault β}
    (h : (someOr e x >>= g) = .ok b) : ∃ a, x = some a ∧ g a = .ok b := by
  cases x with
  | none => cases h
  | some a => exact ⟨a, rfl, h⟩

theorem liftErr_bind_eq_ok {x : Except KsbaError α} {g : α → Except Fault β}
    (h : (liftErr x >>= g) = .ok b) : ∃ a, x = .ok a ∧ g a = .ok b := by
  cases x with
  | error e => cases h
  | ok a => exact ⟨a, rfl, h⟩

theorem liftErr_eq_ok {x : Except KsbaError α} {a : α} (h : (liftErr x : Except Fault α) = .ok a) :
    x = .ok a := by
  cases x with
  | error e => cases h
  | ok a => exact congrArg Except.ok (Except.ok.inj h)

theorem failIf_bind_eq_ok {c : Bool} {e : KsbaError} {g : Unit → Except Fault β}
    (h : (failIf c e >>= g) = .ok b) : c = false ∧ g () = .ok b := by
  cases c with
  | true => cases h
  | false => exact ⟨rfl, h⟩

theorem check_bind_eq_ok {c : Bool} {g : Unit → Except Fault β} (h : (check c >>= g) = .ok b) :
    c = true ∧ g () = .ok b := by
  cases c with
  | false => cases h
  | true => exact ⟨rfl, h⟩

theorem option_elim_eq_ok {ε : Type} {o : Option α} {e : ε} {a : α}
    (h : o.elim (Except.error e) Except.ok = Except.ok a) : o = some a := by
  cases o with
  | none => cases h
  | some a => exact congrArg some (Except.ok.inj h)

end Peel

/-! ## The tree GOTSIG builds -/

/-- Where `SignerInfos..sid` is: the second child of the SignerInfo. -/
def sidPos : Pos := [.down, .down, .right]

/-- Where `SignerInfos..signedAttrs` is: the fourth child of the SignerInfo. -/
def signedAttrsPos : Pos := [.down, .down, .right, .right, .right]


/-- A lookup in a tree that agrees with `B` finds what it finds in `B`. -/
theorem Agrees.lookup {B root : AsnNode} {e : KsbaError} {path : String} {pos : Pos}
    {m : Pos → Except Fault AsnNode} {b : AsnNode}
    (h : (someOr e (asnFindNode root path) >>= m) = .ok b)
    (hA : Agrees 5 signedAttrsPos root B) (hpath : asnFindNode B path = some pos)
    (hlen : (splitPath path.toList).length ≤ 5) : m pos = .ok b := by
  obtain ⟨n, hn, h⟩ := someOr_bind_eq_ok h
  rw [hA.find_eq hlen, hpath, Option.some.injEq] at hn
  rwa [hn]

/-- `set_issuer_serial` on the `sid` node copies below it, apart from `signedAttrs`. -/
theorem setIssuerSerial_agrees {root root' : AsnNode} {cert : Option Cert}
    (hA : Agrees 5 signedAttrsPos root signerInfosTemplate)
    (h : setIssuerSerial root sidPos cert = .ok root') : Agrees 5 signedAttrsPos root' root := by
  unfold setIssuerSerial at h
  obtain ⟨_, -, h⟩ := except_bind_eq_ok h
  obtain ⟨sid, hsid, h⟩ := except_bind_eq_ok h
  obtain ⟨root₁, h₁, h⟩ := except_bind_eq_ok h
  obtain ⟨sid₁, hsid₁, h⟩ := except_bind_eq_ok h
  rw [hA.find_eq_at (by decide) (option_elim_eq_ok hsid) rfl (by decide)] at h₁
  have a₁ : Agrees 5 signedAttrsPos root₁ root := .of_derCopyTree h₁ rfl (by decide) (by decide)
  rw [(a₁.trans hA).find_eq_at (by decide) (option_elim_eq_ok hsid₁) rfl (by decide)] at h
  exact (Agrees.of_derCopyTree h rfl (by decide) (by decide)).trans a₁

theorem copyNodeOf_name {src : AsnNode} {i : NodeInfo} {d : AsnNode} {x : NodeInfo × AsnNode}
    (h : copyNodeOf src i d = .ok x) : x.1.name = i.name := by
  unfold copyNodeOf at h
  split at h
  · cases h
  · split_ifs at h
    cases h
    rfl

/-- The walk of `build_signed_data_rest` from `signedAttrs` to the element of the SET OF
reads only that node and its subtree. -/
theorem firstSequenceBelow_congr {t u : AsnNode} {p : Pos}
    (h : (nodeAt t p).map AsnNode.alone = (nodeAt u p).map AsnNode.alone) :
    firstSequenceBelow t p = firstSequenceBelow u p := by
  have e : nodeAt t (p ++ [.down, .down]) = nodeAt u (p ++ [.down, .down]) := by
    rw [nodeAt_append, nodeAt_append]
    cases ht : nodeAt t p <;> cases hu : nodeAt u p <;> simp only [ht, hu] at h <;> try cases h
    · rfl
    · simp only [Option.map_some', Option.some.injEq] at h
      simp only [Option.some_bind]
      rw [nodeAt_down_alone, h, ← nodeAt_down_alone]
  simp only [firstSequenceBelow, e]

/-- The copy of the encoded messageDigest attribute into the element below `signedAttrs`
gives the signedAttrs node of DATAREADY's tree. -/
theorem Agrees.copy_signedAttrs {r r' : AsnNode} {d : Bytes}
    (hA : Agrees 5 signedAttrsPos r signerInfosTemplate)
    (h : modifyAt (copyNodeOf (mdAttrOf "Attribute" d)) r (signedAttrsPos ++ [.down, .down, .right]) =
      .ok r') : Agrees 5 signedAttrsPos r' (dataReadyTree d) := by
  obtain ⟨n, n', hn, hm, hn'⟩ := modifyAt_append h
  have hal : some n.alone = (nodeAt signerInfosTemplate signedAttrsPos).map AsnNode.alone := by
    rw [← hA.atQ, hn, Option.map_some']
  have hcopy := modifyAt_alone (copyNodeOf (mdAttrOf "Attribute" d)) n [.down, .right]
  rw [hm, (Option.some.inj hal.symm : _ = n.alone).symm] at hcopy
  refine ⟨(namesTo_modifyAt h (fun _ _ _ => copyNodeOf_name) (.inl (by decide))).trans hA.names,
    (top_modifyAt h).trans hA.top, (down_top_modifyAt h).trans hA.downTop, ?_⟩
  rw [hn', Option.map_some']
  exact congrArg some (Except.ok.inj hcopy.symm)

/-- The attribute fields of a record: not set, or the encoding DATAREADY made of the
messageDigest attribute of `d`. -/
def AttrFrom (d : Bytes) (cl : CertList) : Prop :=
  cl.attrRoot = none ∨ (cl.attrRoot = some (derEncodeTree (mdAttrOf "Attribute" d)).1 ∧
    cl.attrImage = some (derEncodeTree (mdAttrOf "Attribute" d)).2)

/-- Whatever the certificate and the digest algorithm, the tree GOTSIG builds for a record
whose attribute DATAREADY encoded from the digest `d` agrees with DATAREADY's tree at the
signedAttrs node and on everything read above it. A record without an attribute makes the
build fail. -/
theorem signerInfoTree_agrees {cl : CertList} {oid : String} {root : AsnNode} {d : Bytes}
    (hattr : AttrFrom d cl) (h : signerInfoTree cl oid = .ok root) :
    Agrees 5 signedAttrsPos root (dataReadyTree d) := by
  unfold signerInfoTree at h
  obtain ⟨-, h⟩ := failIf_bind_eq_ok h
  obtain ⟨T, hT, h⟩ := someOr_bind_eq_ok h
  obtain rfl : signerInfosTemplate = T := Option.some.inj hT
  have a₀ := Agrees.refl 5 signedAttrsPos signerInfosTemplate
  obtain ⟨r₁, h₁, h⟩ := liftErr_bind_eq_ok (a₀.lookup h rfl (by decide))
  have a₁ := (Agrees.of_storedAt (derStoreInteger_storedAt h₁) (by decide)).trans a₀
  obtain ⟨r₂, h₂, h⟩ := liftErr_bind_eq_ok (a₁.lookup h rfl (by decide))
  have a₂ := (setIssuerSerial_agrees a₁ h₂).trans a₁
  obtain ⟨r₃, h₃, h⟩ := liftErr_bind_eq_ok (a₂.lookup h rfl (by decide))
  have a₃ := (Agrees.of_storedAt (derStoreOid_storedAt h₃) (by decide)).trans a₂
  obtain ⟨r₄, h₄, h⟩ := liftErr_bind_eq_ok (a₃.lookup h rfl (by decide))
  have a₄ := (Agrees.of_storedAt (derStoreNull_storedAt h₄) (by decide)).trans a₃
  obtain ⟨-, h⟩ := failIf_bind_eq_ok (a₄.lookup h rfl (by decide))
  obtain ⟨q, hq, h⟩ := someOr_bind_eq_ok h
  obtain rfl : q = signedAttrsPos ++ [Dir.down, Dir.down, Dir.right] :=
    Option.some.inj ((firstSequenceBelow_congr a₄.atQ).symm.trans hq).symm
  obtain ⟨hroot, h⟩ := check_bind_eq_ok h
  obtain ⟨-, h⟩ := check_bind_eq_ok h
  obtain ⟨hr, hi⟩ := hattr.resolve_left fun hn => by simp [hn] at hroot
  rw [hr, hi, Option.getD_some, derCopyTree_derEncodeTree (normal_mdAttrOf _ _)] at h
  obtain ⟨r₅, h₅, h⟩ := liftErr_bind_eq_ok h
  have a₅ := a₄.copy_signedAttrs h₅
  obtain ⟨r₆, h₆, h⟩ := liftErr_bind_eq_ok (a₅.lookup h rfl (by decide))
  have a₆ := (Agrees.of_storedAt (derStoreOid_storedAt h₆) (by decide)).trans a₅
  obtain ⟨r₇, h₇, h⟩ := liftErr_bind_eq_ok (a₆.lookup h rfl (by decide))
  have a₇ := (Agrees.of_storedAt (derStoreNull_storedAt h₇) (by decide)).trans a₆
  have h₈ := liftErr_eq_ok (a₇.lookup h rfl (by decide))
  exact (Agrees.of_storedAt (derStoreOctetString_storedAt h₈) (by decide)).trans a₇

/-! ## The signedAttrs element in an image -/

/-- The signedAttrs element of DATAREADY's tree for the digest `d`, as the encoder writes
it: `[0]` constructed, then the length, then the attributes. -/
def signedAttrsTlv (d : Bytes) : Bytes :=
  encNode { name := "signedAttrs", type := .setOf, tag := some 0 }
    (encSeq (signedAttrsBody (mdAttrOf "" d)))

theorem signedAttrsTlv_cons (d : Bytes) : ∃ rest, signedAttrsTlv d = 0xA0 :: rest := ⟨_, rfl⟩

theorem downEncoded_rights (t : AsnNode) (n : Nat) :
    downEncoded t (List.replicate n .right) = true := by
  induction n generalizing t with
  | zero => cases t <;> rfl
  | succ n ih =>
    cases t with
    | nil => rfl
    | node i d r => exact ih r

/-- Two nodes that differ only in their layouts encode to the same bytes. -/
theorem encNode_of_clearLayout_eq {i i' : NodeInfo} {d d' r r' : AsnNode}
    (h : clearLayout (.node i d r) = clearLayout (.node i' d' r')) :
    encNode i (encSeq d) = encNode i' (encSeq d') := by
  simp only [clearLayout, AsnNode.node.injEq] at h
  rw [← encNode_layout i (-1) 0 0, h.1, encNode_layout, ← encSeq_clearLayout d, h.2.1,
    encSeq_clearLayout]

/-- In a tree that agrees with DATAREADY's, the lookup of `signedAttrs` lands on
DATAREADY's node, and every node on the way holds its children in the encoding. -/
theorem Agrees.signedAttrs_node {t : AsnNode} {d : Bytes}
    (hA : Agrees 5 signedAttrsPos t (dataReadyTree d)) :
    asnFindNode t "SignerInfos..signedAttrs" = some signedAttrsPos ∧
      (∃ r, nodeAt t signedAttrsPos =
        some (.node { name := "signedAttrs", type := .setOf, tag := some 0 }
          (signedAttrsBody (mdAttrOf "" d)) r)) ∧
      downEncoded t signedAttrsPos = true := by
  refine ⟨(hA.find_eq (by decide)).trans rfl, ?_, ?_⟩
  · have h := hA.atQ
    cases hn : nodeAt t signedAttrsPos with
    | none => rw [hn] at h; cases h
    | some n =>
      rw [hn] at h
      rcases n with _ | ⟨i, dn, r⟩ <;> cases h
      exact ⟨r, rfl⟩
  · have htop := hA.top
    have hdown := hA.downTop
    rcases t with _ | ⟨i, _ | ⟨j, c, r₁⟩, r₀⟩ <;> cases htop <;> cases hdown
    exact downEncoded_rights c 3

/-- In the image of any tree that agrees with DATAREADY's, the node the lookup of
`signedAttrs` finds in the encoded tree is in the image, and its bytes are
`signedAttrsTlv d`. -/
theorem Agrees.signedAttrs_slice {t : AsnNode} {d : Bytes}
    (hA : Agrees 5 signedAttrsPos t (dataReadyTree d)) :
    ∃ i dn r, findNodeAt (derEncodeTree t).1 "SignerInfos..signedAttrs" = some (.node i dn r) ∧
      0 ≤ i.off ∧ i.nhdr + i.len = (signedAttrsTlv d).length ∧
      imageSlice (derEncodeTree t).2 i.off (i.nhdr + i.len) = signedAttrsTlv d := by
  obtain ⟨hf, ⟨r, hn⟩, hdown⟩ := hA.signedAttrs_node
  have hc := nodeAt_clearLayout (layoutSeq 0 t) signedAttrsPos
  rw [clearLayout_layoutSeq, nodeAt_clearLayout, hn, Option.map_some'] at hc
  obtain ⟨n, hn', hcl⟩ := Option.map_eq_some'.mp hc.symm
  rcases n with _ | ⟨i, dn, r'⟩
  · cases hcl
  have hp := layoutSeq_inPlace_at hdown [] [] hn'
  simp only [InPlace, List.nil_append, List.append_nil, encNode_of_clearLayout_eq hcl] at hp
  have hne : i.off ≠ -1 := hp.1.mpr fun h => by
    obtain ⟨rest, hr⟩ := signedAttrsTlv_cons d
    exact List.cons_ne_nil _ _ (hr.symm.trans h)
  obtain ⟨h0, -, hlen, hslice⟩ := hp.2 hne
  exact ⟨i, dn, r', by simp [findNodeAt, hf, hn', derEncodeTree], h0, hlen, hslice⟩

/-! ## From DATAREADY to GOTSIG -/

/-- A record changed at index `i` in fields other than the attribute. -/
theorem attrFrom_set {d : Bytes} {l : List CertList} {i : Nat} {cl x : CertList}
    (hl : ∀ c ∈ l, AttrFrom d c) (hcl : l[i]? = some cl) (hr : x.attrRoot = cl.attrRoot)
    (hi : x.attrImage = cl.attrImage) : ∀ c ∈ l.set i x, AttrFrom d c := by
  intro c hc
  rcases List.mem_or_eq_of_mem_set hc with hc | rfl
  · exact hl c hc
  · unfold AttrFrom
    rw [hr, hi]
    exact hl cl (List.getElem?_mem hcl)

theorem certList_setMessageDigest (dim : Nat) (idx : Int) (dg : Option Bytes) (s : Cms) :
    (stateAfter (ksbaCmsSetMessageDigest dim idx dg s)).certList = s.certList ∨
      ∃ i cl d, s.certList[i]? = some cl ∧
        (stateAfter (ksbaCmsSetMessageDigest dim idx dg s)).certList =
          s.certList.set i { cl with msgDigest := d } := by
  unfold ksbaCmsSetMessageDigest
  cases dg with
  | none => exact .inl rfl
  | some d =>
    simp only [someOr_some_bind, failIf_bind, get_bind]
    split_ifs
    · exact .inl rfl
    · exact .inl rfl
    · cases hcl : s.certList[idx.toNat]? with
      | none => exact .inl (by simp [hcl])
      | some cl => exact .inr ⟨_, cl, d, hcl, by simp [hcl]⟩

theorem certList_getCert (idx : Int) (s : Cms) :
    (stateAfter (ksbaCmsGetCert idx s)).certList = s.certList ∨
      ∃ i cl, s.certList[i]? = some cl ∧
        (stateAfter (ksbaCmsGetCert idx s)).certList = s.certList.set i { cl with cert := none } := by
  unfold ksbaCmsGetCert
  split_ifs
  · exact .inl rfl
  · simp only [pure_bind_apply, get_bind]
    cases hcl : s.certList[idx.toNat]? with
    | none => exact .inl (by simp [hcl])
    | some cl => exact .inr ⟨_, cl, hcl, by simp [hcl]⟩

/-- From a settled stop reason every call keeps each record's attribute fields, or adds a
record without them. -/
theorem attrFrom_next {d : Bytes} {dim : Nat} {c : Call} {s s' : Cms}
    (hl : ∀ cl ∈ s.certList, AttrFrom d cl) (hs : SignerInfoSettled s.stopReason)
    (h : c.next dim s = some s') : ∀ cl ∈ s'.certList, AttrFrom d cl := by
  rw [← Call.stateAfter_of_next h]
  have keep : ∀ {α : Type} {x : CmsM α}, Preserves Cms.certList x →
      ∀ cl ∈ (stateAfter (x s)).certList, AttrFrom d cl := fun hx cl hc => hl cl (hx s ▸ hc)
  have engine : ∀ init : CmsM Unit, ∀ cl ∈ (stateAfter (engineCall init s)).certList,
      AttrFrom d cl := fun init => by
    rw [stateAfter_engineCall, if_neg (settled_ne_none hs)]
    split
    · rw [@runHandler_preservesAt_settled _ Cms.certList (fun _ _ => rfl) (fun _ _ => rfl) _ _ hs]
      exact hl
    · exact hl
  cases c
  case parse | build => simp only [Call.run]; rw [stateAfter_bind_pure]; exact engine _
  case setReaderWriter r w => exact keep (preserves_ksbaCmsSetReaderWriter (fun _ _ _ => by rfl) r w)
  case setContentType what type =>
    exact keep (preserves_ksbaCmsSetContentType (fun _ _ _ _ => by rfl) (fun _ _ => by rfl) what type)
  case addDigestAlgo oid => exact keep (preserves_ksbaCmsAddDigestAlgo (fun _ _ => by rfl) oid)
  case addSigner cert =>
    rintro cl (_ | ⟨_, hc⟩)
    · exact .inl rfl
    · exact hl cl hc
  case setMessageDigest idx dg =>
    rcases certList_setMessageDigest dim idx dg s with e | ⟨i, cl, d', hcl, e⟩ <;> rw [Call.run, e]
    · exact hl
    · exact attrFrom_set hl hcl rfl rfl
  case setHashFunction fnc arg =>
    exact keep (preserves_ksbaCmsSetHashFunction (fun _ _ _ => by rfl) fnc arg)
  case getCert idx =>
    simp only [Call.run]; rw [stateAfter_bind_pure]
    rcases certList_getCert idx s with e | ⟨i, cl, hcl, e⟩ <;> rw [e]
    · exact hl
    · exact attrFrom_set hl hcl rfl rfl
  case getDigestAlgo idx =>
    simp only [Call.run]; rw [stateAfter_bind_pure]
    exact keep (preserves_ksbaCmsGetDigestAlgo (fun _ _ => by rfl) idx)
  case writeData b => exact keep (preserves_writeChunk (fun _ _ => by rfl) _)

/-- What DATAREADY for a single signer with the digest `d` leaves until GOTSIG: a settled
stop reason, the encoding of DATAREADY's tree as `cms->signer_info`, and on every record
no attribute or the attribute DATAREADY encoded. -/
structure DataReady (d : Bytes) (s : Cms) : Prop where
  settled : SignerInfoSettled s.stopReason
  info : signerInfoOf s =
    (some (derEncodeTree (dataReadyTree d)).1, some (derEncodeTree (dataReadyTree d)).2)
  attrs : ∀ cl ∈ s.certList, AttrFrom d cl

theorem DataReady.next {d : Bytes} {dim : Nat} {c : Call} {s s' : Cms} (hs : DataReady d s)
    (h : c.next dim s = some s') : DataReady d s' :=
  have hi := signerInfo_next_settled hs.settled h
  ⟨hi.1, hi.2.trans hs.info, attrFrom_next hs.attrs hs.settled h⟩

/-- Whatever calls follow DATAREADY, in whatever order, they keep what it left. -/
theorem DataReady.runCalls {d : Bytes} {dim : Nat} {cs : List Call} {s s' : Cms}
    (hs : DataReady d s) (h : Ksba.runCalls dim s cs = some s') : DataReady d s' :=
  runCalls_preserves (fun hs hc => DataReady.next hs hc) hs h

/-- DATAREADY for a container with one signer record. -/
theorem dataReady_of_build {s t : Cms} {r : StopReason} {cl : CertList}
    (hh : s.contentHandler = some .ctBuildSignedData)
    (hsr : s.stopReason = .beginData ∨ s.stopReason = .endData) (hc : s.certList = [cl])
    (h : ksbaCmsBuild s = .ok r t) : DataReady cl.msgDigest t := by
  have hphase : BuildPhase s := ⟨by rcases hsr with h | h <;> simp [h], by simp [hh]⟩
  obtain ⟨-, hb, -⟩ := ksbaCmsBuild_ok_runs hphase h
  obtain ⟨st, t', hst, ha, rfl⟩ := signedDataHandler_ok hb
  obtain rfl : st = .dataReady := by
    rcases hsr with h | h <;> simp only [h, buildStateOf, Except.ok.injEq] at hst <;> exact hst.symm
  obtain ⟨s', hc', ht⟩ := buildSignedDataAttributes_single_turn
    (show ({ s with stopReason := .running } : Cms).certList = [cl] from hc) ha
  obtain ⟨attr, root, hattr, hroot, rfl⟩ := signerAttributes_state ht
  obtain rfl := messageDigestAttr_eq hattr
  rw [signedAttrsTree_mdAttr, Except.ok.injEq] at hroot
  subst hroot
  refine ⟨.inl rfl, rfl, ?_⟩
  simp only [hc', List.set_cons_zero, List.mem_singleton]
  rintro _ rfl
  exact .inr ⟨rfl, rfl⟩

/-- GOTSIG returns only after the tree of the first signer with the first digest algorithm
is built. -/
theorem buildSignedDataRest_first {s t : Cms} {u : Unit} (h : buildSignedDataRest s = .ok u t) :
    ∃ cl cls oid oids root, s.certList = cl :: cls ∧ s.digestAlgos = oid :: oids ∧
      signerInfoTree cl oid = .ok root := by
  unfold buildSignedDataRest at h
  simp only [get_bind, failIf_bind] at h
  split_ifs at h
  obtain ⟨_, t₁, h₁, -⟩ := bind_eq_ok h
  rcases hc : s.certList with _ | ⟨cl, cls⟩ <;> rcases ho : s.digestAlgos with _ | ⟨oid, oids⟩ <;>
    simp only [hc, ho, List.isEmpty_nil, List.isEmpty_cons] at * <;> try contradiction
  simp only [restLoop] at h₁
  cases hr : signerInfoTree cl oid with
  | error f => simp [hr] at h₁
  | ok root => exact ⟨cl, cls, oid, oids, root, rfl, rfl, hr⟩

/-- After DATAREADY, a build that returns READY is GOTSIG, and the first chunk it writes is
the image of a tree that agrees with DATAREADY's, its first byte patched. -/
theorem DataReady.gotSig {d : Bytes} {s t : Cms} (hs : DataReady d s)
    (h : ksbaCmsBuild s = .ok .ready t) :
    ∃ root more, Agrees 5 signedAttrsPos root (dataReadyTree d) ∧
      Appended s.writer t.writer (.data (patchedImage 0 (derEncodeTree root).2) :: more) := by
  obtain ⟨-, ⟨hn, -⟩ | ⟨-, hd, -, hrun⟩⟩ := engineCall_ok h
  · exact absurd hn (settled_ne_none hs.settled)
  rcases runHandler_ok hrun with ⟨rfl, he⟩ | ⟨rfl, he⟩
  · exact absurd hs.settled he.not_settled
  have hsr : s.stopReason = .needSig := by
    generalize t.stopReason = b at he
    rcases hs.settled with e | e | e <;> rw [e] at he <;> first | exact e | cases he
  have hb : ctBuildSignedData s = .ok () t := hrun
  have happ := ctBuildSignedData_appends hb
  obtain ⟨st, t', hst, ha, -⟩ := signedDataHandler_ok hb
  simp only [hsr, buildStateOf, Except.ok.injEq] at hst
  subst hst
  obtain ⟨cl, cls, oid, oids, root, hcl, ho, hroot⟩ := buildSignedDataRest_first ha
  refine ⟨root, restChunks 1 cls oids ++ [eoc, eoc],
    signerInfoTree_agrees (hs.attrs cl (by simp [show s.certList = cl :: cls from hcl])) hroot, ?_⟩
  simpa [buildStepChunks, hsr, show s.certList = cl :: cls from hcl,
    show s.digestAlgos = oid :: oids from ho, restChunks, hroot] using happ

/-- Over the encoding of DATAREADY's tree for `d`, `ksba_cms_hash_signed_attrs (cms, 0)`
hashes the range of the signedAttrs element after its first byte, `|element| - 1` bytes
long, and that range lies in the image: `hash_fnc` reads `0x31`, then exactly those bytes. -/
theorem hashSignedAttrs_dataReady {d : Bytes} {s : Cms} (hf : s.hashFnc.isSome)
    (h : signerInfoOf s =
      (some (derEncodeTree (dataReadyTree d)).1, some (derEncodeTree (dataReadyTree d)).2)) :
    (∃ o, s.signerInfoRoot.bind signedAttrsRange =
      some (o, ((signedAttrsTlv d).length - 1 : Int))) ∧
      ksbaCmsHashSignedAttrs s 0 = .ok [some [0x31], some (signedAttrsTlv d).tail] := by
  obtain ⟨i, dn, r, hfind, h0, hlen, hslice⟩ :=
    (Agrees.refl 5 signedAttrsPos (dataReadyTree d)).signedAttrs_slice
  obtain ⟨hroot, himg⟩ := Prod.mk.inj h
  obtain ⟨rest, hrest⟩ := signedAttrsTlv_cons d
  rw [hrest] at hslice hlen ⊢
  have hin := imageSlice_within (List.cons_ne_nil _ _) hlen hslice
  simp only [List.length_cons] at hlen
  have hoff : i.off ≠ -1 := by omega
  have hrange : s.signerInfoRoot.bind signedAttrsRange = some (i.off + 1, i.nhdr + i.len - 1) := by
    simp only [hroot, Option.some_bind, signedAttrsRange, hfind, hoff, if_false]
  have hdrop := @imageSlice_drop _ [0xA0] rest i.off 1 (i.nhdr + i.len - 1) h0 rfl (by omega)
    (by rw [show (1 : Int) + (i.nhdr + i.len - 1) = i.nhdr + i.len by omega]; exact hslice)
  have hread : imageRead (derEncodeTree (dataReadyTree d)).2 (i.off + 1) (i.nhdr + i.len - 1) =
      some rest := by
    rw [imageRead_of_le (by omega) (by omega) (by omega), hdrop]
  refine ⟨⟨i.off + 1, by rw [hrange, hlen]; simp⟩, ?_⟩
  simp only [ksbaCmsHashSignedAttrs, hf, Option.isNone_iff_eq_none, Option.isSome_iff_ne_none.mp hf,
    if_false, ne_eq, not_true_eq_false, hrange, himg, Option.getD_some, hread, List.tail_cons]

/-- After DATAREADY, `ksba_cms_hash_signed_attrs (cms, 0)` hashes the `|element| - 1` bytes
of the signedAttrs element after its first, and `hash_fnc` reads `0x31`, then those bytes. -/
theorem DataReady.hash_eq {d : Bytes} {s : Cms} {hs : List (Option Bytes)} (h : DataReady d s)
    (hh : ksbaCmsHashSignedAttrs s 0 = .ok hs) :
    (∃ o, s.signerInfoRoot.bind signedAttrsRange =
      some (o, ((signedAttrsTlv d).length - 1 : Int))) ∧
      hs = [some [0x31], some (signedAttrsTlv d).tail] := by
  have hf : s.hashFnc.isSome := by
    cases hn : s.hashFnc <;> simp_all [ksbaCmsHashSignedAttrs]
  obtain ⟨hrange, hh'⟩ := hashSignedAttrs_dataReady hf h.info
  rw [hh', Except.ok.injEq] at hh
  exact ⟨hrange, hh.symm⟩

/-! ## The region hashed is the region written -/

/-- Over a build with one signer record at DATAREADY, with any calls before and after
`ksba_cms_hash_signed_attrs (cms, 0)`, if the next build returns READY: the range hashed
after `0x31` lies in the image and is `|element| - 1` bytes long, for the `[0]`-tagged
signedAttrs element of the SignerInfos image GOTSIG writes first; and the bytes `hash_fnc`
reads are `0x31`, then every byte of that element after the first. -/
theorem hashed_signed_attrs_are_written {dim : Nat} {s₁ t₁ s₂ s₃ t : Cms} {r₁ : StopReason}
    {cl : CertList} {cs cs' : List Call} {hs : List (Option Bytes)}
    (hh : s₁.contentHandler = some .ctBuildSignedData)
    (hsr : s₁.stopReason = .beginData ∨ s₁.stopReason = .endData) (hc : s₁.certList = [cl])
    (h₁ : ksbaCmsBuild s₁ = .ok r₁ t₁) (h₂ : runCalls dim t₁ cs = some s₂)
    (hhash : ksbaCmsHashSignedAttrs s₂ 0 = .ok hs) (h₃ : runCalls dim s₂ cs' = some s₃)
    (h₄ : ksbaCmsBuild s₃ = .ok .ready t) :
    ∃ root i dn r rest more o,
      Appended s₃.writer t.writer (.data (patchedImage 0 (derEncodeTree root).2) :: more) ∧
      findNodeAt (derEncodeTree root).1 "SignerInfos..signedAttrs" = some (.node i dn r) ∧
      imageRead (patchedImage 0 (derEncodeTree root).2) i.off (i.nhdr + i.len) =
        some (0xA0 :: rest) ∧
      s₂.signerInfoRoot.bind signedAttrsRange = some (o, i.nhdr + i.len - 1) ∧
      hs = [some [0x31], some rest] := by
  have hd₂ := (dataReady_of_build hh hsr hc h₁).runCalls h₂
  obtain ⟨root, more, hA, happ⟩ := (hd₂.runCalls h₃).gotSig h₄
  obtain ⟨i, dn, r, hf, h0, hlen, hslice⟩ := hA.signedAttrs_slice
  obtain ⟨rest, hrest⟩ := signedAttrsTlv_cons cl.msgDigest
  obtain ⟨⟨o, hrange⟩, hhs⟩ := hd₂.hash_eq hhash
  rw [hrest] at hslice hlen hrange hhs
  have hpatch : imageSlice (patchedImage 0 (derEncodeTree root).2) i.off (i.nhdr + i.len) =
      0xA0 :: rest := by
    rw [patchedImage, if_pos rfl]
    exact imageSlice_set_zero hslice
  refine ⟨root, i, dn, r, rest, more, o, happ, hf, ?_, by rw [hrange, hlen], hhs⟩
  rw [imageRead_of_le h0 (by omega)
    (imageSlice_within (List.cons_ne_nil _ _) hlen hpatch), hpatch]

/-- The detached build of Proof/SignedAttrs at END_DATA, a hash function set, the
attributes hashed, then GOTSIG. -/
theorem data_ready_hash_matches_written :
    ∃ t₁ r₁ s₂ hs t, ksbaCmsBuild dataReadyCms = .ok r₁ t₁ ∧
      runCalls 20 t₁ [.setHashFunction (some 1) 0] = some s₂ ∧
      ksbaCmsHashSignedAttrs s₂ 0 = .ok hs ∧ runCalls 20 s₂ [] = some s₂ ∧
      ksbaCmsBuild s₂ = .ok .ready t ∧
      ∃ root i dn r rest more o,
        Appended s₂.writer t.writer (.data (patchedImage 0 (derEncodeTree root).2) :: more) ∧
        findNodeAt (derEncodeTree root).1 "SignerInfos..signedAttrs" = some (.node i dn r) ∧
        imageRead (patchedImage 0 (derEncodeTree root).2) i.off (i.nhdr + i.len) =
          some (0xA0 :: rest) ∧
        s₂.signerInfoRoot.bind signedAttrsRange = some (o, i.nhdr + i.len - 1) ∧
        hs = [some [0x31], some rest] :=
  ⟨_, _, _, _, _, rfl, rfl, rfl, rfl, rfl,
    @hashed_signed_attrs_are_written 20 dataReadyCms _ _ _ _ _ _ [.setHashFunction (some 1) 0] [] _
      rfl (.inr rfl) rfl rfl rfl rfl rfl rfl⟩

end Ksba
