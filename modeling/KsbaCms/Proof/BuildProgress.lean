import KsbaCms.Proof.Signers

/-! # A signed-data build run to the end

`ksba_cms_build` called again and again on a container set up for signed data goes the
whole build path: GOT_CONTENT, then BEGIN_DATA or, when the newest signer already has a
digest, END_DATA; the application writes its data and sets the digests; then NEED_SIG and
READY. Every call returns, and the writer receives the header, then one SignerInfos image
for every signer between the end-of-contents the steps write.

* `Returns P x`: from every container `P` holds of, `x` returns into one `P` holds of; one
  rule per operation, as for `Preserves` and `Emits`, and one lemma per writing function.
* `BuildReady`: what the builder needs of the container. START keeps it, and so does every
  call an application makes while the data flows (`buildReady_runCalls`).
* `signer_infos_hold_saved_attrs`: GOTSIG, over any number of signers, writes for each
  record the SignerInfos whose signedAttrs element is the attribute DATAREADY saved on that
  record; unlike `cms->signer_info`, which keeps only the last one.
* `build_start_calls`, `build_finish_calls`: the two halves of the run;
  `build_runs_to_ready` joins them around any such calls.
-/

namespace Ksba
set_option autoImplicit false

/-! ## Calls that return -/

/-- From every container `P` holds of, `x` returns, into a container `P` holds of. -/
def Returns {α : Type} (P : Cms → Prop) (x : CmsM α) : Prop :=
  ∀ s, P s → ∃ a t, x s = .ok a t ∧ P t

namespace Returns

variable {α γ : Type} {P : Cms → Prop}

theorem pure (a : α) : Returns P (Pure.pure a : CmsM α) := fun s hs => ⟨a, s, rfl, hs⟩

theorem bind {x : CmsM α} {k : α → CmsM γ} (hx : Returns P x) (hk : ∀ a, Returns P (k a)) :
    Returns P (x >>= k) := fun s hs => by
  obtain ⟨a, t, h, ht⟩ := hx s hs
  rw [bind_ok _ h]
  exact hk a t ht

theorem get_bind {k : Cms → CmsM α} (hk : ∀ c, P c → Returns P (k c)) :
    Returns P (get >>= k) := fun s hs => hk s hs s hs

theorem modify {g : Cms → Cms} (h : ∀ s, P s → P (g s)) : Returns P (modify g : CmsM PUnit) :=
  fun s hs => ⟨⟨⟩, g s, rfl, h s hs⟩

theorem failIf {c : Bool} {e : KsbaError} (h : c = false) :
    Returns P (Ksba.failIf c e : CmsM Unit) := fun s hs => ⟨(), s, by rw [h]; rfl, hs⟩

theorem liftErr {x : Except KsbaError α} {a : α} (h : x = .ok a) :
    Returns P (Ksba.liftErr x : CmsM α) := fun s hs => ⟨a, s, by rw [h]; rfl, hs⟩

theorem liftFault {x : Except Fault α} {a : α} (h : x = .ok a) :
    Returns P (Ksba.liftFault x : CmsM α) := fun s hs => ⟨a, s, by rw [h]; rfl, hs⟩

theorem someOr {e : KsbaError} {x : Option α} {a : α} (h : x = some a) :
    Returns P (Ksba.someOr e x : CmsM α) := fun s hs => ⟨a, s, by rw [h]; rfl, hs⟩

theorem ite {c : Prop} [Decidable c] {x y : CmsM α} (hx : c → Returns P x)
    (hy : ¬c → Returns P y) : Returns P (if c then x else y) := by
  split
  · exact hx ‹_›
  · exact hy ‹_›

end Returns

/-! ## Writing into a writer without a limit -/

section Writes

variable {P : Cms → Prop}
  (hw : ∀ s, P s → ∃ w, s.writer = some w ∧ w.room = none ∧
    ∀ c, P { s with writer := some { w with out := w.out ++ [c] } })
include hw

theorem returns_writeChunk (c : Chunk) : Returns P (writeChunk c) := fun s hs => by
  obtain ⟨w, hsw, hr, hp⟩ := hw s hs
  exact ⟨(), _, by simp [writeChunk, hsw, Writer.write, hr], hp c⟩

theorem returns_berWriteTl {tag : Nat} (h : tag < 0x1f) (cls : TagClass) (constructed : Bool)
    (len : Nat) : Returns P (berWriteTl tag cls constructed len) := by
  obtain ⟨b, hb⟩ : ∃ b, berWriteTlBytes tag cls constructed len = .ok b := by
    unfold berWriteTlBytes
    simp only [h, if_true]
    split_ifs <;> exact ⟨_, rfl⟩
  exact .bind (.liftErr hb) fun _ => returns_writeChunk hw _

theorem returns_writeOid {oid : Option String} (h : (oid.bind oidFromStr).isSome) :
    Returns P (writeOid oid) := by
  obtain ⟨b, hb⟩ := Option.isSome_iff_exists.mp h
  exact .bind (.someOr hb) fun _ => .bind (returns_berWriteTl hw (by decide) _ _ _)
    fun _ => returns_writeChunk hw _

theorem returns_writeAlgorithmIdentifiers {l : List String}
    (h : ∀ o ∈ l, (oidFromStr o).isSome) : Returns P (writeAlgorithmIdentifiers l) := by
  induction l with
  | nil => exact .pure _
  | cons o l ih =>
    obtain ⟨v, hv⟩ := Option.isSome_iff_exists.mp (h o (.head _))
    obtain ⟨b, hb⟩ : ∃ b, algorithmIdentifierBytes o = .ok b := by
      rw [algorithmIdentifierBytes, hv]
      exact ⟨_, rfl⟩
    exact .bind (.bind (.liftErr hb) fun _ => returns_writeChunk hw _)
      fun _ => ih fun o' ho' => h o' (.tail _ ho')

theorem returns_restLoop : ∀ (k : Nat) (cls : List CertList) (oids : List String),
    cls.length ≤ oids.length → (∀ cl ∈ cls, ∀ o ∈ oids, ∃ root, signerInfoTree cl o = .ok root) →
    Returns P (restLoop k cls oids) := by
  intro k cls oids
  induction k, cls, oids using restLoop.induct with
  | case1 => exact fun _ _ => .pure _
  | case2 => intro hl; simp at hl
  | case3 k cl cls oid oids ih =>
    intro hl ht
    obtain ⟨root, hr⟩ := ht cl (.head _) oid (.head _)
    exact .bind (.liftFault hr) fun _ => .bind (returns_writeChunk hw _) fun _ =>
      ih (by simpa using hl) fun c hc o ho => ht c (.tail _ hc) o (.tail _ ho)

end Writes

/-! ## What the builder needs -/

/-- A certificate `set_issuer_serial` can copy from: as in an X.509 certificate, the
`serialNumber` of its `tbsCertificate` is an INTEGER and its `issuer` a CHOICE, the types of
the `sid` nodes they are copied into. -/
def CertCopyable (c : Cert) : Prop :=
  (findNodeAt c.root "Certificate.tbsCertificate.serialNumber").bind AsnNode.type? = some .integer ∧
    (findNodeAt c.root "Certificate.tbsCertificate.issuer").bind AsnNode.type? = some .choice

/-- A signer record whose certificate the builder can copy from. -/
def SignerCopyable (cl : CertList) : Prop := ∃ c, cl.cert = some c ∧ CertCopyable c

/-- What `ksba_cms_build` needs to run to READY: the signed-data build handler installed; a
writer that takes every write; the content type, the inner content type and every digest
algorithm valid OIDs; at least one signer, a digest algorithm for each, and for each a
certificate the builder can copy from. -/
structure BuildReady (s : Cms) : Prop where
  handler : s.contentHandler = some .ctBuildSignedData
  writer : ∃ w, s.writer = some w ∧ w.room = none
  contentOid : (s.contentOid.bind oidFromStr).isSome
  encapContType : (s.encapContType.bind oidFromStr).isSome
  digestAlgos : ∀ o ∈ s.digestAlgos, (oidFromStr o).isSome
  signers : s.certList ≠ []
  algoPerSigner : s.certList.length ≤ s.digestAlgos.length
  certs : ∀ cl ∈ s.certList, SignerCopyable cl

/-- The fields `BuildReady` reads, but for the records. -/
def setupView (s : Cms) :
    Option Handler × Option Writer × Option String × Option String × List String :=
  (s.contentHandler, s.writer, s.contentOid, s.encapContType, s.digestAlgos)

/-- A container with the same set-up and as many records, each with the certificate of one
record of a container the builder can work on, is one too. -/
theorem BuildReady.of_records {s t : Cms} (hb : BuildReady s) (h : setupView t = setupView s)
    (hl : t.certList.length = s.certList.length)
    (hc : ∀ x ∈ t.certList, ∃ y ∈ s.certList, x.cert = y.cert) : BuildReady t := by
  simp only [setupView, Prod.mk.injEq] at h
  obtain ⟨h₁, h₂, h₃, h₄, h₅⟩ := h
  refine ⟨h₁ ▸ hb.1, h₂ ▸ hb.2, h₃ ▸ hb.3, h₄ ▸ hb.4, h₅ ▸ hb.5, ?_, by rw [hl, h₅]; exact hb.7, ?_⟩
  · exact List.ne_nil_of_length_pos (hl ▸ List.length_pos.mpr hb.6)
  · intro x hx
    obtain ⟨y, hy, hxy⟩ := hc x hx
    obtain ⟨c, hyc, hcc⟩ := hb.8 y hy
    exact ⟨c, hxy ▸ hyc, hcc⟩

theorem BuildReady.of_view {s t : Cms} (hb : BuildReady s) (h : setupView t = setupView s)
    (hl : t.certList = s.certList) : BuildReady t :=
  hb.of_records h (by rw [hl]) fun x hx => ⟨x, hl ▸ hx, rfl⟩

/-- A write keeps the writer without a limit. -/
theorem BuildReady.writes (s : Cms) (hb : BuildReady s) :
    ∃ w, s.writer = some w ∧ w.room = none ∧
      ∀ c, BuildReady { s with writer := some { w with out := w.out ++ [c] } } := by
  obtain ⟨w, hw, hr⟩ := hb.writer
  exact ⟨w, hw, hr, fun _ => { hb with writer := ⟨_, rfl, hr⟩ }⟩

/-- Every record carries the encoding of its own messageDigest attribute, as DATAREADY
leaves them. -/
def AttrsSaved (s : Cms) : Prop := ∀ cl ∈ s.certList, withAttr cl = cl

/-- The tree GOTSIG builds for a record that carries its attribute and has a certificate the
builder can copy from, with a valid digest algorithm. -/
theorem signerInfoTree_ok {cl : CertList} {oid : String} (hc : SignerCopyable cl)
    (hs : withAttr cl = cl) (ho : (oidFromStr oid).isSome) :
    ∃ root, signerInfoTree cl oid = .ok root := by
  obtain ⟨c, hcert, hser, hiss⟩ := hc
  obtain ⟨v, hv⟩ := Option.isSome_iff_exists.mp ho
  obtain ⟨_ | ⟨⟨_, _, _, _, _, _, _, _⟩, _, _⟩, hsn, hst⟩ := Option.bind_eq_some.mp hser <;>
    cases hst
  obtain ⟨_ | ⟨⟨_, _, _, _, _, _, _, _⟩, _, _⟩, his, hit⟩ := Option.bind_eq_some.mp hiss <;>
    cases hit
  rw [← hs]
  simp only [signerInfoTree, setIssuerSerial, derStoreOid, withAttr, hcert, hsn, his, hv,
    Option.isNone_some, Option.isSome_some, Option.elim_some, except_ok_bind, Option.getD_some,
    derCopyTree_derEncodeTree (normal_mdAttrOf _ _)]
  exact ⟨_, rfl⟩

/-! ## START -/

/-- START returns from every container the builder can work on, keeping it so. -/
theorem returns_buildAction_start : Returns BuildReady (buildAction .start) :=
  .bind (.modify fun _ hb => hb.of_view rfl rfl) fun _ =>
  .bind (returns_berWriteTl BuildReady.writes (by decide) _ _ _) fun _ =>
  .get_bind fun c hc => .bind (returns_writeOid BuildReady.writes hc.contentOid) fun _ =>
  .bind (returns_berWriteTl BuildReady.writes (by decide) _ _ _) fun _ =>
  .bind (returns_berWriteTl BuildReady.writes (by decide) _ _ _) fun _ =>
  .bind (returns_berWriteTl BuildReady.writes (by decide) _ _ _) fun _ =>
  .bind (returns_writeChunk BuildReady.writes _) fun _ =>
  .bind (returns_berWriteTl BuildReady.writes (by decide) _ _ _) fun _ =>
  .get_bind fun c hc =>
  .bind (returns_writeAlgorithmIdentifiers BuildReady.writes hc.digestAlgos) fun _ =>
  .bind (returns_berWriteTl BuildReady.writes (by decide) _ _ _) fun _ =>
  .get_bind fun c hc => .bind (returns_writeOid BuildReady.writes hc.encapContType) fun _ =>
  .get_bind fun _ _ =>
    .ite (fun _ => returns_berWriteTl BuildReady.writes (by decide) _ _ _) fun _ => .pure _

/-- The first two calls: the initialisation, then START, which writes the header. -/
theorem build_start_calls {s : Cms} (hb : BuildReady s) (hn : s.stopReason = .none) :
    ∃ u, Drives ksbaCmsBuild s [.gotContent, if detachedOf s.certList then .endData else .beginData] u ∧
      BuildReady u ∧ u.certList = s.certList ∧
      u.stopReason = (if detachedOf s.certList then .endData else .beginData) ∧
      Appended s.writer u.writer (headerChunks { s with detachedSignature := detachedOf s.certList }) := by
  obtain ⟨w, hw, -⟩ := hb.writer
  obtain ⟨_, hb'⟩ := Option.isSome_iff_exists.mp hb.encapContType
  obtain ⟨e, he, -⟩ := Option.bind_eq_some.mp hb'
  have hi : buildInit s = .ok () { s with stopReason := .gotContent } := by
    simp [buildInit, hw, hb.handler, he]
  set s₁ : Cms := { s with stopReason := .gotContent }
  obtain ⟨u, t, ha, ht⟩ := returns_buildAction_start { s₁ with stopReason := .running }
    (hb.of_view rfl rfl)
  have hfr : t.detachedSignature = detachedOf s.certList ∧ t.certList = s.certList := by
    simp only [buildAction, modify_bind] at ha
    have hp : Preserves (fun u => (u.detachedSignature, u.certList)) buildSignedDataHeader :=
      preserves_buildSignedDataHeader fun _ _ => rfl
    exact Prod.mk.inj_iff.mp (hp.of_ok ha)
  have hc : ctBuildSignedData s₁ = .ok ()
      { t with stopReason := if detachedOf s.certList then .endData else .beginData } := by
    rw [← hfr.1]
    exact signedDataHandler_of_ok rfl ha
  have h₁ : ksbaCmsBuild s₁ = .ok (if detachedOf s.certList then .endData else .beginData)
      { t with stopReason := if detachedOf s.certList then .endData else .beginData } :=
    engineCall_of_runHandler_ok (by simp [s₁]) (show s₁.contentHandler = _ from hb.handler) hc
  refine ⟨_, .cons (engineCall_of_init_ok hn hi) (.cons h₁ (.nil _)), ht.of_view rfl rfl, hfr.2,
    rfl, ?_⟩
  exact (ctBuildSignedData_appends hc :)

/-! ## While the data flows -/

/-- The calls an application makes between START and DATAREADY: it writes the data into the
writer, sets the message digests and the hash function, and reads the digest algorithms. -/
def Call.isDataPhase : Call → Bool
  | .writeData _ | .setMessageDigest _ _ | .setHashFunction _ _ | .getDigestAlgo _ => true
  | _ => false

/-- Such a call keeps the container one the builder can work on, with its stop reason and its
number of signers. -/
theorem buildReady_next {dim : Nat} {c : Call} {s t : Cms} (hc : c.isDataPhase)
    (hb : BuildReady s) (h : c.next dim s = some t) :
    BuildReady t ∧ t.stopReason = s.stopReason ∧ t.certList.length = s.certList.length := by
  rw [← Call.stateAfter_of_next h]
  have keep : ∀ {α : Type} {x : CmsM α},
      Preserves (fun u => (setupView u, u.certList, u.stopReason)) x →
      BuildReady (stateAfter (x s)) ∧ (stateAfter (x s)).stopReason = s.stopReason ∧
        (stateAfter (x s)).certList.length = s.certList.length := fun hx => by
    obtain ⟨e₁, e₂, e₃⟩ := Prod.mk.inj_iff.mp (hx s) |>.imp_right Prod.mk.inj_iff.mp
    exact ⟨hb.of_view e₁ e₂, e₃, by rw [e₂]⟩
  cases c <;> simp only [Call.isDataPhase, Bool.false_eq_true] at hc
  case writeData b =>
    obtain ⟨w, hw, hr, hp⟩ := hb.writes s
    have e : writeChunk (.data b) s =
        .ok () { s with writer := some { w with out := w.out ++ [.data b] } } := by
      simp [writeChunk, hw, Writer.write, hr]
    rw [show (Call.writeData b).run dim s = writeChunk (.data b) s from rfl, e]
    exact ⟨hp _, rfl, rfl⟩
  case setMessageDigest idx dg =>
    have hv : Preserves (fun u => (setupView u, u.stopReason)) (ksbaCmsSetMessageDigest dim idx dg) :=
      preserves_ksbaCmsSetMessageDigest (fun _ _ => by rfl) dim idx dg
    obtain ⟨e₁, e₂⟩ := Prod.mk.inj_iff.mp (hv s)
    simp only [Call.run]
    rcases certList_setMessageDigest dim idx dg s with hl | ⟨i, cl, d, hcl, hl⟩
    · exact ⟨hb.of_view e₁ hl, e₂, by rw [hl]⟩
    · have hn : (stateAfter (ksbaCmsSetMessageDigest dim idx dg s)).certList.length =
          s.certList.length := by rw [hl, List.length_set]
      refine ⟨hb.of_records e₁ hn fun x hx => ?_, e₂, hn⟩
      rw [hl] at hx
      rcases List.mem_or_eq_of_mem_set hx with hx | rfl
      · exact ⟨x, hx, rfl⟩
      · exact ⟨cl, List.getElem?_mem hcl, rfl⟩
  case setHashFunction fnc arg =>
    exact keep (preserves_ksbaCmsSetHashFunction (fun _ _ _ => by rfl) fnc arg)
  case getDigestAlgo idx =>
    simp only [Call.run]
    rw [stateAfter_bind_pure]
    exact keep (preserves_ksbaCmsGetDigestAlgo (fun _ _ => by rfl) idx)

/-- Any number of such calls keep it. -/
theorem buildReady_runCalls {dim : Nat} : ∀ {cs : List Call} {s t : Cms},
    (∀ c ∈ cs, c.isDataPhase) → BuildReady s → runCalls dim s cs = some t →
    BuildReady t ∧ t.stopReason = s.stopReason ∧ t.certList.length = s.certList.length
  | [], s, t, _, hb, h => by
    obtain rfl : s = t := by simpa using h
    exact ⟨hb, rfl, rfl⟩
  | c :: cs, s, t, hcs, hb, h => by
    obtain ⟨s', hs', h⟩ := Option.bind_eq_some.mp h
    obtain ⟨hb', e₁, e₂⟩ := buildReady_next (hcs c (.head _)) hb hs'
    obtain ⟨hbt, e₃, e₄⟩ := buildReady_runCalls (fun c hc => hcs c (.tail _ hc)) hb' h
    exact ⟨hbt, e₃.trans e₁, e₄.trans e₂⟩

/-! ## What GOTSIG writes -/

/-- A successful loop of GOTSIG writes one image per record: the encoding of the tree built
for that record, its first byte patched for the first record. -/
theorem restLoop_images {k : Nat} {cls : List CertList} {oids : List String} {s t : Cms}
    {u : Unit} (h : restLoop k cls oids s = .ok u t) :
    ∃ imgs : List Bytes, imgs.length = cls.length ∧ restChunks k cls oids = imgs.map .data ∧
      ∀ j cl img, cls[j]? = some cl → imgs[j]? = some img →
        ∃ oid root, oids[j]? = some oid ∧ signerInfoTree cl oid = .ok root ∧
          img = patchedImage (k + j) (derEncodeTree root).2 := by
  induction k, cls, oids using restLoop.induct generalizing s with
  | case1 => exact ⟨[], rfl, by simp [restChunks], by simp⟩
  | case2 => cases h
  | case3 k cl cls oid oids ih =>
    simp only [restLoop] at h
    cases hr : signerInfoTree cl oid with
    | error f => simp [hr] at h
    | ok root =>
      simp only [hr, liftFault_ok_bind] at h
      obtain ⟨_, t₁, -, h⟩ := bind_eq_ok h
      obtain ⟨imgs, hn, he, hi⟩ := ih h
      refine ⟨patchedImage k (derEncodeTree root).2 :: imgs, by simp [hn],
        by simp [restChunks, hr, he], ?_⟩
      rintro (_ | j) c img hc himg
      · obtain rfl : cl = c := by simpa using hc
        obtain rfl : patchedImage k (derEncodeTree root).2 = img := by simpa using himg
        exact ⟨oid, root, by simp, hr, rfl⟩
      · obtain ⟨o, r, ho, hr', he'⟩ := hi j c img (by simpa using hc) (by simpa using himg)
        exact ⟨o, r, by simpa using ho, hr', by rw [he', Nat.add_right_comm, Nat.add_assoc]⟩

/-- A call at NEED_SIG that returns is GOTSIG: one image per record, then two
end-of-contents. -/
theorem gotSig_images {s t : Cms} {r : StopReason}
    (hh : s.contentHandler = some .ctBuildSignedData) (hs : s.stopReason = .needSig)
    (h : ksbaCmsBuild s = .ok r t) :
    ∃ imgs : List Bytes, imgs.length = s.certList.length ∧
      Appended s.writer t.writer (imgs.map .data ++ [eoc, eoc]) ∧
      ∀ j cl img, s.certList[j]? = some cl → imgs[j]? = some img →
        ∃ oid root, s.digestAlgos[j]? = some oid ∧ signerInfoTree cl oid = .ok root ∧
          img = patchedImage j (derEncodeTree root).2 := by
  obtain ⟨-, hb, -⟩ := ksbaCmsBuild_ok_runs ⟨by simp [hs], by simp [hh]⟩ h
  have happ := ctBuildSignedData_appends hb
  obtain ⟨st, t', hst, ha, -⟩ := signedDataHandler_ok hb
  simp only [hs, buildStateOf, Except.ok.injEq] at hst
  subst hst
  simp only [buildAction, buildSignedDataRest, get_bind, failIf_bind] at ha
  split_ifs at ha
  obtain ⟨_, t₁, hl, -⟩ := bind_eq_ok ha
  obtain ⟨imgs, hn, he, hi⟩ := restLoop_images hl
  refine ⟨imgs, hn, by simpa [buildStepChunks, hs, he] using happ, fun j cl img hcl himg => ?_⟩
  simpa using hi j cl img hcl himg

/-- What GOTSIG needs beyond `BuildReady`: every record carries its attribute. -/
theorem BuildReady.writes_saved (s : Cms) (hb : BuildReady s ∧ AttrsSaved s) :
    ∃ w, s.writer = some w ∧ w.room = none ∧
      ∀ c, BuildReady { s with writer := some { w with out := w.out ++ [c] } } ∧
        AttrsSaved { s with writer := some { w with out := w.out ++ [c] } } := by
  obtain ⟨w, hw, hr, hp⟩ := hb.1.writes s
  exact ⟨w, hw, hr, fun c => ⟨hp c, hb.2⟩⟩

/-- GOTSIG returns once every record carries its attribute. -/
theorem returns_buildSignedDataRest :
    Returns (fun s => BuildReady s ∧ AttrsSaved s) buildSignedDataRest :=
  .get_bind fun c hc =>
    have hne : c.digestAlgos ≠ [] := List.ne_nil_of_length_pos
      (Nat.lt_of_lt_of_le (List.length_pos.mpr hc.1.signers) hc.1.algoPerSigner)
    .bind (.failIf (List.isEmpty_eq_false.mpr hc.1.signers)) fun _ =>
    .bind (.failIf (List.isEmpty_eq_false.mpr hne)) fun _ =>
    .bind (returns_restLoop BuildReady.writes_saved 0 _ _ hc.1.algoPerSigner
      fun cl hcl o ho => signerInfoTree_ok (hc.1.certs cl hcl) (hc.2 cl hcl) (hc.1.digestAlgos o ho))
      fun _ =>
    .bind (returns_berWriteTl BuildReady.writes_saved (by decide) _ _ _) fun _ =>
      returns_berWriteTl BuildReady.writes_saved (by decide) _ _ _

/-- At NEED_SIG, with every record carrying its attribute, the call returns READY. -/
theorem build_gotSig_call {s : Cms} (hb : BuildReady s) (ha : AttrsSaved s)
    (hs : s.stopReason = .needSig) : ∃ t, ksbaCmsBuild s = .ok .ready t := by
  obtain ⟨u, t, h, -⟩ := returns_buildSignedDataRest { s with stopReason := .running }
    ⟨hb.of_view rfl rfl, ha⟩
  have h' : buildAction .gotSig { s with stopReason := .running } = .ok () t := h
  have hc : ctBuildSignedData s = .ok () { t with stopReason := .ready } :=
    signedDataHandler_of_ok (by rw [hs]; rfl) h'
  exact ⟨_, engineCall_of_runHandler_ok (by simp [hs]) hb.handler
    (show runHandler .ctBuildSignedData s = _ from hc)⟩

/-- The image of the tree GOTSIG builds for a record whose attribute DATAREADY encoded from
`d`, patched or not, holds `signedAttrsTlv d` where the lookup of `signedAttrs` points. -/
theorem patchedImage_signedAttrs {cl : CertList} {oid : String} {root : AsnNode} {d : Bytes}
    (hattr : AttrFrom d cl) (h : signerInfoTree cl oid = .ok root) (j : Nat) :
    ∃ i dn r, findNodeAt (derEncodeTree root).1 "SignerInfos..signedAttrs" = some (.node i dn r) ∧
      imageSlice (patchedImage j (derEncodeTree root).2) i.off (i.nhdr + i.len) =
        signedAttrsTlv d := by
  obtain ⟨i, dn, r, hf, -, -, hslice⟩ := (signerInfoTree_agrees hattr h).signedAttrs_slice
  obtain ⟨rest, hrest⟩ := signedAttrsTlv_cons d
  refine ⟨i, dn, r, hf, ?_⟩
  unfold patchedImage
  split_ifs
  · rw [hrest] at hslice ⊢
    exact imageSlice_set_zero hslice
  · exact hslice

/-- For every container at NEED_SIG from which `ksba_cms_build` returns, with any number of
signers, GOTSIG writes one SignerInfos image per record, then two end-of-contents, and the
image of the `j`-th record holds, as the element the lookup of `signedAttrs` finds, the
encoding of the messageDigest attribute saved on that record. -/
theorem signer_infos_hold_saved_attrs {s t : Cms} {r : StopReason}
    (hh : s.contentHandler = some .ctBuildSignedData) (hs : s.stopReason = .needSig)
    (h : ksbaCmsBuild s = .ok r t) :
    ∃ imgs : List Bytes, imgs.length = s.certList.length ∧
      Appended s.writer t.writer (imgs.map .data ++ [eoc, eoc]) ∧
      ∀ j cl img d, s.certList[j]? = some cl → imgs[j]? = some img → AttrFrom d cl →
        ∃ root i dn r, img = patchedImage j (derEncodeTree root).2 ∧
          findNodeAt (derEncodeTree root).1 "SignerInfos..signedAttrs" = some (.node i dn r) ∧
          imageSlice img i.off (i.nhdr + i.len) = signedAttrsTlv d := by
  obtain ⟨imgs, hn, happ, hi⟩ := gotSig_images hh hs h
  refine ⟨imgs, hn, happ, fun j cl img d hcl himg hattr => ?_⟩
  obtain ⟨oid, root, -, hr, rfl⟩ := hi j cl img hcl himg
  obtain ⟨i, dn, r, hf, hslice⟩ := patchedImage_signedAttrs hattr hr j
  exact ⟨root, i, dn, r, rfl, hf, hslice⟩

/-- Two signers at NEED_SIG, each with the certificate `sampleCert` and the attribute
DATAREADY saved for its digest: `04 05` at index 0, `01 02 03` at index 1. -/
def gotSigCms : Cms :=
  { writer := some unboundedWriter, contentOid := some "1.2.840.113549.1.7.2",
    contentCt := .signedData, contentHandler := some .ctBuildSignedData,
    encapContType := some "1.2.840.113549.1.7.1", stopReason := .needSig,
    digestAlgos := ["1.3.14.3.2.26", "1.3.14.3.2.26"],
    certList := [withAttr ⟨some sampleCert, [4, 5], none, none⟩,
      withAttr ⟨some sampleCert, [1, 2, 3], none, none⟩] }

theorem two_signer_infos_hold_own_attrs :
    ∃ t, ksbaCmsBuild gotSigCms = .ok .ready t ∧ ∃ img₀ img₁ : Bytes,
      Appended gotSigCms.writer t.writer ([img₀, img₁].map .data ++ [eoc, eoc]) ∧
      (∃ root i dn r, img₀ = patchedImage 0 (derEncodeTree root).2 ∧
        findNodeAt (derEncodeTree root).1 "SignerInfos..signedAttrs" = some (.node i dn r) ∧
        imageSlice img₀ i.off (i.nhdr + i.len) = signedAttrsTlv [4, 5]) ∧
      (∃ root i dn r, img₁ = patchedImage 1 (derEncodeTree root).2 ∧
        findNodeAt (derEncodeTree root).1 "SignerInfos..signedAttrs" = some (.node i dn r) ∧
        imageSlice img₁ i.off (i.nhdr + i.len) = signedAttrsTlv [1, 2, 3]) := by
  have hb : BuildReady gotSigCms :=
    ⟨rfl, ⟨_, rfl, rfl⟩, rfl, rfl, by decide, by decide, by decide, fun cl hcl => by
      simp only [gotSigCms, List.mem_cons, List.mem_singleton, List.not_mem_nil, or_false] at hcl
      rcases hcl with rfl | rfl <;> exact ⟨sampleCert, rfl, rfl, rfl⟩⟩
  have ha : AttrsSaved gotSigCms := fun cl hcl => by
    simp only [gotSigCms, List.mem_cons, List.mem_singleton, List.not_mem_nil, or_false] at hcl
    rcases hcl with rfl | rfl <;> rfl
  obtain ⟨t, ht⟩ := build_gotSig_call hb ha rfl
  obtain ⟨imgs, hn, happ, hi⟩ := signer_infos_hold_saved_attrs rfl rfl ht
  match imgs, hn with
  | [img₀, img₁], _ =>
    exact ⟨t, ht, img₀, img₁, happ, hi 0 _ img₀ [4, 5] rfl rfl (.inr ⟨rfl, rfl⟩),
      hi 1 _ img₁ [1, 2, 3] rfl rfl (.inr ⟨rfl, rfl⟩)⟩

/-! ## DATAREADY, then GOTSIG -/

/-- The last two calls: DATAREADY, once every signer has its digest, then GOTSIG, which
writes one SignerInfos image per signer. -/
theorem build_finish_calls {t : Cms} (hb : BuildReady t)
    (hs : t.stopReason = .beginData ∨ t.stopReason = .endData)
    (hd : ∀ cl ∈ t.certList, cl.msgDigest ≠ []) :
    ∃ v, Drives ksbaCmsBuild t [.needSig, .ready] v ∧ ∃ sis : List Bytes,
      sis.length = t.certList.length ∧
      Appended t.writer v.writer (eoc :: sis.map .data ++ [eoc, eoc]) ∧
      ∀ j cl img, t.certList[j]? = some cl → sis[j]? = some img →
        ∃ oid root, t.digestAlgos[j]? = some oid ∧ signerInfoTree (withAttr cl) oid = .ok root ∧
          img = patchedImage j (derEncodeTree root).2 := by
  obtain ⟨w, hw, hr⟩ := hb.writer
  obtain ⟨cls, cl, hc⟩ : ∃ cls cl, t.certList = cls ++ [cl] := by
    rcases List.eq_nil_or_concat t.certList with h | ⟨cls, cl, h⟩
    · exact absurd h hb.signers
    · exact ⟨cls, cl, by simpa using h⟩
  have hok : ∀ c ∈ cls ++ [cl], c.cert.isSome ∧ c.msgDigest ≠ [] := fun c hm => by
    obtain ⟨x, hx, -⟩ := hb.certs c (hc ▸ hm)
    exact ⟨by simp [hx], hd c (hc ▸ hm)⟩
  have halg : cls.length < t.digestAlgos.length := by
    have := hb.algoPerSigner
    rw [hc, List.length_append, List.length_singleton] at this
    omega
  set t₁ : Cms := { t with
    writer := some { w with out := w.out ++ [eoc] }, certList := (cls ++ [cl]).map withAttr,
    signerInfoRoot := some (derEncodeTree (dataReadyTree cl.msgDigest)).1,
    signerInfoImage := some (derEncodeTree (dataReadyTree cl.msgDigest)).2,
    stopReason := .needSig }
  have h₁ : ksbaCmsBuild t = .ok .needSig t₁ :=
    ksbaCmsBuild_dataReady_state hb.handler hs hc hok halg hw (by simp only [Writer.write, hr]; rfl)
  have hb₁ : BuildReady t₁ := by
    refine ⟨hb.handler, ⟨_, rfl, hr⟩, hb.contentOid, hb.encapContType, hb.digestAlgos, by simp,
      by simpa [hc] using hb.algoPerSigner, fun x hx => ?_⟩
    obtain ⟨y, hy, rfl⟩ := List.mem_map.mp hx
    exact hb.certs y (hc ▸ hy)
  have ha₁ : AttrsSaved t₁ := fun x hx => by
    obtain ⟨y, -, rfl⟩ := List.mem_map.mp hx
    rfl
  obtain ⟨v, h₂⟩ := build_gotSig_call hb₁ ha₁ rfl
  obtain ⟨sis, hn, hw₂, hi⟩ := gotSig_images hb₁.handler rfl h₂
  have hw₁ : Appended t.writer t₁.writer [eoc] := by simp [Appended, hw, t₁]
  refine ⟨v, .cons h₁ (.cons h₂ (.nil _)), sis, by simpa [t₁, hc] using hn,
    by simpa using hw₁.trans hw₂, fun j c img hcj himg => hi j (withAttr c) img ?_ himg⟩
  simp [t₁, ← hc, hcj]

/-! ## The whole build -/

/-- For every container set up for a signed-data build (`BuildReady`), `ksba_cms_build`
returns GOT_CONTENT, then END_DATA if the newest signer already has a digest and
BEGIN_DATA if not, having written the header. After any calls that write data, set digests
or the hash function, or read digest algorithms, once every signer has a digest the next
two calls return NEED_SIG and READY, writing an end-of-contents, one SignerInfos image per
signer set up, and two end-of-contents. The `j`-th image is the encoding, its first byte
patched for `j = 0`, of the tree GOTSIG builds for the `j`-th record, with the attribute
DATAREADY saved on it, and the `j`-th digest algorithm. -/
theorem build_runs_to_ready {dim : Nat} {s : Cms} (hb : BuildReady s)
    (hn : s.stopReason = .none) :
    ∃ u, Drives ksbaCmsBuild s [.gotContent, if detachedOf s.certList then .endData else .beginData] u ∧
      Appended s.writer u.writer (headerChunks { s with detachedSignature := detachedOf s.certList }) ∧
      ∀ (cs : List Call) (t : Cms), (∀ c ∈ cs, c.isDataPhase) → runCalls dim u cs = some t →
        (∀ cl ∈ t.certList, cl.msgDigest ≠ []) →
        ∃ v, Drives ksbaCmsBuild t [.needSig, .ready] v ∧ ∃ sis : List Bytes,
          sis.length = s.certList.length ∧
          Appended t.writer v.writer (eoc :: sis.map .data ++ [eoc, eoc]) ∧
          ∀ j cl img, t.certList[j]? = some cl → sis[j]? = some img →
            ∃ oid root, t.digestAlgos[j]? = some oid ∧
              signerInfoTree (withAttr cl) oid = .ok root ∧
              img = patchedImage j (derEncodeTree root).2 := by
  obtain ⟨u, hu, hbu, hlu, hsu, hwu⟩ := build_start_calls hb hn
  refine ⟨u, hu, hwu, fun cs t hcs hrun hd => ?_⟩
  obtain ⟨hbt, hst, hlt⟩ := buildReady_runCalls hcs hbu hrun
  have hs : t.stopReason = .beginData ∨ t.stopReason = .endData := by
    rw [hst, hsu]
    split <;> simp
  obtain ⟨v, hv, sis, hn, hw, hi⟩ := build_finish_calls hbt hs hd
  exact ⟨v, hv, sis, by rw [hn, hlt, hlu], hw, hi⟩

/-- An attached build with one signer and SHA-1, set up through the public calls. -/
def readyBuildCms : Cms :=
  { writer := some unboundedWriter, contentOid := some "1.2.840.113549.1.7.2",
    contentCt := .signedData, contentHandler := some .ctBuildSignedData,
    encapContType := some "1.2.840.113549.1.7.1", digestAlgos := ["1.3.14.3.2.26"],
    certList := [⟨some sampleCert, [], none, none⟩] }

theorem ready_build_runs :
    ∃ u, Drives ksbaCmsBuild readyBuildCms [.gotContent, .beginData] u ∧
      Appended readyBuildCms.writer u.writer
        (headerChunks { readyBuildCms with detachedSignature := false }) ∧
      ∀ (cs : List Call) (t : Cms), (∀ c ∈ cs, c.isDataPhase) → runCalls 32 u cs = some t →
        (∀ cl ∈ t.certList, cl.msgDigest ≠ []) →
        ∃ v, Drives ksbaCmsBuild t [.needSig, .ready] v ∧ ∃ sis : List Bytes,
          sis.length = 1 ∧ Appended t.writer v.writer (eoc :: sis.map .data ++ [eoc, eoc]) ∧
          ∀ j cl img, t.certList[j]? = some cl → sis[j]? = some img →
            ∃ oid root, t.digestAlgos[j]? = some oid ∧
              signerInfoTree (withAttr cl) oid = .ok root ∧
              img = patchedImage j (derEncodeTree root).2 :=
  @build_runs_to_ready 32 readyBuildCms
    ⟨rfl, ⟨_, rfl, rfl⟩, rfl, rfl, by decide, by decide, by decide, fun cl hcl => by
      obtain rfl := List.mem_singleton.mp hcl
      exact ⟨sampleCert, rfl, rfl, rfl⟩⟩ rfl

end Ksba
