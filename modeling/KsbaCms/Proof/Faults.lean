import KsbaCms.Proof.StopReason

/-! # Where `KSBA_Bug` and failed asserts come from

`KSBA_Bug` is the code of an internal error and a failed `assert` stops the process, so
neither should be within the caller's reach. Here each is traced to its sources.

* `NoBug`: a collaborator that never answers `KSBA_Bug`; every tree and writer operation
  of the model is one.
* `FaultsIn P x` (and `ExceptFaultsIn` for the pure tree builders): every fault of `x`
  satisfies `P`; `Blame B A` is the fault predicate "a bug only when `B`, an assert only
  when `A`".
* `engine_fault_sources`: what `ksba_cms_parse` and `ksba_cms_build` need for either.
* `accepted_calls_reach_bug_and_assert`: runs of accepted calls that get there by each of
  the five routes: a signer without a certificate, a signer without a digest, a call at
  READY, a signer added after DATAREADY, a build at NEED_HASH.
-/

namespace Ksba
set_option autoImplicit false

/-! ## Collaborators that never answer `KSBA_Bug` -/

/-- The computation never fails with `KSBA_Bug`. -/
def NoBug {α : Type} (x : Except KsbaError α) : Prop := x ≠ .error .bug

section NoBug

variable {α β : Type}

theorem NoBug.bind {x : Except KsbaError α} {k : α → Except KsbaError β} (hx : NoBug x)
    (hk : ∀ a, NoBug (k a)) : NoBug (x >>= k) := by
  cases x with
  | ok a => exact hk a
  | error e => simpa [NoBug] using hx

theorem NoBug.map {x : Except KsbaError α} (f : α → β) (hx : NoBug x) : NoBug (x.map f) := by
  cases x with
  | ok a => simp [NoBug, Except.map]
  | error e => simpa [NoBug, Except.map] using hx

theorem modifyAt_noBug {f : NodeInfo → AsnNode → Except KsbaError (NodeInfo × AsnNode)}
    (hf : ∀ i d, NoBug (f i d)) (t : AsnNode) (p : Pos) : NoBug (modifyAt f t p) := by
  induction t generalizing p with
  | nil => simp [NoBug, modifyAt]
  | node i d r ihd ihr =>
    match p with
    | [] => exact (hf i d).map _
    | .down :: p => exact (ihd p).map _
    | .right :: p => exact (ihr p).map _

theorem storeTyped_noBug (ty : NodeType) (v : Bytes) (i : NodeInfo) (d : AsnNode) :
    NoBug (storeTyped ty v i d) := by
  unfold storeTyped NoBug
  split <;> simp

theorem derStoreOid_noBug (t : AsnNode) (p : Pos) (oid : String) :
    NoBug (derStoreOid t p oid) := by
  unfold derStoreOid
  split
  · exact modifyAt_noBug (storeTyped_noBug _ _) _ _
  · simp [NoBug]

theorem derStoreOctetString_noBug (t : AsnNode) (p : Pos) (buf : Bytes) :
    NoBug (derStoreOctetString t p buf) :=
  modifyAt_noBug (storeTyped_noBug _ _) _ _

theorem derStoreInteger_noBug (t : AsnNode) (p : Pos) (buf : Bytes) :
    NoBug (derStoreInteger t p buf) := by
  unfold derStoreInteger
  split
  · exact modifyAt_noBug (storeTyped_noBug _ _) _ _
  · simp [NoBug]

theorem derStoreNull_noBug (t : AsnNode) (p : Pos) : NoBug (derStoreNull t p) :=
  modifyAt_noBug (storeTyped_noBug _ _) _ _

theorem derCopyTree_noBug (t : AsnNode) (dst : Option Pos) (src : Option AsnNode) (img : Bytes) :
    NoBug (derCopyTree t dst src img) := by
  unfold derCopyTree
  split
  · refine modifyAt_noBug (fun i d => ?_) _ _
    unfold copyNode NoBug
    repeat' split
    all_goals simp
  all_goals simp [NoBug]

theorem signedAttrsTree_noBug (attr : AsnNode) (image : Bytes) :
    NoBug (signedAttrsTree attr image) := by
  intro h
  unfold signedAttrsTree at h
  cases h1 : asnExpandTree "CryptographicMessageSyntax.SignerInfos" with
  | none => simp [h1] at h
  | some root =>
    cases h2 : asnFindNode root "SignerInfos..signedAttrs" with
    | none => simp [h1, h2] at h
    | some n =>
      cases h3 : firstSequenceBelow root n with
      | none => simp only [h1, h2, h3, Option.elim_some, Option.elim_none, except_ok_bind] at h; split_ifs at h <;> simp at h
      | some q =>
        simp only [h1, h2, h3, Option.elim_some, Option.elim_none, except_ok_bind] at h
        split_ifs at h
        · simp at h
        · exact derCopyTree_noBug _ _ _ _ (by simpa using h)

theorem setIssuerSerial_noBug (root : AsnNode) (p : Pos) (cert : Option Cert) :
    NoBug (setIssuerSerial root p cert) := by
  intro h
  unfold setIssuerSerial at h
  cases cert with
  | none => simp at h
  | some cert =>
    cases h1 : nodeAt root p with
    | none => simp [h1] at h
    | some sid =>
      simp only [h1, Option.elim_some, Option.elim_none, except_ok_bind] at h
      cases hc : derCopyTree root _ _ _ with
      | error e => rw [hc] at h; cases h; exact derCopyTree_noBug _ _ _ _ hc
      | ok t =>
        rw [hc, except_ok_bind] at h
        cases h2 : nodeAt t p with
        | none => simp [h2] at h
        | some sid' => simp only [h2, Option.elim_some, Option.elim_none, except_ok_bind] at h; exact derCopyTree_noBug _ _ _ _ h

theorem Writer.write_noBug (w : Writer) (c : Chunk) : NoBug (w.write c) := by
  unfold Writer.write NoBug
  split <;> simp

theorem berWriteTlBytes_noBug (tag : Nat) (cls : TagClass) (constructed : Bool) (len : Nat) :
    NoBug (berWriteTlBytes tag cls constructed len) := by
  unfold berWriteTlBytes NoBug
  repeat' split
  all_goals simp

theorem algorithmIdentifierBytes_noBug (oid : String) : NoBug (algorithmIdentifierBytes oid) := by
  unfold algorithmIdentifierBytes NoBug
  split <;> simp

end NoBug

/-! ## Which faults a computation can end in -/

/-- A fault that is `KSBA_Bug` only when `B` holds and a failed assert only when `A` holds. -/
def Blame (B A : Prop) (f : Fault) : Prop := (f = .err .bug → B) ∧ (f = .assertion → A)

theorem blame_err {B A : Prop} {e : KsbaError} (h : e ≠ .bug) : Blame B A (.err e) :=
  ⟨fun h' => absurd (Fault.err.inj h') h, fun h' => by cases h'⟩

theorem blame_bug {B A : Prop} (h : B) : Blame B A (.err .bug) :=
  ⟨fun _ => h, fun h' => by cases h'⟩

theorem blame_assertion {B A : Prop} (h : A) : Blame B A .assertion :=
  ⟨fun h' => (by cases h'), fun _ => h⟩

theorem Blame.mono {B A B' A' : Prop} {f : Fault} (hf : Blame B A f) (hb : B → B')
    (ha : A → A') : Blame B' A' f :=
  ⟨fun h => hb (hf.1 h), fun h => ha (hf.2 h)⟩

theorem NoBug.blame {α : Type} {B A : Prop} {x : Except KsbaError α} (hx : NoBug x) :
    ∀ e, x = .error e → Blame B A (.err e) := by
  rintro e rfl
  exact blame_err fun h => hx (h ▸ rfl)

/-- Every fault `x` ends in satisfies `P`. -/
def FaultsIn {α : Type} (P : Fault → Prop) (x : CmsM α) : Prop :=
  ∀ s e s', x s = .error e s' → P e

/-- Every fault the pure computation `x` ends in satisfies `P`. -/
def ExceptFaultsIn {α : Type} (P : Fault → Prop) (x : Except Fault α) : Prop :=
  ∀ e, x = .error e → P e

namespace FaultsIn

variable {α γ : Type} {P : Fault → Prop}

theorem pure (a : α) : FaultsIn P (Pure.pure a : CmsM α) := by
  intro _ _ _ h; cases h

theorem get : FaultsIn P (MonadState.get : CmsM Cms) := by
  intro _ _ _ h; cases h

theorem modify (g : Cms → Cms) : FaultsIn P (modify g : CmsM PUnit) := by
  intro _ _ _ h; cases h

theorem fail {e : KsbaError} (h : P (.err e)) : FaultsIn P (Ksba.fail e : CmsM α) := by
  intro _ _ _ h'; cases h'; exact h

theorem failIf {c : Bool} {e : KsbaError} (h : c = true → P (.err e)) :
    FaultsIn P (Ksba.failIf c e : CmsM Unit) := by
  cases c
  · exact pure _
  · exact fail (h rfl)

theorem someOr {e : KsbaError} (h : P (.err e)) (x : Option α) :
    FaultsIn P (Ksba.someOr e x : CmsM α) := by
  cases x
  · exact fail h
  · exact pure _

theorem liftErr {x : Except KsbaError α} (h : ∀ e, x = .error e → P (.err e)) :
    FaultsIn P (Ksba.liftErr x : CmsM α) := by
  cases x with
  | error e => exact fail (h e rfl)
  | ok a => exact pure a

theorem liftFault {x : Except Fault α} (h : ExceptFaultsIn P x) :
    FaultsIn P (Ksba.liftFault x : CmsM α) := by
  cases x with
  | error f => intro _ _ _ h'; cases h'; exact h f rfl
  | ok a => exact pure a

theorem bind {x : CmsM α} {k : α → CmsM γ} (hx : FaultsIn P x) (hk : ∀ a, FaultsIn P (k a)) :
    FaultsIn P (x >>= k) := by
  intro s e s' h
  rcases bind_eq_error h with h | ⟨a, t, _, h⟩
  · exact hx _ _ _ h
  · exact hk a _ _ _ h

theorem ite {c : Prop} [Decidable c] {x y : CmsM α} (hx : FaultsIn P x) (hy : FaultsIn P y) :
    FaultsIn P (if c then x else y) := by
  split <;> assumption

theorem mono {Q : Fault → Prop} {x : CmsM α} (hx : FaultsIn P x) (h : ∀ f, P f → Q f) :
    FaultsIn Q x :=
  fun s e s' he => h e (hx s e s' he)

end FaultsIn

namespace ExceptFaultsIn

variable {α γ : Type} {P : Fault → Prop}

theorem bind {x : Except Fault α} {k : α → Except Fault γ} (hx : ExceptFaultsIn P x)
    (hk : ∀ a, ExceptFaultsIn P (k a)) : ExceptFaultsIn P (x >>= k) := by
  cases x with
  | error f => rw [except_error_bind]; rintro _ ⟨⟩; exact hx f rfl
  | ok a => exact hk a

theorem failIf {c : Bool} {e : KsbaError} (h : c = true → P (.err e)) :
    ExceptFaultsIn P (Ksba.failIf c e : Except Fault Unit) := by
  cases c <;> rintro f ⟨⟩
  exact h rfl

theorem check {c : Bool} (h : c = false → P .assertion) :
    ExceptFaultsIn P (Ksba.check c : Except Fault Unit) := by
  cases c <;> rintro f ⟨⟩
  exact h rfl

theorem someOr {e : KsbaError} (h : P (.err e)) (x : Option α) :
    ExceptFaultsIn P (Ksba.someOr e x : Except Fault α) := by
  cases x <;> rintro f ⟨⟩
  exact h

theorem liftErr {x : Except KsbaError α} (h : ∀ e, x = .error e → P (.err e)) :
    ExceptFaultsIn P (Ksba.liftErr x : Except Fault α) := by
  cases x <;> rintro f ⟨⟩
  exact h _ rfl

end ExceptFaultsIn

/-! ## The builder -/

section Builder

variable {B A : Prop}

theorem writeChunk_faults (c : Chunk) : FaultsIn (Blame B A) (writeChunk c) :=
  .bind .get fun _ => .bind (.someOr (blame_err (by decide)) _) fun w =>
    .bind (.liftErr (Writer.write_noBug w c).blame) fun _ => .modify _

theorem berWriteTl_faults (tag : Nat) (cls : TagClass) (constructed : Bool) (len : Nat) :
    FaultsIn (Blame B A) (berWriteTl tag cls constructed len) :=
  .bind (.liftErr (berWriteTlBytes_noBug _ _ _ _).blame) fun _ => writeChunk_faults _

theorem writeAlgorithmIdentifiers_faults (l : List String) :
    FaultsIn (Blame B A) (writeAlgorithmIdentifiers l) := by
  induction l with
  | nil => exact .pure _
  | cons o l ih =>
    exact .bind (.bind (.liftErr (algorithmIdentifierBytes_noBug _).blame) fun _ =>
      writeChunk_faults _) fun _ => ih

theorem writeOid_faults (oid : Option String) : FaultsIn (Blame B A) (writeOid oid) :=
  .bind (.someOr (blame_err (by decide)) _) fun _ => .bind (berWriteTl_faults _ _ _ _) fun _ =>
    writeChunk_faults _

/-- The START step fails only with ordinary error codes. -/
theorem buildSignedDataHeader_faults : FaultsIn (Blame B A) buildSignedDataHeader := by
  unfold buildSignedDataHeader
  repeat' first
    | with_reducible exact .get
    | with_reducible exact .pure _
    | with_reducible exact berWriteTl_faults _ _ _ _
    | with_reducible exact writeChunk_faults _
    | with_reducible exact writeOid_faults _
    | with_reducible exact writeAlgorithmIdentifiers_faults _
    | refine .ite ?_ ?_
    | refine .bind ?_ fun _ => ?_

/-- The messageDigest attribute fails with `KSBA_Bug` only for a signer without a
certificate and in its assert only for one without a digest. -/
theorem messageDigestAttr_faults (cl : CertList) :
    ExceptFaultsIn (Blame (cl.cert = none) (cl.msgDigest = [])) (messageDigestAttr cl) := by
  unfold messageDigestAttr
  repeat' first
    | with_reducible exact .failIf fun _ => blame_err (by decide)
    | with_reducible exact .failIf fun h => blame_bug (by simpa using h)
    | with_reducible exact .check fun h => blame_assertion (by simpa using h)
    | with_reducible exact .someOr (blame_err (by decide)) _
    | with_reducible exact .liftErr (derStoreOid_noBug _ _ _).blame
    | with_reducible exact .liftErr (derStoreOctetString_noBug _ _ _).blame
    | refine .bind ?_ fun _ => ?_

theorem signerAttributes_faults (k : Nat) (cl : CertList) :
    FaultsIn (Blame (cl.cert = none) (cl.msgDigest = [])) (signerAttributes k cl) := by
  unfold signerAttributes
  refine .bind (.liftFault (messageDigestAttr_faults cl)) fun attr => ?_
  split
  exact .bind (.modify _) fun _ => .bind (.liftErr (signedAttrsTree_noBug _ _).blame) fun _ => by
    split; exact .modify _

theorem attributesLoop_faults (k : Nat) (cls : List CertList) (oids : List String) :
    FaultsIn (Blame (∃ cl ∈ cls, cl.cert = none) (∃ cl ∈ cls, cl.msgDigest = []))
      (attributesLoop k cls oids) := by
  induction k, cls, oids using attributesLoop.induct with
  | case1 => exact .pure _
  | case2 => exact .fail (blame_err (by decide))
  | case3 _ cl cls _ _ ih =>
    refine .bind ((signerAttributes_faults _ cl).mono fun f hf => ?_) fun _ => ih.mono fun f hf => ?_
    · exact hf.mono (fun h => ⟨cl, .head _, h⟩) (fun h => ⟨cl, .head _, h⟩)
    · exact hf.mono (fun ⟨c, hc, h⟩ => ⟨c, .tail _ hc, h⟩) (fun ⟨c, hc, h⟩ => ⟨c, .tail _ hc, h⟩)

/-- The full SignerInfos tree fails with `KSBA_Bug` only for a signer without a
certificate and in its asserts only for one without the saved attributes. -/
theorem signerInfoTree_faults (cl : CertList) (oid : String) :
    ExceptFaultsIn (Blame (cl.cert = none) (cl.attrRoot = none ∨ cl.attrImage = none))
      (signerInfoTree cl oid) := by
  unfold signerInfoTree
  repeat' first
    | with_reducible exact .failIf fun _ => blame_err (by decide)
    | with_reducible exact .failIf fun h => blame_bug (by simpa using h)
    | with_reducible exact .check fun h => blame_assertion (.inl (by simpa using h))
    | with_reducible exact .check fun h => blame_assertion (.inr (by simpa using h))
    | with_reducible exact .someOr (blame_err (by decide)) _
    | with_reducible exact .liftErr (derStoreOid_noBug _ _ _).blame
    | with_reducible exact .liftErr (derStoreOctetString_noBug _ _ _).blame
    | with_reducible exact .liftErr (derStoreInteger_noBug _ _ _).blame
    | with_reducible exact .liftErr (derStoreNull_noBug _ _).blame
    | with_reducible exact .liftErr (derCopyTree_noBug _ _ _ _).blame
    | with_reducible exact .liftErr (setIssuerSerial_noBug _ _ _).blame
    | refine .bind ?_ fun _ => ?_

theorem restLoop_faults (k : Nat) (cls : List CertList) (oids : List String) :
    FaultsIn (Blame (∃ cl ∈ cls, cl.cert = none)
      (∃ cl ∈ cls, cl.attrRoot = none ∨ cl.attrImage = none)) (restLoop k cls oids) := by
  induction k, cls, oids using restLoop.induct with
  | case1 => exact .pure _
  | case2 => exact .fail (blame_err (by decide))
  | case3 _ cl cls oid _ ih =>
    refine .bind ((FaultsIn.liftFault (signerInfoTree_faults cl oid)).mono fun f hf => ?_)
      fun _ => .bind (writeChunk_faults _) fun _ => ih.mono fun f hf => ?_
    · exact hf.mono (fun h => ⟨cl, .head _, h⟩) (fun h => ⟨cl, .head _, h⟩)
    · exact hf.mono (fun ⟨c, hc, h⟩ => ⟨c, .tail _ hc, h⟩) (fun ⟨c, hc, h⟩ => ⟨c, .tail _ hc, h⟩)

end Builder

/-! ## The build steps, from the container they start in -/

section Steps

variable {s s' : Cms} {e : Fault}

/-- The DATAREADY step fails with `KSBA_Bug` only for a signer without a certificate and
in its assert only for one without a digest. -/
theorem buildSignedDataAttributes_faults (h : buildSignedDataAttributes s = .error e s') :
    Blame (∃ cl ∈ s.certList, cl.cert = none) (∃ cl ∈ s.certList, cl.msgDigest = []) e := by
  unfold buildSignedDataAttributes at h
  rcases bind_eq_error h with h | ⟨_, t, ht, h⟩
  · exact berWriteTl_faults _ _ _ _ _ _ _ h
  · have hc : t.certList = s.certList :=
      (preserves_berWriteTl (fun _ _ => by rfl) _ _ _ _).of_ok ht
    rw [get_bind, ← hc] at *
    exact (FaultsIn.bind (.failIf fun _ => blame_err (by decide)) fun _ =>
      .bind (.failIf fun _ => blame_err (by decide)) fun _ => attributesLoop_faults _ _ _) t e s' h

/-- The GOTSIG step fails with `KSBA_Bug` only for a signer without a certificate and in
its asserts only for one without the attributes of the DATAREADY step. -/
theorem buildSignedDataRest_faults (h : buildSignedDataRest s = .error e s') :
    Blame (∃ cl ∈ s.certList, cl.cert = none)
      (∃ cl ∈ s.certList, cl.attrRoot = none ∨ cl.attrImage = none) e := by
  unfold buildSignedDataRest at h
  rw [get_bind] at h
  exact (FaultsIn.bind (.failIf fun _ => blame_err (by decide)) fun _ =>
    .bind (.failIf fun _ => blame_err (by decide)) fun _ =>
    .bind (restLoop_faults _ _ _) fun _ =>
    .bind (berWriteTl_faults _ _ _ _) fun _ => berWriteTl_faults _ _ _ _) s e s' h

end Steps

/-! ## The handlers and the entry points -/

/-- The caller's reader answers `KSBA_Bug` to one of its reads. -/
def ReaderAnswersBug (s : Cms) : Prop :=
  ∃ r, s.reader = some r ∧
    (r.contentInfo = .error .bug ∨ r.part1 = .error .bug ∨ r.part2 = .error .bug)

/-- The states from which `ksba_cms_parse` or `ksba_cms_build` can answer `KSBA_Bug`: the
reader answered it; a signed-data handler was called at READY or at a stop reason only
the other handler's path has; or the build handler worked at DATAREADY or GOTSIG for a
signer without a certificate. -/
def BugCause (s : Cms) : Prop :=
  ReaderAnswersBug s ∨
    (s.contentHandler = some .ctParseSignedData ∧
      (s.stopReason = .ready ∨ s.stopReason = .needSig)) ∨
    (s.contentHandler = some .ctBuildSignedData ∧
      ((s.stopReason = .ready ∨ s.stopReason = .needHash) ∨
        (s.stopReason = .beginData ∨ s.stopReason = .endData ∨ s.stopReason = .needSig) ∧
          ∃ cl ∈ s.certList, cl.cert = none))

/-- The states from which `ksba_cms_build` can fail an assert: the DATAREADY step for a
signer without a digest, the GOTSIG step for one without the attributes of DATAREADY. -/
def AssertCause (s : Cms) : Prop :=
  s.contentHandler = some .ctBuildSignedData ∧
    ((s.stopReason = .beginData ∨ s.stopReason = .endData) ∧
        (∃ cl ∈ s.certList, cl.msgDigest = []) ∨
      s.stopReason = .needSig ∧ ∃ cl ∈ s.certList, cl.attrRoot = none ∨ cl.attrImage = none)

section Handlers

variable {s s' : Cms} {e : Fault}

/-- The three reads of the parse path pass on what the reader answers. -/
theorem reader_faults {α : Type} (sel : Reader → Except KsbaError α) {g : α → Cms → Cms}
    (hsel : ∀ r, sel r = .error .bug →
      r.contentInfo = .error .bug ∨ r.part1 = .error .bug ∨ r.part2 = .error .bug)
    (h : (do
      let r ← someOr .missingAction (← get).reader
      let x ← liftErr (sel r)
      modify (g x) : CmsM Unit) s = .error e s') :
    Blame (ReaderAnswersBug s) False e := by
  rw [get_bind] at h
  cases hr : s.reader with
  | none =>
    simp only [hr, someOr_none_bind, EStateM.Result.error.injEq] at h
    exact h.1 ▸ blame_err (by decide)
  | some r =>
    simp only [hr, someOr_some_bind] at h
    refine (FaultsIn.bind (.liftErr fun e he => ?_) fun _ => .modify _) s e s' h
    exact ⟨fun hb => ⟨r, hr, hsel r (by cases hb; exact he)⟩, fun h' => by cases h'⟩

theorem parseInit_faults (h : parseInit s = .error e s') : Blame (ReaderAnswersBug s) False e := by
  unfold parseInit at h
  rcases bind_eq_error h with h | ⟨_, t, ht, h⟩
  · exact reader_faults Reader.contentInfo (fun _ => .inl) h
  · exact (FaultsIn.bind .get fun _ => .bind (.someOr (blame_err (by decide)) _) fun _ =>
      .bind (.someOr (blame_err (by decide)) _) fun _ => .modify _) t e s' h

theorem buildInit_faults {B A : Prop} : FaultsIn (Blame B A) buildInit :=
  .bind .get fun _ => .bind (.failIf fun _ => blame_err (by decide)) fun _ =>
    .bind (.failIf fun _ => blame_err (by decide)) fun _ =>
    .bind (.failIf fun _ => blame_err (by decide)) fun _ => .modify _

theorem parseStateOf_bug {sr : StopReason} {hasHash : Bool}
    (h : parseStateOf sr hasHash = .error .bug) : sr = .ready ∨ sr = .needSig := by
  cases sr <;> cases hasHash <;> simp_all [parseStateOf]

theorem buildStateOf_bug {sr : StopReason} (h : buildStateOf sr = .error .bug) :
    sr = .ready ∨ sr = .needHash := by
  cases sr <;> simp_all [buildStateOf]

theorem buildStateOf_dataReady {sr : StopReason} (h : buildStateOf sr = .ok .dataReady) :
    sr = .beginData ∨ sr = .endData := by
  cases sr <;> simp_all [buildStateOf]

theorem buildStateOf_gotSig {sr : StopReason} (h : buildStateOf sr = .ok .gotSig) :
    sr = .needSig := by
  cases sr <;> simp_all [buildStateOf]

theorem parseAction_faults (st : ParseState) (h : parseAction st s = .error e s') :
    Blame (ReaderAnswersBug s) False e := by
  cases st with
  | start => exact reader_faults Reader.part1 (fun _ => .inr ∘ .inl) h
  | gotHash => exact reader_faults Reader.part2 (fun _ => .inr ∘ .inr) h
  | inData => cases h
  | error => cases h; exact blame_err (by decide)

/-- The parse handler answers `KSBA_Bug` only at READY or NEED_SIG, or when the reader
does, and asserts nothing. -/
theorem ctParseSignedData_faults (h : ctParseSignedData s = .error e s') :
    Blame ((s.stopReason = .ready ∨ s.stopReason = .needSig) ∨ ReaderAnswersBug s) False e := by
  rcases signedDataHandler_error_cases h with ⟨e', he', rfl, -⟩ | ⟨st, -, h⟩
  · exact ⟨fun hb => .inl (parseStateOf_bug (by cases hb; exact he')), fun h => by cases h⟩
  · exact (parseAction_faults st h).mono .inr id

/-- The build handler answers `KSBA_Bug` at READY or NEED_HASH, or for a signer without
a certificate; its asserts fail as its DATAREADY and GOTSIG steps say. -/
theorem ctBuildSignedData_faults (h : ctBuildSignedData s = .error e s') :
    Blame ((s.stopReason = .ready ∨ s.stopReason = .needHash) ∨
        (s.stopReason = .beginData ∨ s.stopReason = .endData ∨ s.stopReason = .needSig) ∧
          ∃ cl ∈ s.certList, cl.cert = none)
      ((s.stopReason = .beginData ∨ s.stopReason = .endData) ∧
          (∃ cl ∈ s.certList, cl.msgDigest = []) ∨
        s.stopReason = .needSig ∧ ∃ cl ∈ s.certList, cl.attrRoot = none ∨ cl.attrImage = none)
      e := by
  rcases signedDataHandler_error_cases h with ⟨e', he', rfl, -⟩ | ⟨st, hst, h⟩
  · exact ⟨fun hb => .inl (buildStateOf_bug (by cases hb; exact he')), fun h => by cases h⟩
  cases st with
  | start =>
    exact (FaultsIn.bind (.modify _) fun _ => buildSignedDataHeader_faults).mono
      (fun _ h => h.mono False.elim False.elim) _ _ _ h
  | dataReady =>
    have hsr := buildStateOf_dataReady hst
    exact (buildSignedDataAttributes_faults h).mono (fun hc => .inr ⟨hsr.imp_right .inl, hc⟩)
      fun hd => .inl ⟨hsr, hd⟩
  | gotSig =>
    have hsr := buildStateOf_gotSig hst
    exact (buildSignedDataRest_faults h).mono (fun hc => .inr ⟨.inr (.inr hsr), hc⟩)
      fun ha => .inr ⟨hsr, ha⟩
  | error => cases h; exact blame_err (by decide)

theorem engineCall_faults {init : CmsM Unit}
    (hinit : ∀ {t t' : Cms} {e : Fault}, init t = .error e t' → Blame (ReaderAnswersBug t) False e)
    (h : engineCall init s = .error e s') : Blame (BugCause s) (AssertCause s) e := by
  rcases engineCall_error h with ⟨-, hi⟩ | ⟨-, ⟨-, rfl, -⟩ | ⟨hd, hh, hr⟩⟩
  · exact (hinit hi).mono .inl False.elim
  · exact blame_err (by decide)
  cases hd
  case ctParseSignedData =>
    exact (ctParseSignedData_faults hr).mono
      (fun hb => hb.elim (fun hb => .inr (.inl ⟨hh, hb⟩)) .inl) False.elim
  case ctBuildSignedData =>
    exact (ctBuildSignedData_faults hr).mono (fun hb => .inr (.inr ⟨hh, hb⟩)) fun ha => ⟨hh, ha⟩
  all_goals cases hr; exact blame_err (by decide)

end Handlers

/-- A signed-data handler called again at READY answers `KSBA_Bug`. -/
theorem engineCall_at_ready {init : CmsM Unit} {s : Cms} (hs : s.stopReason = .ready)
    (hh : s.contentHandler.any Handler.isSignedData) :
    ∃ s', engineCall init s = .error (.err .bug) s' := by
  cases hc : s.contentHandler with
  | none => simp [hc] at hh
  | some hd =>
    refine ⟨{ s with stopReason := .running }, engineCall_of_runHandler_error (by simp [hs]) hc ?_⟩
    rw [hc] at hh
    cases hd <;> simp only [Option.any_some, Handler.isSignedData, Bool.false_eq_true] at hh
    all_goals
      simp only [runHandler, ctParseSignedData, ctBuildSignedData]
      exact signedDataHandler_stateOf_error (by rw [hs]; rfl)

/-- A failed call of `ksba_cms_parse` or `ksba_cms_build` answers `KSBA_Bug` only from a
state of `BugCause` and fails an assert only from one of `AssertCause`; every other
failure is an ordinary error code. A signed-data handler called again at READY answers
`KSBA_Bug`. -/
theorem engine_fault_sources {call : CmsM StopReason}
    (hcall : call = ksbaCmsParse ∨ call = ksbaCmsBuild) :
    (∀ s s' e, call s = .error e s' →
      (e = .err .bug → BugCause s) ∧ (e = .assertion → AssertCause s)) ∧
    (∀ s, s.stopReason = .ready → s.contentHandler.any Handler.isSignedData →
      ∃ s', call s = .error (.err .bug) s') := by
  refine ⟨fun s s' e h => ?_, fun s hs hh => ?_⟩
  · rcases hcall with rfl | rfl
    · exact engineCall_faults parseInit_faults h
    · exact engineCall_faults (fun hi => buildInit_faults _ _ _ hi) h
  · rcases hcall with rfl | rfl <;> exact engineCall_at_ready hs hh

theorem failed_build_fault_sources :
    (∀ s s' e, ksbaCmsBuild s = .error e s' →
      (e = .err .bug → BugCause s) ∧ (e = .assertion → AssertCause s)) ∧
    (∀ s, s.stopReason = .ready → s.contentHandler.any Handler.isSignedData →
      ∃ s', ksbaCmsBuild s = .error (.err .bug) s') :=
  engine_fault_sources (.inr rfl)

/-! ## Runs that reach them -/

/-- The stop reason `c` is called at and the fault it ends in, when it is called after the
calls `cs` on a new container. -/
def faultAfter {α : Type} (dim : Nat) (cs : List Call) (c : CmsM α) : Option (StopReason × Fault) :=
  (runCalls dim ksbaCmsNew cs).bind fun s =>
    match c s with
    | .error e _ => some (s.stopReason, e)
    | .ok _ _ => none

theorem Reachable.exists_fault {α : Type} {dim : Nat} (cs : List Call) {c : CmsM α}
    {sr : StopReason} {f : Fault} (h : faultAfter dim cs c = some (sr, f)) :
    ∃ s s', Reachable dim s ∧ s.stopReason = sr ∧ c s = .error f s' := by
  cases hr : Ksba.runCalls dim ksbaCmsNew cs with
  | none => simp [faultAfter, hr] at h
  | some s =>
    cases hc : c s with
    | ok a s' => simp [faultAfter, hr, hc] at h
    | error e s' =>
      simp only [faultAfter, hr, hc, Option.some_bind, Option.some.injEq, Prod.mk.injEq] at h
      exact ⟨s, s', Reachable.of_run cs hr, h.1, h.2 ▸ hc⟩

/-- A writer that takes every write. -/
def unboundedWriter : Writer := ⟨[], none⟩

/-- A certificate with the serial number and issuer nodes `set_issuer_serial` copies. -/
def sampleCert : Cert :=
  ⟨tnode "Certificate" .sequence
    (tnode "tbsCertificate" .sequence
      (tnode "serialNumber" .integer .nil (tnode "issuer" .choice .nil .nil)) .nil) .nil, []⟩

/-- A detached signed-data build with one signer and SHA-1, up to GOT_CONTENT. -/
def buildToStart : List Call :=
  [.setReaderWriter none (some unboundedWriter), .setContentType 0 .signedData,
    .setContentType 1 .data, .addDigestAlgo (some "1.3.14.3.2.26"), .addSigner (some sampleCert),
    .setMessageDigest 0 (some [1, 2, 3]), .build]

/-- A signed-data build over attached data with one signer, `cert`, whose digest is never
set, up to BEGIN_DATA. -/
def oneSignerBuildRun (cert : Option Cert) : List Call :=
  [.setReaderWriter none (some unboundedWriter), .setContentType 0 .signedData,
    .setContentType 1 .data, .addDigestAlgo (some "1.3.14.3.2.26"), .addSigner cert, .build,
    .build]

/-- A signer added after DATAREADY, with its certificate and digest, has no saved
attributes, and GOTSIG fails its assert on them. -/
theorem late_signer_fails_gotSig_assert :
    ∃ s s', Reachable 32 s ∧ s.stopReason = .needSig ∧ ksbaCmsBuild s = .error .assertion s' :=
  Reachable.exists_fault (buildToStart ++
    [.build, .build, .addSigner (some sampleCert), .setMessageDigest 0 (some [4, 5])]) (by decide)

/-- After a parse to NEED_HASH and `ksba_cms_set_content_type (cms, 0, signed data)`, the
build handler is called at NEED_HASH and answers `KSBA_Bug`. -/
theorem build_at_need_hash_answers_bug :
    ∃ s s', Reachable 32 s ∧ s.stopReason = .needHash ∧ ksbaCmsBuild s = .error (.err .bug) s' :=
  ⟨_, _, Reachable.of_run [.setReaderWriter (some (signedReader true)) none, .parse, .parse,
    .setContentType 0 .signedData] rfl, rfl, rfl⟩

/-- API calls the library accepts reach both internal faults, by five routes: the
DATAREADY step answers `KSBA_Bug` for a signer added without a certificate and fails its
assert for a signer whose digest was never set; a parse called again at READY answers
`KSBA_Bug`; a signer added after DATAREADY fails the GOTSIG assert; and a build at
NEED_HASH, after a parse and `ksba_cms_set_content_type (cms, 0, signed data)`, answers
`KSBA_Bug`. -/
theorem accepted_calls_reach_bug_and_assert :
    (∃ s s', Reachable 32 s ∧ ksbaCmsBuild s = .error (.err .bug) s') ∧
    (∃ s s', Reachable 32 s ∧ ksbaCmsBuild s = .error .assertion s') ∧
    (∃ s s', Reachable 32 s ∧ s.stopReason = .ready ∧ ksbaCmsParse s = .error (.err .bug) s') ∧
    (∃ s s', Reachable 32 s ∧ s.stopReason = .needSig ∧ ksbaCmsBuild s = .error .assertion s') ∧
    (∃ s s', Reachable 32 s ∧ s.stopReason = .needHash ∧
      ksbaCmsBuild s = .error (.err .bug) s') := by
  obtain ⟨s₁, t₁, h₁, -, e₁⟩ := @Reachable.exists_fault _ 32 (oneSignerBuildRun none)
    ksbaCmsBuild .beginData (.err .bug) (by decide)
  obtain ⟨s₂, t₂, h₂, -, e₂⟩ := @Reachable.exists_fault _ 32
    (oneSignerBuildRun (some ⟨.nil, []⟩)) ksbaCmsBuild .beginData .assertion (by decide)
  exact ⟨⟨s₁, t₁, h₁, e₁⟩, ⟨s₂, t₂, h₂, e₂⟩,
    ⟨_, _, Reachable.of_run [.setReaderWriter (some (signedReader false)) none, .parse, .parse,
      .setHashFunction (some 0) 0, .parse, .parse] rfl, rfl, rfl⟩,
    late_signer_fails_gotSig_assert, build_at_need_hash_answers_bug⟩

end Ksba
