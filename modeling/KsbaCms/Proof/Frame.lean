import KsbaCms.Model.Api

/-! # What each function leaves alone

Most facts about runs say that a call keeps some part of the container: the stop reason,
the dispatcher fields, the signer info. `Preserves f x` says that `x` leaves the part `f`
of the container as it was, whether it returns or fails. The rules below build it up from
the monad's operations, so that the frame of a function follows from the fields its
`modify` calls write.

* `stateAfter` and `Preserves`, with one rule for each operation of `CmsM`;
* one frame lemma per function of the model, for every `f` that ignores the fields the
  function writes.
-/

namespace Ksba
set_option autoImplicit false

/-- The container a call leaves, whether it returns or fails. -/
def stateAfter {ε σ α : Type} : EStateM.Result ε σ α → σ
  | .ok _ s => s
  | .error _ s => s

@[simp] theorem stateAfter_ok {ε σ α : Type} (a : α) (s : σ) :
    stateAfter (.ok a s : EStateM.Result ε σ α) = s := rfl

@[simp] theorem stateAfter_error {ε σ α : Type} (e : ε) (s : σ) :
    stateAfter (.error e s : EStateM.Result ε σ α) = s := rfl

/-- `x` leaves the part `f` of the container as it found it, however it ends. -/
def Preserves {β α : Type} (f : Cms → β) (x : CmsM α) : Prop :=
  ∀ s, f (stateAfter (x s)) = f s

namespace Preserves

variable {β α γ : Type} {f : Cms → β}

theorem of_ok {x : CmsM α} (h : Preserves f x) {s s' : Cms} {a : α} (hx : x s = .ok a s') :
    f s' = f s := by
  simpa [hx] using h s

theorem of_error {x : CmsM α} (h : Preserves f x) {s s' : Cms} {e : Fault}
    (hx : x s = .error e s') : f s' = f s := by
  simpa [hx] using h s

theorem pure (a : α) : Preserves f (Pure.pure a : CmsM α) := fun _ => rfl

theorem get : Preserves f (MonadState.get : CmsM Cms) := fun _ => rfl

theorem fail (e : KsbaError) : Preserves f (Ksba.fail e : CmsM α) := fun _ => rfl

theorem check (c : Bool) : Preserves f (Ksba.check c : CmsM Unit) := by
  cases c <;> exact fun _ => rfl

theorem failIf (c : Bool) (e : KsbaError) : Preserves f (Ksba.failIf c e : CmsM Unit) := by
  cases c <;> exact fun _ => rfl

theorem liftErr (x : Except KsbaError α) : Preserves f (Ksba.liftErr x : CmsM α) := by
  cases x <;> exact fun _ => rfl

theorem someOr (e : KsbaError) (x : Option α) : Preserves f (Ksba.someOr e x : CmsM α) := by
  cases x <;> exact fun _ => rfl

theorem liftFault (x : Except Fault α) : Preserves f (Ksba.liftFault x : CmsM α) := by
  cases x <;> exact fun _ => rfl

theorem modify {g : Cms → Cms} (h : ∀ s, f (g s) = f s) : Preserves f (modify g : CmsM PUnit) :=
  h

theorem bind {x : CmsM α} {k : α → CmsM γ} (hx : Preserves f x) (hk : ∀ a, Preserves f (k a)) :
    Preserves f (x >>= k) := by
  intro s
  rw [bind_apply]
  cases h : x s with
  | ok a t => exact (hk a t).trans (hx.of_ok h)
  | error e t => exact hx.of_error h

theorem ite {c : Prop} [Decidable c] {x y : CmsM α} (hx : Preserves f x) (hy : Preserves f y) :
    Preserves f (if c then x else y) := by
  split <;> assumption

end Preserves

/-- The container after a call that did not abort is the one the call left. -/
theorem Call.stateAfter_of_next {dim : Nat} {c : Call} {s s' : Cms} (h : c.next dim s = some s') :
    stateAfter (c.run dim s) = s' := by
  unfold Call.next at h
  split at h <;> cases h <;> simp_all

@[simp] theorem stateAfter_bind_pure {α : Type} (x : CmsM α) (s : Cms) :
    stateAfter ((x >>= fun _ => pure ()) s) = stateAfter (x s) := by
  rw [bind_apply]
  cases x s <;> rfl

/-! ## Frames of the functions -/

section Frames

variable {β : Type} {f : Cms → β}

/-! ### Writing -/

section Writer

variable (hw : ∀ s w, f { s with writer := w } = f s)
include hw

theorem preserves_writeChunk (c : Chunk) : Preserves f (writeChunk c) :=
  .bind .get fun _ => .bind (.someOr _ _) fun _ => .bind (.liftErr _) fun _ =>
    .modify fun _ => hw _ _

theorem preserves_berWriteTl (tag : Nat) (cls : TagClass) (constructed : Bool) (len : Nat) :
    Preserves f (berWriteTl tag cls constructed len) :=
  .bind (.liftErr _) fun _ => preserves_writeChunk hw _

theorem preserves_writeAlgorithmIdentifiers (l : List String) :
    Preserves f (writeAlgorithmIdentifiers l) := by
  induction l with
  | nil => exact .pure _
  | cons o l ih =>
    exact .bind (.bind (.liftErr _) fun _ => preserves_writeChunk hw _) fun _ => ih

theorem preserves_writeOid (oid : Option String) : Preserves f (writeOid oid) :=
  .bind (.someOr _ _) fun _ => .bind (preserves_berWriteTl hw _ _ _ _) fun _ =>
    preserves_writeChunk hw _

theorem preserves_buildSignedDataHeader : Preserves f buildSignedDataHeader := by
  unfold buildSignedDataHeader
  repeat' first
    | with_reducible exact .get
    | with_reducible exact .pure _
    | with_reducible exact preserves_berWriteTl hw _ _ _ _
    | with_reducible exact preserves_writeChunk hw _
    | with_reducible exact preserves_writeOid hw _
    | with_reducible exact preserves_writeAlgorithmIdentifiers hw _
    | refine .ite ?_ ?_
    | refine .bind ?_ fun _ => ?_

theorem preserves_restLoop (k : Nat) (cls : List CertList) (oids : List String) :
    Preserves f (restLoop k cls oids) := by
  induction k, cls, oids using restLoop.induct with
  | case1 => exact .pure _
  | case2 => exact .fail _
  | case3 _ _ _ _ _ ih =>
    exact .bind (.liftFault _) fun _ => .bind (preserves_writeChunk hw _) fun _ => ih

theorem preserves_buildSignedDataRest : Preserves f buildSignedDataRest := by
  unfold buildSignedDataRest
  repeat' first
    | with_reducible exact .get
    | with_reducible exact .pure _
    | with_reducible exact .failIf _ _
    | with_reducible exact preserves_berWriteTl hw _ _ _ _
    | with_reducible exact preserves_restLoop hw _ _ _
    | refine .ite ?_ ?_
    | refine .bind ?_ fun _ => ?_

end Writer

/-! ### The signer records and the signer info -/

section Signers

variable (hw : ∀ s w, f { s with writer := w } = f s)
  (hc : ∀ s l, f { s with certList := l } = f s)
  (hi : ∀ s r i, f { s with signerInfoRoot := r, signerInfoImage := i } = f s)
include hc hi

theorem preserves_signerAttributes (k : Nat) (cl : CertList) :
    Preserves f (signerAttributes k cl) :=
  .bind (.liftFault _) fun _ => .bind (.modify fun _ => hc _ _) fun _ =>
    .bind (.liftErr _) fun _ => .modify fun _ => hi _ _ _

theorem preserves_attributesLoop (k : Nat) (cls : List CertList) (oids : List String) :
    Preserves f (attributesLoop k cls oids) := by
  induction k, cls, oids using attributesLoop.induct with
  | case1 => exact .pure _
  | case2 => exact .fail _
  | case3 _ _ _ _ _ ih => exact .bind (preserves_signerAttributes hc hi _ _) fun _ => ih

include hw in
theorem preserves_buildSignedDataAttributes : Preserves f buildSignedDataAttributes := by
  unfold buildSignedDataAttributes
  repeat' first
    | with_reducible exact .get
    | with_reducible exact .pure _
    | with_reducible exact .failIf _ _
    | with_reducible exact preserves_berWriteTl hw _ _ _ _
    | with_reducible exact preserves_attributesLoop hc hi _ _ _
    | refine .ite ?_ ?_
    | refine .bind ?_ fun _ => ?_

end Signers

/-! ### The parser stages -/

theorem preserves_parseContentInfo (h : ∀ s o, f { s with contentOid := o } = f s) :
    Preserves f parseContentInfo :=
  .bind .get fun _ => .bind (.someOr _ _) fun _ => .bind (.liftErr _) fun _ =>
    .modify fun _ => h _ _

theorem preserves_parseSignedDataPart1
    (h : ∀ s a e d g,
      f { s with digestAlgos := a, encapContType := e, detachedSignature := d, dataDigest := g }
        = f s) :
    Preserves f parseSignedDataPart1 :=
  .bind .get fun _ => .bind (.someOr _ _) fun _ => .bind (.liftErr _) fun _ =>
    .modify fun _ => h _ _ _ _ _

theorem preserves_parseSignedDataPart2
    (hi : ∀ s r i, f { s with signerInfoRoot := r, signerInfoImage := i } = f s) :
    Preserves f parseSignedDataPart2 :=
  .bind .get fun _ => .bind (.someOr _ _) fun _ => .bind (.liftErr _) fun _ =>
    .modify fun _ => hi _ _ _

/-! ### The set-up calls -/

theorem preserves_ksbaCmsSetReaderWriter (h : ∀ s r w, f { s with reader := r, writer := w } = f s)
    (r : Option Reader) (w : Option Writer) : Preserves f (ksbaCmsSetReaderWriter r w) :=
  .bind .get fun _ => .bind (.failIf _ _) fun _ => .bind (.failIf _ _) fun _ =>
    .modify fun _ => h _ _ _

theorem preserves_ksbaCmsSetContentType
    (hc : ∀ s o c h, f { s with contentOid := o, contentCt := c, contentHandler := h } = f s)
    (he : ∀ s o, f { s with encapContType := o } = f s) (what : Int) (type : ContentType) :
    Preserves f (ksbaCmsSetContentType what type) :=
  .bind (.failIf _ _) fun _ => .bind (.someOr _ _) fun _ => .bind (.someOr _ _) fun _ =>
    .ite (.modify fun _ => hc _ _ _ _) (.modify fun _ => he _ _)

theorem preserves_ksbaCmsAddDigestAlgo (h : ∀ s l, f { s with digestAlgos := l } = f s)
    (oid : Option String) : Preserves f (ksbaCmsAddDigestAlgo oid) :=
  .bind (.someOr _ _) fun _ => .modify fun _ => h _ _

theorem preserves_ksbaCmsSetHashFunction
    (h : ∀ s g a, f { s with hashFnc := g, hashFncArg := a } = f s) (fnc : Option Nat) (arg : Nat) :
    Preserves f (ksbaCmsSetHashFunction fnc arg) :=
  .modify fun _ => h _ _ _

theorem preserves_ksbaCmsGetDigestAlgo (h : ∀ s a, f { s with cacheDigestAlgo := a } = f s)
    (idx : Int) : Preserves f (ksbaCmsGetDigestAlgo idx) := by
  intro s
  simp only [ksbaCmsGetDigestAlgo, get_bind]
  cases s.signerInfoRoot <;> cases s.cacheDigestAlgo <;> simp only [] <;> (try split_ifs) <;>
    simp only [pure_apply, pure_bind_apply, modify_bind, stateAfter_ok, h]

section CertList

variable (hc : ∀ s l, f { s with certList := l } = f s)
include hc

theorem preserves_ksbaCmsAddSigner (cert : Option Cert) : Preserves f (ksbaCmsAddSigner cert) :=
  .modify fun _ => hc _ _

theorem preserves_ksbaCmsSetMessageDigest (dim : Nat) (idx : Int) (digest : Option Bytes) :
    Preserves f (ksbaCmsSetMessageDigest dim idx digest) :=
  .bind (.someOr _ _) fun _ => .bind (.failIf _ _) fun _ => .bind (.failIf _ _) fun _ =>
    .bind .get fun _ => .bind (.someOr _ _) fun _ => .modify fun _ => hc _ _

theorem preserves_ksbaCmsGetCert (idx : Int) : Preserves f (ksbaCmsGetCert idx) := by
  intro s
  simp only [ksbaCmsGetCert]
  split_ifs
  · rfl
  · simp only [pure_bind_apply, get_bind]
    cases s.certList[idx.toNat]? <;>
      simp only [pure_apply, pure_bind_apply, modify_bind, stateAfter_ok, hc]

end CertList

/-- The calls that only set the container up: the reader and writer, the digest
algorithms, the signer records, the hash function, and the application's own writes. -/
def Call.IsSetup : Call → Prop
  | .setReaderWriter .. | .addDigestAlgo _ | .addSigner _ | .setMessageDigest .. => True
  | .setHashFunction .. | .getCert _ | .writeData _ => True
  | .parse | .build | .setContentType .. | .getDigestAlgo _ => False

/-- The frame of the set-up calls. -/
theorem Call.preserves_of_isSetup (dim : Nat)
    (hrw : ∀ s r w, f { s with reader := r, writer := w } = f s)
    (hd : ∀ s l, f { s with digestAlgos := l } = f s)
    (hc : ∀ s l, f { s with certList := l } = f s)
    (hh : ∀ s g a, f { s with hashFnc := g, hashFncArg := a } = f s) :
    ∀ c : Call, c.IsSetup → Preserves f (c.run dim)
  | .setReaderWriter r w, _ => preserves_ksbaCmsSetReaderWriter hrw r w
  | .addDigestAlgo oid, _ => preserves_ksbaCmsAddDigestAlgo hd oid
  | .addSigner cert, _ => preserves_ksbaCmsAddSigner hc cert
  | .setMessageDigest idx d, _ => preserves_ksbaCmsSetMessageDigest hc dim idx d
  | .setHashFunction fnc arg, _ => preserves_ksbaCmsSetHashFunction hh fnc arg
  | .getCert idx, _ => .bind (preserves_ksbaCmsGetCert hc idx) fun _ => .pure _
  | .writeData _, _ => preserves_writeChunk (fun s w => hrw s s.reader w) _

end Frames

end Ksba
