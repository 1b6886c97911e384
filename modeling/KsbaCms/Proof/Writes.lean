import KsbaCms.Proof.Engine

/-! # What the build steps write

A writer is known by the chunks it has taken, and the build steps only ever append to it.
`Emits x out` says that every success of `x` from a container `s` changes nothing but the
writer and appends `out s` to it. The rules below follow the code, so that what a step
writes is one list computed from the container it starts in.

* `Appended w w' new`: `w'` holds the chunks of `w`, then `new`;
* `Emits`, with one rule for each operation the writing code uses;
* `headerChunks` (START) and `restChunks` (GOTSIG); DATAREADY writes one end-of-contents;
* `ctBuildSignedData_appends`: a successful step of the build handler appends
  `buildStepChunks` of the container it started in;
* `nesting`: how many indefinite-length encodings a stream of chunks leaves open, and
  what each step does to it (`nesting_buildStepChunks`).
-/

namespace Ksba
set_option autoImplicit false

/-! ## Appending to a writer -/

/-- `w'` holds the chunks of `w`, then `new`; two NULL writers count too. -/
def Appended (w w' : Option Writer) (new : List Chunk) : Prop :=
  w'.map Writer.out = w.map (·.out ++ new)

theorem Appended.nil {w w' : Option Writer} (h : w' = w) : Appended w w' [] := by
  simp [Appended, h]

theorem Appended.trans {w₁ w₂ w₃ : Option Writer} {a b : List Chunk} (h₁ : Appended w₁ w₂ a)
    (h₂ : Appended w₂ w₃ b) : Appended w₁ w₃ (a ++ b) := by
  unfold Appended at *
  cases w₁ <;> cases w₂ <;> cases w₃ <;> simp_all

theorem Writer.write_out {w w' : Writer} {c : Chunk} (h : w.write c = .ok w') :
    w'.out = w.out ++ [c] := by
  unfold Writer.write at h
  split at h <;> cases h <;> rfl

/-! ## Computations that only append -/

/-- Every success of `x` from `s` changes nothing but the writer, and appends `out s`. -/
def Emits {α : Type} (x : CmsM α) (out : Cms → List Chunk) : Prop :=
  ∀ s a t, x s = .ok a t → (∃ w, t = { s with writer := w }) ∧ Appended s.writer t.writer (out s)

namespace Emits

variable {α β γ : Type}

theorem congr {x : CmsM α} {out out' : Cms → List Chunk} (h : Emits x out)
    (ho : ∀ s, out s = out' s) : Emits x out' :=
  fun s a t hx => ho s ▸ h s a t hx

/-- A computation that returns only with the container it was given writes nothing. -/
theorem of_unchanged {x : CmsM α} (h : ∀ s a t, x s = .ok a t → t = s) : Emits x fun _ => [] :=
  fun s a t hx => ⟨⟨s.writer, h s a t hx⟩, .nil (congrArg Cms.writer (h s a t hx))⟩

theorem pure (a : α) : Emits (Pure.pure a : CmsM α) fun _ => [] :=
  of_unchanged fun _ _ _ h => by cases h; rfl

theorem failIf (c : Bool) (e : KsbaError) : Emits (Ksba.failIf c e : CmsM Unit) fun _ => [] :=
  of_unchanged fun _ _ _ h => by cases c <;> cases h; rfl

theorem liftErr (x : Except KsbaError α) : Emits (Ksba.liftErr x : CmsM α) fun _ => [] :=
  of_unchanged fun _ _ _ h => by cases x <;> cases h; rfl

theorem get_bind {k : Cms → CmsM α} {out : Cms → Cms → List Chunk}
    (hk : ∀ c, Emits (k c) (out c)) : Emits (MonadState.get >>= k) fun s => out s s :=
  fun s a t h => hk s s a t h

theorem bind {x : CmsM α} {k : α → CmsM γ} {o₁ o₂ : Cms → List Chunk} (hx : Emits x o₁)
    (hk : ∀ a, Emits (k a) o₂) (ho : ∀ s w, o₂ { s with writer := w } = o₂ s) :
    Emits (x >>= k) fun s => o₁ s ++ o₂ s := by
  intro s b u h
  obtain ⟨a, t, ht, hu⟩ := bind_eq_ok h
  obtain ⟨⟨w₁, rfl⟩, h₁⟩ := hx s a t ht
  obtain ⟨⟨w₂, rfl⟩, h₂⟩ := hk a _ b u hu
  exact ⟨⟨w₂, rfl⟩, h₁.trans (ho s w₁ ▸ h₂)⟩

/-- A success of `x >>= k`, where `x` only appends, goes on from the container with only
its writer changed. -/
theorem bind_ok {x : CmsM α} {k : α → CmsM γ} {o : Cms → List Chunk} (hx : Emits x o)
    {s t : Cms} {c : γ} (h : (x >>= k) s = .ok c t) :
    ∃ a w, k a { s with writer := w } = .ok c t := by
  obtain ⟨a, t', ht', h⟩ := bind_eq_ok h
  obtain ⟨⟨w, rfl⟩, -⟩ := hx s a t' ht'
  exact ⟨a, w, h⟩

/-- A lookup that succeeds hands its value on; what follows may depend on it. -/
theorem someOr_bind {e : KsbaError} {o : Option β} {k : β → CmsM α} {out : Cms → List Chunk}
    (hk : ∀ v, o = some v → Emits (k v) out) : Emits (Ksba.someOr e o >>= k) out := by
  intro s a t h
  cases ho : o with
  | none => simp [ho] at h
  | some v => simp only [ho, someOr_some_bind] at h; exact hk v ho s a t h

theorem liftFault_bind {x : Except Fault β} {k : β → CmsM α} {out : Cms → List Chunk}
    (hk : ∀ v, x = .ok v → Emits (k v) out) : Emits (Ksba.liftFault x >>= k) out := by
  intro s a t h
  cases hx : x with
  | error f => simp [hx] at h
  | ok v => simp only [hx, liftFault_ok_bind] at h; exact hk v hx s a t h

theorem ite {c : Prop} [Decidable c] {x y : CmsM α} {o o' : Cms → List Chunk} (hx : Emits x o)
    (hy : Emits y o') : Emits (if c then x else y) fun s => if c then o s else o' s := by
  split <;> assumption

end Emits

/-! ## The writing functions -/

theorem writeChunk_emits (c : Chunk) : Emits (writeChunk c) fun _ => [c] := by
  intro s a t h
  simp only [writeChunk, get_bind] at h
  cases hw : s.writer with
  | none => simp [hw] at h
  | some w =>
    simp only [hw, someOr_some_bind] at h
    cases hc : w.write c with
    | error e => simp [hc] at h
    | ok w' =>
      simp only [hc, liftErr_ok_bind, modify_apply, EStateM.Result.ok.injEq] at h
      obtain ⟨-, rfl⟩ := h
      exact ⟨⟨_, rfl⟩, by simp [Appended, hw, Writer.write_out hc]⟩

theorem berWriteTl_emits (tag : Nat) (cls : TagClass) (constructed : Bool) (len : Nat) :
    Emits (berWriteTl tag cls constructed len) fun _ => [.tl tag cls constructed len] :=
  .bind (.liftErr _) (fun _ => writeChunk_emits _) fun _ _ => rfl

theorem writeAlgorithmIdentifiers_emits (l : List String) :
    Emits (writeAlgorithmIdentifiers l) fun _ => l.map .algorithmIdentifier := by
  induction l with
  | nil => exact .pure _
  | cons o l ih =>
    exact .bind (.bind (.liftErr _) (fun _ => writeChunk_emits _) fun _ _ => rfl) (fun _ => ih)
      fun _ _ => rfl

/-- What `writeOid` writes: the header and the bytes of the OID, when it has some. -/
def oidChunks (oid : Option String) : List Chunk :=
  match oid.bind oidFromStr with
  | some buf => [.tl typeObjectId .universal false buf.length, .data buf]
  | none => []

theorem writeOid_emits (oid : Option String) : Emits (writeOid oid) fun _ => oidChunks oid :=
  .someOr_bind fun buf hb =>
    (Emits.bind (berWriteTl_emits _ _ _ _) (fun _ => writeChunk_emits _) fun _ _ => rfl).congr
      fun _ => by simp [oidChunks, hb]

/-! ## The three steps -/

/-- The OIDs of the AlgorithmIdentifiers among written chunks, in order. -/
def algorithmIdentifierOids (out : List Chunk) : List String :=
  out.filterMap fun
    | .algorithmIdentifier oid => some oid
    | _ => none

@[simp] theorem algorithmIdentifierOids_nil : algorithmIdentifierOids [] = [] := rfl

@[simp] theorem algorithmIdentifierOids_cons_tl (tag : Nat) (cls : TagClass) (c : Bool) (len : Nat)
    (l : List Chunk) : algorithmIdentifierOids (.tl tag cls c len :: l) = algorithmIdentifierOids l :=
  rfl

@[simp] theorem algorithmIdentifierOids_cons_data (b : Bytes) (l : List Chunk) :
    algorithmIdentifierOids (.data b :: l) = algorithmIdentifierOids l := rfl

@[simp] theorem algorithmIdentifierOids_append (a b : List Chunk) :
    algorithmIdentifierOids (a ++ b) = algorithmIdentifierOids a ++ algorithmIdentifierOids b :=
  List.filterMap_append _ _ _

@[simp] theorem algorithmIdentifierOids_oidChunks (oid : Option String) :
    algorithmIdentifierOids (oidChunks oid) = [] := by
  unfold oidChunks
  split <;> rfl

/-- The end-of-contents octets, as `_ksba_ber_write_tl (w, 0, 0, 0, 0)` writes them. -/
def eoc : Chunk := .tl 0 .universal false 0

/-- What START writes: the opening of the ContentInfo, of its `[0]`, of the SignedData, the
version, the digestAlgorithms SET with one AlgorithmIdentifier per listed algorithm, the
opening of the encapContentInfo with its content type and, for attached data, of the
eContent `[0]`. -/
def headerChunks (s : Cms) : List Chunk :=
  .tl typeSequence .universal true 0 :: oidChunks s.contentOid ++
    [.tl 0 .context true 0, .tl typeSequence .universal true 0, .tl typeInteger .universal false 1,
      .data [0x03], .tl typeSet .universal true 11] ++
    s.digestAlgos.map .algorithmIdentifier ++
    .tl typeSequence .universal true 0 :: oidChunks s.encapContType ++
    if s.detachedSignature then [] else [.tl 0 .context true 0]

/-- The digestAlgorithms SET of the header holds the digest algorithms of the container. -/
@[simp] theorem algorithmIdentifierOids_headerChunks (s : Cms) :
    algorithmIdentifierOids (headerChunks s) = s.digestAlgos := by
  have hd : algorithmIdentifierOids (s.digestAlgos.map .algorithmIdentifier) = s.digestAlgos := by
    simp [algorithmIdentifierOids, List.filterMap_map, Function.comp_def]
  unfold headerChunks
  split_ifs <;> simp [hd]

theorem buildSignedDataHeader_emits : Emits buildSignedDataHeader headerChunks := by
  refine Emits.congr
    (.bind (berWriteTl_emits _ _ _ _) (fun _ => .get_bind fun c =>
      .bind (writeOid_emits c.contentOid) (fun _ =>
      .bind (berWriteTl_emits _ _ _ _) (fun _ => .bind (berWriteTl_emits _ _ _ _) (fun _ =>
      .bind (berWriteTl_emits _ _ _ _) (fun _ => .bind (writeChunk_emits _) (fun _ =>
      .bind (berWriteTl_emits _ _ _ _) (fun _ => .get_bind fun c =>
      .bind (writeAlgorithmIdentifiers_emits c.digestAlgos) (fun _ =>
      .bind (berWriteTl_emits _ _ _ _) (fun _ => .get_bind fun c =>
      .bind (writeOid_emits c.encapContType) (fun _ => .get_bind fun c =>
      .ite (berWriteTl_emits _ _ _ _) (.pure _)) fun _ _ => rfl) fun _ _ => rfl)
      fun _ _ => rfl) fun _ _ => rfl) fun _ _ => rfl) fun _ _ => rfl) fun _ _ => rfl)
      fun _ _ => rfl) fun _ _ => rfl) fun _ _ => rfl) fun s => ?_
  simp only [headerChunks, List.cons_append, List.nil_append, List.append_assoc]
  split_ifs <;> simp_all

/-- What GOTSIG writes for the signers from the `k`-th on: each signer's SignerInfos image,
the first one's with its first byte patched, up to the first signer whose tree fails. -/
def restChunks : Nat → List CertList → List String → List Chunk
  | _, [], _ => []
  | _, _ :: _, [] => []
  | k, cl :: cls, oid :: oids =>
    match signerInfoTree cl oid with
    | .ok root => .data (patchedImage k (derEncodeTree root).2) :: restChunks (k + 1) cls oids
    | .error _ => []

theorem restLoop_emits (k : Nat) (cls : List CertList) (oids : List String) :
    Emits (restLoop k cls oids) fun _ => restChunks k cls oids := by
  induction k, cls, oids using restLoop.induct with
  | case1 => exact .pure _
  | case2 => intro _ _ _ h; cases h
  | case3 k cl cls oid oids ih =>
    refine .liftFault_bind fun root hr => ?_
    refine (Emits.bind (writeChunk_emits _) (fun _ => ih) fun _ _ => rfl).congr fun _ => ?_
    simp [restChunks, hr]

theorem buildSignedDataRest_emits :
    Emits buildSignedDataRest fun s => restChunks 0 s.certList s.digestAlgos ++ [eoc, eoc] :=
  .get_bind fun _ => (Emits.bind (.failIf _ _) (fun _ => .bind (.failIf _ _) (fun _ =>
    .bind (restLoop_emits _ _ _) (fun _ => .bind (berWriteTl_emits _ _ _ _)
      (fun _ => berWriteTl_emits _ _ _ _) fun _ _ => rfl) fun _ _ => rfl) fun _ _ => rfl)
    fun _ _ => rfl).congr fun _ => rfl

/-- DATAREADY writes one end-of-contents, the one after the data. -/
theorem buildSignedDataAttributes_appends {s t : Cms} {u : Unit}
    (h : buildSignedDataAttributes s = .ok u t) : Appended s.writer t.writer [eoc] := by
  unfold buildSignedDataAttributes at h
  obtain ⟨_, t₁, h₁, h⟩ := bind_eq_ok h
  obtain ⟨-, ha⟩ := berWriteTl_emits _ _ _ _ s _ t₁ h₁
  have hw : t.writer = t₁.writer :=
    (Preserves.bind .get fun _ => .bind (.failIf _ _) fun _ => .bind (.failIf _ _) fun _ =>
      preserves_attributesLoop (fun _ _ => by rfl) (fun _ _ _ => by rfl) _ _ _).of_ok h
  simpa using ha.trans (.nil hw)

/-! ## The build handler -/

/-- What a successful step of `ct_build_signed_data` appends, by the stop reason it starts
from: the header at START (with the detached flag it has just computed), one
end-of-contents at DATAREADY, the SignerInfos and two end-of-contents at GOTSIG. -/
def buildStepChunks (s : Cms) : List Chunk :=
  match s.stopReason with
  | .gotContent => headerChunks { s with detachedSignature := detachedOf s.certList }
  | .beginData | .endData => [eoc]
  | .needSig => restChunks 0 s.certList s.digestAlgos ++ [eoc, eoc]
  | _ => []

theorem ctBuildSignedData_appends {s t : Cms} {u : Unit} (h : ctBuildSignedData s = .ok u t) :
    Appended s.writer t.writer (buildStepChunks s) := by
  obtain ⟨st, t', hst, ha, rfl⟩ := signedDataHandler_ok h
  cases hsr : s.stopReason <;> simp only [hsr, buildStateOf, reduceCtorEq, Except.ok.injEq] at hst <;>
    subst hst <;> simp only [buildStepChunks, hsr]
  all_goals first
    | (simp only [buildAction, modify_bind] at ha; exact (buildSignedDataHeader_emits _ _ _ ha).2)
    | exact (buildSignedDataAttributes_appends ha :)
    | exact (buildSignedDataRest_emits _ _ _ ha).2
    | simp [buildAction] at ha

/-! ## Open encodings

START opens its encodings with the indefinite length, and end-of-contents octets close
them. `nesting` counts how many a stream of chunks leaves open. -/

/-- `_ksba_ber_write_tl` writes a constructed header with the indefinite length `0x80`: a
tag below 31, length 0, and not one of the universal tags 0 and 5, written as `tag 00`. -/
def Chunk.opensIndefinite : Chunk → Bool
  | .tl tag cls constructed len =>
    constructed && decide (tag < 0x1f) && len == 0 &&
      !(cls == .universal && (tag == 0 || tag == 5))
  | _ => false

/-- `_ksba_ber_write_tl (w, 0, 0, 0, 0)`: the end-of-contents octets `00 00`. -/
def Chunk.isEoc : Chunk → Bool
  | .tl 0 .universal false _ => true
  | _ => false

/-- The end-of-contents header is written as the two bytes `00 00`. -/
theorem berWriteTlBytes_eoc : berWriteTlBytes 0 .universal false 0 = .ok [0, 0] := rfl

/-- What one chunk does to the number of open encodings. -/
def Chunk.nestingStep (c : Chunk) : Int :=
  (if c.opensIndefinite then 1 else 0) - (if c.isEoc then 1 else 0)

/-- How many encodings a stream of chunks leaves open. -/
def nesting : List Chunk → Int
  | [] => 0
  | c :: l => c.nestingStep + nesting l

@[simp] theorem nesting_nil : nesting [] = 0 := rfl

@[simp] theorem nesting_cons (c : Chunk) (l : List Chunk) :
    nesting (c :: l) = c.nestingStep + nesting l := rfl

@[simp] theorem nesting_append (a b : List Chunk) : nesting (a ++ b) = nesting a + nesting b := by
  induction a <;> simp [*, Int.add_assoc]

@[simp] theorem nestingStep_data (b : Bytes) : (Chunk.data b).nestingStep = 0 := rfl

@[simp] theorem nestingStep_algorithmIdentifier (oid : String) :
    (Chunk.algorithmIdentifier oid).nestingStep = 0 := rfl

/-- A primitive header other than an end-of-contents opens and closes nothing. -/
@[simp] theorem nestingStep_primitive {tag : Nat} (cls : TagClass) (len : Nat) (h : tag ≠ 0) :
    (Chunk.tl tag cls false len).nestingStep = 0 := by
  cases tag with
  | zero => exact absurd rfl h
  | succ n => rfl

@[simp] theorem nestingStep_eoc : eoc.nestingStep = -1 := rfl

@[simp] theorem nesting_algorithmIdentifiers (l : List String) :
    nesting (l.map .algorithmIdentifier) = 0 := by
  induction l <;> simp [*]

@[simp] theorem nesting_oidChunks (oid : Option String) : nesting (oidChunks oid) = 0 := by
  unfold oidChunks
  split <;> simp

@[simp] theorem nesting_restChunks (k : Nat) (cls : List CertList) (oids : List String) :
    nesting (restChunks k cls oids) = 0 := by
  induction k, cls, oids using restChunks.induct with
  | case1 => rfl
  | case2 => rfl
  | case3 k cl cls oid oids root hr ih => simp [restChunks, hr, ih]
  | case4 k cl cls oid oids e he => simp [restChunks, he]

/-- START leaves four encodings open, five for attached data. -/
theorem nesting_headerChunks (s : Cms) :
    nesting (headerChunks s) = if s.detachedSignature then 4 else 5 := by
  unfold headerChunks
  split_ifs <;> simp <;> decide

/-- What each step of the build handler does to the nesting. -/
theorem nesting_buildStepChunks (s : Cms) :
    nesting (buildStepChunks s) = match s.stopReason with
      | .gotContent => if detachedOf s.certList then 4 else 5
      | .beginData | .endData => -1
      | .needSig => -2
      | _ => 0 := by
  cases h : s.stopReason <;> simp [buildStepChunks, h, nesting_headerChunks]

end Ksba
