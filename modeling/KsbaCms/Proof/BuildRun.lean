import KsbaCms.Proof.Writes
import KsbaCms.Proof.Faults

/-! # A whole build

What START, DATAREADY and GOTSIG write over one build, with any calls in between.

`build_signed_data_header` writes the digestAlgorithms SET from `cms->digest_algos` as the
list stands at START, and `build_signed_data_rest` gives the `k`-th signer the `k`-th entry
of the list as it stands at GOTSIG. Nothing freezes the list in between:
`ksba_cms_add_digest_algo` still puts OIDs in front of it. And START opens four or five
encodings with the indefinite length, while the later steps write three end-of-contents.

* `BuildPhase`: the container was initialised and holds no parse handler; every call keeps
  it, and only `ksba_cms_add_digest_algo` changes the list (`buildPhase_step`);
* `digestAlgos_run`: over any calls the list gains, in front, the OIDs that
  `ksba_cms_add_digest_algo` was given, the last one first;
* `signer_digest_algos_follow_added`: what START and GOTSIG write, and how the list GOTSIG
  reads follows from the one START wrote;
* `build_run_leaves_encodings_open`: the encodings the three steps leave open.
-/

namespace Ksba
set_option autoImplicit false

/-- The OID a call adds to the digest algorithms. -/
def Call.addedDigestAlgo : Call → Option String
  | .addDigestAlgo oid => oid
  | _ => none

/-- The OIDs the calls add to the digest algorithms, the last one first. -/
def addedDigestAlgos (cs : List Call) : List String :=
  (cs.filterMap Call.addedDigestAlgo).reverse

/-- A build is under way: the container was initialised and no parse handler is
installed. -/
def BuildPhase (s : Cms) : Prop :=
  s.stopReason ≠ .none ∧ s.contentHandler ≠ some .ctParseSignedData

/-- The fields `BuildPhase` reads, with the digest algorithms. -/
def phaseView (s : Cms) : StopReason × Option Handler × List String :=
  (s.stopReason, s.contentHandler, s.digestAlgos)

theorem BuildPhase.after {α : Type} {x : CmsM α} (hx : Preserves phaseView x) {s : Cms}
    (hs : BuildPhase s) :
    BuildPhase (stateAfter (x s)) ∧ (stateAfter (x s)).digestAlgos = s.digestAlgos := by
  have h := hx s
  simp only [phaseView, Prod.mk.injEq] at h
  exact ⟨⟨h.1 ▸ hs.1, h.2.1 ▸ hs.2⟩, h.2.2⟩

/-! ## One call -/

/-- No row of `content_handlers` builds with the parse handler. -/
theorem buildHandler_ne_parse : ∀ row ∈ contentHandlers,
    row.buildHandler ≠ some .ctParseSignedData := by
  decide

theorem BuildEdge.ne_none {a b : StopReason} (h : BuildEdge a b) : b ≠ .none := by
  cases h <;> decide

/-- Once a build is under way, the installed handler keeps the handler and the digest
algorithms, and never stores NONE. -/
theorem buildPhase_runHandler {h : Handler} {s : Cms} (hs : BuildPhase s)
    (hh : s.contentHandler = some h) :
    BuildPhase (stateAfter (runHandler h s)) ∧
      (stateAfter (runHandler h s)).digestAlgos = s.digestAlgos := by
  have hp : h ≠ .ctParseSignedData := fun he => hs.2 (he ▸ hh)
  have hf : Preserves (fun s => (s.contentHandler, s.digestAlgos)) (runHandler h) := by
    cases h
    case ctParseSignedData => exact absurd rfl hp
    case ctBuildSignedData =>
      unfold runHandler ctBuildSignedData
      exact preserves_signedDataHandler (fun _ _ => by rfl) (buildAction_preserves
        (fun _ _ => by rfl) (fun _ _ => by rfl) (fun _ _ => by rfl) (fun _ _ _ => by rfl))
    all_goals exact .fail _
  have hsr : (stateAfter (runHandler h s)).stopReason ≠ .none := by
    cases hr : runHandler h s with
    | ok u t =>
      rcases runHandler_ok hr with ⟨rfl, -⟩ | ⟨-, he⟩
      · exact absurd rfl hp
      · exact he.ne_none
    | error e t =>
      rw [stateAfter_error, runHandler_error hr]
      split <;> simp [hs.1]
  have h' := hf s
  simp only [Prod.mk.injEq] at h'
  exact ⟨⟨hsr, h'.1 ▸ hs.2⟩, h'.2⟩

theorem buildPhase_engineCall {init : CmsM Unit} {s : Cms} (hs : BuildPhase s) :
    BuildPhase (stateAfter (engineCall init s)) ∧
      (stateAfter (engineCall init s)).digestAlgos = s.digestAlgos := by
  rw [stateAfter_engineCall, if_neg hs.1]
  cases hh : s.contentHandler with
  | none => exact ⟨hs, rfl⟩
  | some h => exact buildPhase_runHandler hs hh

theorem buildPhase_setContentType {s : Cms} (hs : BuildPhase s) (what : Int)
    (type : ContentType) :
    BuildPhase (stateAfter (ksbaCmsSetContentType what type s)) ∧
      (stateAfter (ksbaCmsSetContentType what type s)).digestAlgos = s.digestAlgos := by
  simp only [ksbaCmsSetContentType, failIf_bind]
  split
  · exact ⟨hs, rfl⟩
  cases hf : contentHandlers.find? (·.ct == type) with
  | none => exact ⟨hs, rfl⟩
  | some row =>
    cases hb : row.buildHandler with
    | none =>
      simp only [someOr_some_bind, hb, someOr_none_bind, stateAfter_error]
      exact ⟨hs, trivial⟩
    | some h =>
      simp only [someOr_some_bind, hb]
      split
      · refine ⟨⟨hs.1, ?_⟩, rfl⟩
        exact hb ▸ buildHandler_ne_parse row (List.mem_of_find?_eq_some hf)
      · exact ⟨hs, rfl⟩

/-- Every call keeps a build under way, and changes the digest algorithms only by the OID
`ksba_cms_add_digest_algo` puts in front. -/
theorem buildPhase_step {dim : Nat} {c : Call} {s t : Cms} (hs : BuildPhase s)
    (h : c.next dim s = some t) :
    BuildPhase t ∧ t.digestAlgos = c.addedDigestAlgo.toList ++ s.digestAlgos := by
  rw [← Call.stateAfter_of_next h]
  cases c
  case addDigestAlgo oid =>
    cases oid <;> simp [Call.run, ksbaCmsAddDigestAlgo, Call.addedDigestAlgo, BuildPhase, hs.1, hs.2]
  case parse =>
    simp only [Call.run]; rw [stateAfter_bind_pure]
    exact buildPhase_engineCall hs
  case build =>
    simp only [Call.run]; rw [stateAfter_bind_pure]
    exact buildPhase_engineCall hs
  case setContentType what type => exact buildPhase_setContentType hs what type
  case getDigestAlgo idx =>
    simp only [Call.run]; rw [stateAfter_bind_pure]
    exact hs.after (preserves_ksbaCmsGetDigestAlgo (fun _ _ => by rfl) idx)
  case setReaderWriter r w =>
    exact hs.after (preserves_ksbaCmsSetReaderWriter (fun _ _ _ => by rfl) r w)
  case addSigner cert => exact hs.after (preserves_ksbaCmsAddSigner (fun _ _ => by rfl) cert)
  case setMessageDigest idx d =>
    exact hs.after (preserves_ksbaCmsSetMessageDigest (fun _ _ => by rfl) dim idx d)
  case setHashFunction fnc arg =>
    exact hs.after (preserves_ksbaCmsSetHashFunction (fun _ _ _ => by rfl) fnc arg)
  case getCert idx =>
    simp only [Call.run]; rw [stateAfter_bind_pure]
    exact hs.after (preserves_ksbaCmsGetCert (fun _ _ => by rfl) idx)
  case writeData b => exact hs.after (preserves_writeChunk (fun _ _ => by rfl) _)

/-- Over any calls from a build under way, the digest algorithms gain in front the OIDs
`ksba_cms_add_digest_algo` was given, the last one first, and lose none. -/
theorem digestAlgos_run {dim : Nat} {cs : List Call} {s t : Cms} (hs : BuildPhase s)
    (h : runCalls dim s cs = some t) :
    BuildPhase t ∧ t.digestAlgos = addedDigestAlgos cs ++ s.digestAlgos := by
  induction cs generalizing s with
  | nil => cases h; exact ⟨hs, rfl⟩
  | cons c cs ih =>
    simp only [runCalls_cons] at h
    cases hc : c.next dim s with
    | none => simp [hc] at h
    | some s' =>
      simp only [hc, Option.bind_some] at h
      obtain ⟨hs', hd⟩ := buildPhase_step hs hc
      obtain ⟨ht, hd'⟩ := ih hs' h
      refine ⟨ht, ?_⟩
      rw [hd', hd]
      cases hoid : c.addedDigestAlgo <;>
        simp [addedDigestAlgos, List.filterMap_cons, hoid]

/-! ## START and GOTSIG -/

theorem Call.next_build {dim : Nat} {s t : Cms} {r : StopReason} (h : ksbaCmsBuild s = .ok r t) :
    Call.build.next dim s = some t := by
  simp only [Call.next, Call.run]
  rw [bind_ok _ h]
  rfl

/-- A successful call of `ksba_cms_build` that runs the build handler. -/
theorem ksbaCmsBuild_ok_runs {s t : Cms} {r : StopReason} (hs : BuildPhase s)
    (h : ksbaCmsBuild s = .ok r t) :
    s.contentHandler = some .ctBuildSignedData ∧ ctBuildSignedData s = .ok () t ∧
      r = t.stopReason := by
  obtain ⟨rfl, ⟨hn, -⟩ | ⟨-, hd, hh, hr⟩⟩ := engineCall_ok h
  · exact absurd hn hs.1
  rcases runHandler_ok hr with ⟨rfl, -⟩ | ⟨rfl, -⟩
  · exact absurd hh hs.2
  · exact ⟨hh, hr, rfl⟩

/-- Over a build that goes from START to READY, START writes the digestAlgorithms SET
from the list as it stands then, GOTSIG writes each signer's SignerInfo from the list as it
stands at GOTSIG, and the second list is the first with the OIDs that
`ksba_cms_add_digest_algo` was given in between put in front, the last one first. -/
theorem signer_digest_algos_follow_added {dim : Nat} {s₀ s₁ s₂ s₃ : Cms} {cs : List Call}
    {r : StopReason} (hh : s₀.contentHandler = some .ctBuildSignedData)
    (hsr : s₀.stopReason = .gotContent) (h₁ : ksbaCmsBuild s₀ = .ok r s₁)
    (h₂ : runCalls dim s₁ cs = some s₂) (h₃ : ksbaCmsBuild s₂ = .ok .ready s₃)
    (hsr₂ : s₂.stopReason = .needSig) :
    Appended s₀.writer s₁.writer
        (headerChunks { s₀ with detachedSignature := detachedOf s₀.certList }) ∧
      Appended s₂.writer s₃.writer (restChunks 0 s₂.certList s₂.digestAlgos ++ [eoc, eoc]) ∧
      s₂.digestAlgos = addedDigestAlgos cs ++
        algorithmIdentifierOids (headerChunks { s₀ with detachedSignature := detachedOf s₀.certList }) := by
  have hs₀ : BuildPhase s₀ := ⟨by simp [hsr], by simp [hh]⟩
  obtain ⟨hs₁, hd₁⟩ := buildPhase_step hs₀ (@Call.next_build dim _ _ _ h₁)
  obtain ⟨hs₂, hd₂⟩ := digestAlgos_run hs₁ h₂
  obtain ⟨-, hb₁, -⟩ := ksbaCmsBuild_ok_runs hs₀ h₁
  obtain ⟨-, hb₃, -⟩ := ksbaCmsBuild_ok_runs hs₂ h₃
  have ha₁ := ctBuildSignedData_appends hb₁
  have ha₃ := ctBuildSignedData_appends hb₃
  simp only [buildStepChunks, hsr, hsr₂] at ha₁ ha₃
  refine ⟨ha₁, ha₃, ?_⟩
  rw [algorithmIdentifierOids_headerChunks, hd₂, hd₁]
  rfl

/-! ## A sample build -/


/-- The entry points cross over. After `ksba_cms_set_content_type (cms, 0, signed data)` and
the build through START, `ksba_cms_parse` runs the build handler's DATAREADY step and
returns NEED_SIG, a stop reason the parse path never reaches. -/
theorem parse_returns_need_sig :
    ∃ s s', Reachable 32 s ∧ ksbaCmsParse s = .ok .needSig s' ∧
      s.contentHandler = some .ctBuildSignedData ∧ BuildEdge s.stopReason .needSig :=
  ⟨_, _, Reachable.of_run (buildToStart ++ [Call.build]) rfl, rfl, ksbaCmsParse_needSig rfl⟩

/-- The other way round: after a parse initialisation, `ksba_cms_build` runs the parse
handler and returns NEED_HASH, a stop reason the build path never reaches. -/
theorem build_returns_need_hash :
    ∃ s s', Reachable 32 s ∧ ksbaCmsBuild s = .ok .needHash s' :=
  ⟨_, _, Reachable.of_run [.setReaderWriter (some (signedReader true)) none, .parse] rfl, rfl⟩

/-- After START: SHA-256 is added, then DATAREADY. -/
def lateAlgo : List Call := [.addDigestAlgo (some "2.16.840.1.101.3.4.2.1"), .build]

/-- The sample build: START, SHA-256 added, DATAREADY, GOTSIG, each step from the
container the one before left. -/
theorem lateBuild_facts : ∃ s₀ s₁ u s₂ s₃ r r₂ w cl root,
    runCalls 32 ksbaCmsNew buildToStart = some s₀ ∧
    s₀.contentHandler = some .ctBuildSignedData ∧ s₀.stopReason = .gotContent ∧
    ksbaCmsBuild s₀ = .ok r s₁ ∧
    (Call.addDigestAlgo (some "2.16.840.1.101.3.4.2.1")).next 32 s₁ = some u ∧
    u.contentHandler = some .ctBuildSignedData ∧ u.stopReason = .endData ∧
    ksbaCmsBuild u = .ok r₂ s₂ ∧
    s₂.contentHandler = some .ctBuildSignedData ∧ s₂.stopReason = .needSig ∧
    ksbaCmsBuild s₂ = .ok .ready s₃ ∧ detachedOf s₀.certList = true ∧
    s₃.writer = some w ∧ nesting w.out = 1 ∧
    algorithmIdentifierOids w.out = ["1.3.14.3.2.26"] ∧
    s₂.certList = [cl] ∧ signerInfoTree cl "2.16.840.1.101.3.4.2.1" = .ok root ∧
    w.out.contains (.data (patchedImage 0 (derEncodeTree root).2)) = true ∧
    ∃ i d r, findNodeAt root "SignerInfos..digestAlgorithm.algorithm" = some (.node i d r) ∧
      i.value = oidFromStr "2.16.840.1.101.3.4.2.1" :=
  ⟨_, _, _, _, _, _, _, _, _, _, rfl, rfl, rfl, rfl, rfl, rfl, rfl, rfl, rfl, rfl, rfl, rfl,
    rfl, rfl, rfl, rfl, rfl, rfl, _, _, _, rfl, rfl⟩

theorem runCalls_lateAlgo {s₁ u s₂ : Cms} {r₂ : StopReason}
    (hu : (Call.addDigestAlgo (some "2.16.840.1.101.3.4.2.1")).next 32 s₁ = some u)
    (h₂ : ksbaCmsBuild u = .ok r₂ s₂) : runCalls 32 s₁ lateAlgo = some s₂ := by
  simp [lateAlgo, hu, Call.next_build h₂]

theorem late_digest_algo_run_follows_added :
    ∃ s₀ s₁ s₂ s₃ r, runCalls 32 ksbaCmsNew buildToStart = some s₀ ∧
      s₀.contentHandler = some .ctBuildSignedData ∧ s₀.stopReason = .gotContent ∧
      ksbaCmsBuild s₀ = .ok r s₁ ∧ runCalls 32 s₁ lateAlgo = some s₂ ∧
      ksbaCmsBuild s₂ = .ok .ready s₃ ∧ s₂.stopReason = .needSig ∧
      (Appended s₀.writer s₁.writer
          (headerChunks { s₀ with detachedSignature := detachedOf s₀.certList }) ∧
        Appended s₂.writer s₃.writer (restChunks 0 s₂.certList s₂.digestAlgos ++ [eoc, eoc]) ∧
        s₂.digestAlgos = addedDigestAlgos lateAlgo ++
          algorithmIdentifierOids
            (headerChunks { s₀ with detachedSignature := detachedOf s₀.certList })) := by
  obtain ⟨s₀, s₁, u, s₂, s₃, r, r₂, -, -, -, h₀, hh, hsr, h₁, hu, -, -, h₂, -, hsr₂, h₃, -⟩ :=
    lateBuild_facts
  have hrun := runCalls_lateAlgo hu h₂
  exact ⟨s₀, s₁, s₂, s₃, r, h₀, hh, hsr, h₁, hrun, h₃, hsr₂,
    signer_digest_algos_follow_added hh hsr h₁ hrun h₃ hsr₂⟩

/-- A build in which `ksba_cms_add_digest_algo` runs between START and GOTSIG: the only
AlgorithmIdentifiers written are the SHA-1 of the digestAlgorithms SET, while the one
SignerInfo written is built with SHA-256 as its digestAlgorithm. -/
theorem late_digest_algo_outside_header_set :
    ∃ s₀ s₁ s₂ s₃ r, runCalls 32 ksbaCmsNew buildToStart = some s₀ ∧
      s₀.contentHandler = some .ctBuildSignedData ∧ s₀.stopReason = .gotContent ∧
      ksbaCmsBuild s₀ = .ok r s₁ ∧ runCalls 32 s₁ lateAlgo = some s₂ ∧
      ksbaCmsBuild s₂ = .ok .ready s₃ ∧ s₂.stopReason = .needSig ∧
      ∃ w cl root, s₃.writer = some w ∧ algorithmIdentifierOids w.out = ["1.3.14.3.2.26"] ∧
        s₂.certList = [cl] ∧ signerInfoTree cl "2.16.840.1.101.3.4.2.1" = .ok root ∧
        w.out.contains (.data (patchedImage 0 (derEncodeTree root).2)) = true ∧
        ∃ i d r, findNodeAt root "SignerInfos..digestAlgorithm.algorithm" = some (.node i d r) ∧
          i.value = oidFromStr "2.16.840.1.101.3.4.2.1" := by
  obtain ⟨s₀, s₁, u, s₂, s₃, r, r₂, w, cl, root, h₀, hh, hsr, h₁, hu, -, -, h₂, -, hsr₂, h₃, -, hw,
    -, ha, hc, ht, hm, hn⟩ := lateBuild_facts
  exact ⟨s₀, s₁, s₂, s₃, r, h₀, hh, hsr, h₁, runCalls_lateAlgo hu h₂, h₃, hsr₂, w, cl, root, hw,
    ha, hc, ht, hm, hn⟩

/-! ## The encodings left open -/

/-- In every build, START, DATAREADY and GOTSIG append what `buildStepChunks` says; the
SignerInfos are written with four encodings open for attached data (three for detached),
and the build ends with two (one) still open. -/
theorem build_run_leaves_encodings_open {s₁ t₁ s₂ t₂ s₃ t₃ : Cms} {r₁ r₂ r₃ : StopReason}
    (hh₁ : s₁.contentHandler = some .ctBuildSignedData) (hs₁ : s₁.stopReason = .gotContent)
    (h₁ : ksbaCmsBuild s₁ = .ok r₁ t₁)
    (hh₂ : s₂.contentHandler = some .ctBuildSignedData)
    (hs₂ : s₂.stopReason = .beginData ∨ s₂.stopReason = .endData)
    (h₂ : ksbaCmsBuild s₂ = .ok r₂ t₂)
    (hh₃ : s₃.contentHandler = some .ctBuildSignedData) (hs₃ : s₃.stopReason = .needSig)
    (h₃ : ksbaCmsBuild s₃ = .ok r₃ t₃) :
    Appended s₁.writer t₁.writer (buildStepChunks s₁) ∧
      Appended s₂.writer t₂.writer (buildStepChunks s₂) ∧
      Appended s₃.writer t₃.writer (buildStepChunks s₃) ∧
      nesting (buildStepChunks s₁ ++ buildStepChunks s₂) =
        (if detachedOf s₁.certList then 3 else 4) ∧
      nesting (buildStepChunks s₁ ++ buildStepChunks s₂ ++ buildStepChunks s₃) =
        (if detachedOf s₁.certList then 1 else 2) := by
  have phase : ∀ {s : Cms}, s.contentHandler = some .ctBuildSignedData →
      s.stopReason ≠ .none → BuildPhase s := fun hh hs => ⟨hs, by simp [hh]⟩
  obtain ⟨-, hb₁, -⟩ := ksbaCmsBuild_ok_runs (phase hh₁ (by simp [hs₁])) h₁
  obtain ⟨-, hb₂, -⟩ := ksbaCmsBuild_ok_runs (phase hh₂ (by rcases hs₂ with h | h <;> simp [h])) h₂
  obtain ⟨-, hb₃, -⟩ := ksbaCmsBuild_ok_runs (phase hh₃ (by simp [hs₃])) h₃
  refine ⟨ctBuildSignedData_appends hb₁, ctBuildSignedData_appends hb₂,
    ctBuildSignedData_appends hb₃, ?_, ?_⟩ <;>
  · simp only [nesting_append, nesting_buildStepChunks, hs₁, hs₃]
    rcases hs₂ with h | h <;> simp only [h] <;> split_ifs <;> rfl

theorem detached_build_nesting :
    ∃ s₁ t₁ s₂ t₂ s₃ t₃ r₁ r₂ r₃, s₁.contentHandler = some .ctBuildSignedData ∧
      s₁.stopReason = .gotContent ∧ ksbaCmsBuild s₁ = .ok r₁ t₁ ∧
      s₂.contentHandler = some .ctBuildSignedData ∧
      (s₂.stopReason = .beginData ∨ s₂.stopReason = .endData) ∧ ksbaCmsBuild s₂ = .ok r₂ t₂ ∧
      s₃.contentHandler = some .ctBuildSignedData ∧ s₃.stopReason = .needSig ∧
      ksbaCmsBuild s₃ = .ok r₃ t₃ ∧
      (Appended s₁.writer t₁.writer (buildStepChunks s₁) ∧
        Appended s₂.writer t₂.writer (buildStepChunks s₂) ∧
        Appended s₃.writer t₃.writer (buildStepChunks s₃) ∧
        nesting (buildStepChunks s₁ ++ buildStepChunks s₂) =
          (if detachedOf s₁.certList then 3 else 4) ∧
        nesting (buildStepChunks s₁ ++ buildStepChunks s₂ ++ buildStepChunks s₃) =
          (if detachedOf s₁.certList then 1 else 2)) := by
  obtain ⟨s₀, s₁, u, s₂, s₃, r, r₂, -, -, -, -, hh, hsr, h₁, -, hhu, hsu, h₂, hh₂, hsr₂, h₃, -⟩ :=
    lateBuild_facts
  exact ⟨s₀, s₁, u, s₂, s₂, s₃, r, r₂, .ready, hh, hsr, h₁, hhu, .inr hsu, h₂, hh₂, hsr₂, h₃,
    build_run_leaves_encodings_open hh hsr h₁ hhu (.inr hsu) h₂ hh₂ hsr₂ h₃⟩

/-- The sample detached build reaches READY with the ContentInfo still open: its writer
holds one more indefinite-length header than end-of-contents. -/
theorem detached_build_leaves_content_info_open :
    ∃ t w, runCalls 32 ksbaCmsNew (buildToStart ++ .build :: lateAlgo ++ [.build]) = some t ∧
      t.stopReason = .ready ∧ t.writer = some w ∧ nesting w.out = 1 := by
  obtain ⟨s₀, s₁, u, s₂, s₃, r, r₂, w, -, -, h₀, -, -, h₁, hu, -, -, h₂, -, -, h₃, -, hw, hn, -⟩ :=
    lateBuild_facts
  refine ⟨s₃, w, ?_, (engineCall_ok h₃).1.symm, hw, hn⟩
  simp [runCalls_append, h₀, Call.next_build h₁, runCalls_lateAlgo hu h₂, Call.next_build h₃]

end Ksba
