import KsbaCms.Proof.Dispatch

/-! # The digest-algorithm cache

`ksba_cms_get_digest_algo` caches the string it finds and never invalidates it. Two engine
steps replace `cms->signer_info`: the second part of the parser (state GOT_HASH) and the
DATAREADY step of the builder. Each stores READY or NEED_SIG when it returns and leaves
`running` when it fails, and from those three stop reasons neither step can run again.
So once there is a signer info that could be cached, it stays.

* `SignerInfoSettled`: the stop reasons after which the signer info is never replaced.
* `CacheInv`: a signer info only beside a settled stop reason, and the cache, if set, is
  the lookup in the current signer info.
* `digest_algo_cache_consistent`: the invariant in every reachable container, and
  `ksba_cms_get_digest_algo (cms, 0)` returning the uncached lookup, also when repeated.
-/

namespace Ksba
set_option autoImplicit false

/-- NEED_SIG, READY or RUNNING: no handler replaces the signer info from there. -/
def SignerInfoSettled (sr : StopReason) : Prop :=
  sr = .needSig ∨ sr = .ready ∨ sr = .running

/-- The signer info as `cms.c` keeps it. -/
def signerInfoOf (s : Cms) : Option AsnNode × Option Bytes := (s.signerInfoRoot, s.signerInfoImage)

/-- What `ksba_cms_get_digest_algo (cms, 0)` finds without its cache. -/
def uncachedDigestAlgo (s : Cms) : Option String :=
  s.signerInfoRoot.bind fun root => digestAlgoLookup root (s.signerInfoImage.getD [])

/-- The invariant of the cache. -/
structure CacheInv (s : Cms) : Prop where
  settled : s.signerInfoRoot.isSome → SignerInfoSettled s.stopReason
  cached : ∀ a, s.cacheDigestAlgo = some a → uncachedDigestAlgo s = some a

/-! ## The handlers and the signer info -/

theorem runHandler_cache (h : Handler) : Preserves Cms.cacheDigestAlgo (runHandler h) := by
  refine preserves_runHandler ?_ ?_ ?_ ?_ ?_ ?_ h <;> intros <;> rfl

/-- A handler that replaced the signer info left a settled stop reason. -/
theorem runHandler_signerInfo (h : Handler) (s : Cms) :
    signerInfoOf (stateAfter (runHandler h s)) = signerInfoOf s ∨
      SignerInfoSettled (stateAfter (runHandler h s)).stopReason := by
  cases hr : runHandler h s with
  | error e s' =>
    rw [stateAfter_error]
    have := runHandler_error hr
    split at this
    · exact .inr (.inr (.inr this))
    · cases h <;> simp_all [runHandler, Handler.isSignedData]
  | ok u s' =>
    rw [stateAfter_ok]
    cases h <;> simp only [runHandler, fail_apply, reduceCtorEq] at hr
    · obtain ⟨st, t, -, hact, rfl⟩ := signedDataHandler_ok hr
      cases st
      · have h1 : signerInfoOf t = signerInfoOf _ :=
          (preserves_parseSignedDataPart1 fun _ _ _ _ _ => by rfl).of_ok hact
        exact .inl h1
      · exact .inr (.inr (.inl rfl))
      · simp only [parseAction, pure_apply, EStateM.Result.ok.injEq] at hact
        exact .inl (hact.2 ▸ rfl)
      · simp [parseAction] at hact
    · obtain ⟨st, t, -, hact, rfl⟩ := signedDataHandler_ok hr
      cases st
      · have h1 : signerInfoOf t = signerInfoOf _ :=
          (buildAction_start_preserves (fun _ _ => by rfl) (fun _ _ => by rfl)).of_ok hact
        exact .inl h1
      · exact .inr (.inl rfl)
      · have h1 : signerInfoOf t = signerInfoOf _ :=
          (preserves_buildSignedDataRest fun _ _ => by rfl).of_ok hact
        exact .inl h1
      · simp [buildAction] at hact

theorem ParseEdge.not_settled {a b : StopReason} (h : ParseEdge a b) : ¬SignerInfoSettled a := by
  cases h <;> simp [SignerInfoSettled]

theorem BuildEdge.settled {a b : StopReason} (h : BuildEdge a b) (ha : SignerInfoSettled a) :
    SignerInfoSettled b := by
  cases h <;> simp_all [SignerInfoSettled]

theorem settled_ne_none {sr : StopReason} (h : SignerInfoSettled sr) : sr ≠ .none := by
  rcases h with rfl | rfl | rfl <;> decide

/-- From a settled stop reason a handler keeps whatever neither the stop reason nor the
writer holds: the only work it can do there is GOTSIG, which only writes. -/
theorem runHandler_preservesAt_settled {β : Type} {f : Cms → β}
    (hsr : ∀ s r, f { s with stopReason := r } = f s) (hw : ∀ s w, f { s with writer := w } = f s)
    (h : Handler) {s : Cms} (hs : SignerInfoSettled s.stopReason) :
    f (stateAfter (runHandler h s)) = f s := by
  cases h
  case ctParseSignedData =>
    unfold runHandler ctParseSignedData
    refine signedDataHandler_preservesAt hsr fun st hst => ?_
    rcases hs with h | h | h <;> simp [h, parseStateOf] at hst
  case ctBuildSignedData =>
    unfold runHandler ctBuildSignedData
    refine signedDataHandler_preservesAt hsr fun st hst => ?_
    rcases hs with h | h | h <;> simp only [h, buildStateOf, reduceCtorEq, Except.ok.injEq] at hst
    subst hst
    exact preserves_buildSignedDataRest hw
  all_goals rfl

/-- From a settled stop reason a handler keeps the signer info and a settled stop reason. -/
theorem runHandler_of_settled (h : Handler) {s : Cms} (hs : SignerInfoSettled s.stopReason) :
    signerInfoOf (stateAfter (runHandler h s)) = signerInfoOf s ∧
      SignerInfoSettled (stateAfter (runHandler h s)).stopReason := by
  constructor
  · exact @runHandler_preservesAt_settled _ signerInfoOf (fun _ _ => rfl) (fun _ _ => rfl) h _ hs
  · cases hr : runHandler h s with
    | error e s' =>
      have := runHandler_error hr
      split at this
      · exact .inr (.inr this)
      · rw [stateAfter_error, this]; exact hs
    | ok u s' =>
      rcases runHandler_ok hr with ⟨-, he⟩ | ⟨-, he⟩
      · exact absurd hs he.not_settled
      · exact he.settled hs

/-- From a settled stop reason every call keeps the signer info and a settled stop
reason. -/
theorem signerInfo_next_settled {dim : Nat} {c : Call} {s s' : Cms}
    (hs : SignerInfoSettled s.stopReason) (h : c.next dim s = some s') :
    SignerInfoSettled s'.stopReason ∧ signerInfoOf s' = signerInfoOf s := by
  rw [← Call.stateAfter_of_next h]
  have frame : ∀ {α : Type} {x : CmsM α}, Preserves (fun t => (t.stopReason, signerInfoOf t)) x →
      SignerInfoSettled (stateAfter (x s)).stopReason ∧
        signerInfoOf (stateAfter (x s)) = signerInfoOf s := fun hx => by
    obtain ⟨h₁, h₂⟩ := Prod.mk.inj (hx s)
    exact ⟨h₁ ▸ hs, h₂⟩
  have engine : ∀ init : CmsM Unit, SignerInfoSettled (stateAfter (engineCall init s)).stopReason ∧
      signerInfoOf (stateAfter (engineCall init s)) = signerInfoOf s := fun init => by
    rw [stateAfter_engineCall, if_neg (settled_ne_none hs)]
    split
    · exact (runHandler_of_settled _ hs).symm
    · exact ⟨hs, rfl⟩
  cases c
  case parse | build => simp only [Call.run]; rw [stateAfter_bind_pure]; exact engine _
  case setContentType what type =>
    exact frame (preserves_ksbaCmsSetContentType (fun _ _ _ _ => by rfl) (fun _ _ => by rfl) what type)
  case getDigestAlgo idx =>
    simp only [Call.run]; rw [stateAfter_bind_pure]
    exact frame (preserves_ksbaCmsGetDigestAlgo (fun _ _ => by rfl) idx)
  all_goals exact frame (Call.preserves_of_isSetup dim (fun _ _ _ => by rfl) (fun _ _ => by rfl)
    (fun _ _ => by rfl) (fun _ _ _ => by rfl) _ trivial)

/-! ## `ksba_cms_get_digest_algo` -/

/-- `ksba_cms_get_digest_algo (cms, 0)` on a container whose cache, if set, is the lookup:
it returns the lookup and caches it when it found one. -/
theorem ksbaCmsGetDigestAlgo_zero {s : Cms}
    (hc : ∀ a, s.cacheDigestAlgo = some a → uncachedDigestAlgo s = some a) :
    ksbaCmsGetDigestAlgo 0 s = .ok (uncachedDigestAlgo s)
      (if s.cacheDigestAlgo.isNone ∧ (uncachedDigestAlgo s).isSome
        then { s with cacheDigestAlgo := uncachedDigestAlgo s } else s) := by
  simp only [uncachedDigestAlgo] at hc ⊢
  simp only [ksbaCmsGetDigestAlgo, get_bind]
  cases hr : s.signerInfoRoot with
  | none => simp
  | some root =>
    cases ha : s.cacheDigestAlgo with
    | some a => simpa [hr, ha] using (hc a ha).symm
    | none =>
      cases hl : digestAlgoLookup root (s.signerInfoImage.getD []) <;> simp [hr, ha, hl]

theorem ksbaCmsGetDigestAlgo_nonzero {idx : Int} (hidx : idx ≠ 0) (s : Cms) :
    ksbaCmsGetDigestAlgo idx s = .ok none s := by
  simp only [ksbaCmsGetDigestAlgo, get_bind]
  cases s.signerInfoRoot <;> simp [hidx]

/-! ## Every call -/

theorem uncachedDigestAlgo_congr {s s' : Cms} (h : signerInfoOf s' = signerInfoOf s) :
    uncachedDigestAlgo s' = uncachedDigestAlgo s := by
  simp only [signerInfoOf, Prod.mk.injEq] at h
  simp only [uncachedDigestAlgo, h.1, h.2]

/-- The fields `CacheInv` reads. -/
def cacheView (s : Cms) : StopReason × (Option AsnNode × Option Bytes) × Option String :=
  (s.stopReason, signerInfoOf s, s.cacheDigestAlgo)

theorem CacheInv.of_cacheView {s s' : Cms} (hs : CacheInv s) (h : cacheView s' = cacheView s) :
    CacheInv s' := by
  simp only [cacheView, Prod.mk.injEq] at h
  obtain ⟨hsr, hi, hc⟩ := h
  have hr : s'.signerInfoRoot = s.signerInfoRoot := congrArg Prod.fst hi
  refine ⟨fun h => hsr ▸ hs.settled (hr ▸ h), fun a ha => ?_⟩
  rw [uncachedDigestAlgo_congr hi]
  exact hs.cached a (hc ▸ ha)

theorem CacheInv.after {α : Type} {x : CmsM α} (hx : Preserves cacheView x) {s : Cms}
    (hs : CacheInv s) : CacheInv (stateAfter (x s)) :=
  hs.of_cacheView (hx s)

/-- Away from the settled stop reasons there is neither a signer info nor a cache. -/
theorem CacheInv.empty {s : Cms} (hs : CacheInv s) (hn : ¬SignerInfoSettled s.stopReason) :
    s.signerInfoRoot = none ∧ s.cacheDigestAlgo = none := by
  have hr : s.signerInfoRoot = none := by
    cases h : s.signerInfoRoot
    · rfl
    · exact absurd (hs.settled (by simp [h])) hn
  refine ⟨hr, ?_⟩
  cases h : s.cacheDigestAlgo with
  | none => rfl
  | some a => simpa [uncachedDigestAlgo, hr] using hs.cached a h

theorem cacheInv_runHandler {s : Cms} (hs : CacheInv s) (h : Handler) :
    CacheInv (stateAfter (runHandler h s)) := by
  have hc := runHandler_cache h s
  by_cases hset : SignerInfoSettled s.stopReason
  · obtain ⟨hi, hsr⟩ := runHandler_of_settled h hset
    refine ⟨fun _ => hsr, fun a ha => ?_⟩
    rw [uncachedDigestAlgo_congr hi]
    exact hs.cached a (hc ▸ ha)
  · obtain ⟨hr, hc0⟩ := hs.empty hset
    refine ⟨fun hsome => ?_, fun a ha => ?_⟩
    · rcases runHandler_signerInfo h s with he | he
      · have hroot : (stateAfter (runHandler h s)).signerInfoRoot = none :=
          (congrArg Prod.fst he).trans hr
        simp [hroot] at hsome
      · exact he
    · rw [hc, hc0] at ha
      cases ha

theorem cacheInv_engineCall {init : CmsM Unit}
    (hinit : ∀ t, signerInfoOf (stateAfter (init t)) = signerInfoOf t ∧
      (stateAfter (init t)).cacheDigestAlgo = t.cacheDigestAlgo) {s : Cms} (hs : CacheInv s) :
    CacheInv (stateAfter (engineCall init s)) := by
  rw [stateAfter_engineCall]
  split
  · obtain ⟨hr, hc⟩ := hs.empty fun h => settled_ne_none h ‹_›
    obtain ⟨h1, h2⟩ := hinit s
    refine ⟨fun h => ?_, fun a ha => ?_⟩
    · have hroot : (stateAfter (init s)).signerInfoRoot = none := (congrArg Prod.fst h1).trans hr
      simp [hroot] at h
    · rw [h2, hc] at ha
      cases ha
  · split
    · exact cacheInv_runHandler hs _
    · exact hs

theorem parseInit_frame (t : Cms) : signerInfoOf (stateAfter (parseInit t)) = signerInfoOf t ∧
    (stateAfter (parseInit t)).cacheDigestAlgo = t.cacheDigestAlgo := by
  cases h : parseInit t with
  | ok u t' => obtain ⟨_, _, _, _, rfl⟩ := parseInit_ok h; exact ⟨rfl, rfl⟩
  | error e t' => obtain ⟨_, rfl⟩ := parseInit_error h; exact ⟨rfl, rfl⟩

theorem buildInit_frame (t : Cms) : signerInfoOf (stateAfter (buildInit t)) = signerInfoOf t ∧
    (stateAfter (buildInit t)).cacheDigestAlgo = t.cacheDigestAlgo := by
  cases h : buildInit t with
  | ok u t' => rw [stateAfter_ok, buildInit_ok h]; exact ⟨rfl, rfl⟩
  | error e t' => rw [stateAfter_error, buildInit_error h]; exact ⟨rfl, rfl⟩

theorem cacheInv_getDigestAlgo {s : Cms} (hs : CacheInv s) (idx : Int) :
    CacheInv (stateAfter (ksbaCmsGetDigestAlgo idx s)) := by
  by_cases hidx : idx = 0
  · subst hidx
    rw [ksbaCmsGetDigestAlgo_zero hs.cached, stateAfter_ok]
    split
    · refine ⟨hs.settled, fun a ha => ?_⟩
      rw [uncachedDigestAlgo_congr rfl]
      exact ha
    · exact hs
  · rw [ksbaCmsGetDigestAlgo_nonzero hidx, stateAfter_ok]
    exact hs

theorem cacheInv_step {dim : Nat} {c : Call} {s s' : Cms} (hs : CacheInv s)
    (h : c.next dim s = some s') : CacheInv s' := by
  rw [← Call.stateAfter_of_next h]
  cases c
  case parse =>
    simp only [Call.run]; rw [stateAfter_bind_pure]
    exact cacheInv_engineCall parseInit_frame hs
  case build =>
    simp only [Call.run]; rw [stateAfter_bind_pure]
    exact cacheInv_engineCall buildInit_frame hs
  case setContentType what type =>
    exact hs.after (preserves_ksbaCmsSetContentType (fun _ _ _ _ => by rfl) (fun _ _ => by rfl)
      what type)
  case getDigestAlgo idx =>
    simp only [Call.run]; rw [stateAfter_bind_pure]
    exact cacheInv_getDigestAlgo hs idx
  all_goals exact hs.after (Call.preserves_of_isSetup dim (fun _ _ _ => by rfl)
    (fun _ _ => by rfl) (fun _ _ => by rfl) (fun _ _ _ => by rfl) _ (by trivial))

/-- In every reachable container the cached digest algorithm, if any, is what the lookup in
the current signer info gives; so `ksba_cms_get_digest_algo (cms, 0)` returns the uncached
lookup, and a repeated call returns the same string from the cache without changing the
container. -/
theorem digest_algo_cache_consistent {dim : Nat} {s : Cms} (hs : Reachable dim s) :
    (∀ a, s.cacheDigestAlgo = some a → uncachedDigestAlgo s = some a) ∧
    ∃ s', ksbaCmsGetDigestAlgo 0 s = .ok (uncachedDigestAlgo s) s' ∧
      ((uncachedDigestAlgo s).isSome → s'.cacheDigestAlgo = uncachedDigestAlgo s) ∧
      ksbaCmsGetDigestAlgo 0 s' = .ok (uncachedDigestAlgo s) s' := by
  have hinv : CacheInv s := by
    induction hs with
    | init => exact ⟨fun h => by simp [ksbaCmsNew] at h, fun a h => by simp [ksbaCmsNew] at h⟩
    | step c _ h ih => exact cacheInv_step ih h
  refine ⟨hinv.cached, _, ksbaCmsGetDigestAlgo_zero hinv.cached, fun hsome => ?_, ?_⟩
  · split
    · rfl
    · rename_i hn
      cases hc : s.cacheDigestAlgo with
      | none => simp_all
      | some a => rw [hinv.cached a hc]
  · have hs' := cacheInv_getDigestAlgo hinv 0
    rw [ksbaCmsGetDigestAlgo_zero hinv.cached, stateAfter_ok] at hs'
    rw [ksbaCmsGetDigestAlgo_zero hs'.cached]
    split_ifs <;> simp_all [uncachedDigestAlgo]

/-- A SignerInfos tree as the parser lays it out, holding only the SHA-1 digest algorithm. -/
def sha1SignerInfos : AsnNode × Bytes :=
  (.node { name := "SignerInfos", type := .setOf, off := 0, nhdr := 2, len := 11 }
    (.node { name := "", type := .sequence, off := 2, nhdr := 2, len := 9 }
      (.node { name := "digestAlgorithm", type := .sequence, off := 4, nhdr := 2, len := 7 }
        (.node { name := "algorithm", type := .objectId, off := 6, nhdr := 2, len := 5 } .nil .nil)
        .nil) .nil) .nil,
    [0x31, 0x0B, 0x30, 0x09, 0x30, 0x07, 0x06, 0x05, 0x2B, 0x0E, 0x03, 0x02, 0x1A])

/-- A whole parse of a signed message with attached data, then a lookup of the digest
algorithm. -/
def parseThenDigestAlgo : List Call :=
  [.setReaderWriter (some ⟨.ok "1.2.840.113549.1.7.2",
      .ok ⟨["1.3.14.3.2.26"], "1.2.840.113549.1.7.1", false, none⟩, .ok sha1SignerInfos⟩) none,
    .setHashFunction (some 0) 0, .parse, .parse, .parse, .parse, .getDigestAlgo 0]

theorem digest_algo_cached_after_parse :
    ∃ s, Reachable 32 s ∧ s.cacheDigestAlgo = some "1.3.14.3.2.26" ∧
      ((∀ a, s.cacheDigestAlgo = some a → uncachedDigestAlgo s = some a) ∧
      ∃ s', ksbaCmsGetDigestAlgo 0 s = .ok (uncachedDigestAlgo s) s' ∧
        ((uncachedDigestAlgo s).isSome → s'.cacheDigestAlgo = uncachedDigestAlgo s) ∧
        ksbaCmsGetDigestAlgo 0 s' = .ok (uncachedDigestAlgo s) s') :=
  ⟨_, Reachable.of_run parseThenDigestAlgo rfl, rfl,
    digest_algo_cache_consistent (@Reachable.of_run 32 _ parseThenDigestAlgo rfl)⟩

end Ksba
