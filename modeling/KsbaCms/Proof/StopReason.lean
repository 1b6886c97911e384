import KsbaCms.Proof.Engine

/-! # The stop reason across calls

Both entry points run whatever handler the container holds once it is initialised, and
the signed-data handlers store `running` before they know whether their step will work.

* `engine_call_follows_installed_handler`: a successful call of either entry point
  initialises a fresh container or takes one step along the path of the installed
  handler, whichever of the two was called.
* `failed_engine_call_stop_reason`: a failed call keeps the stop reason, unless a
  signed-data handler ran, which leaves `running`; from `running` every call fails.
* `runCalls_at_running`: from `running`, any calls keep `running`, and every call of an
  entry point among them fails.
-/

namespace Ksba
set_option autoImplicit false

/-! ## Sample messages -/

/-- A signed-data message with SHA-1 over attached data. -/
def signedReader (detached : Bool) : Reader :=
  ⟨.ok "1.2.840.113549.1.7.2", .ok ⟨["1.3.14.3.2.26"], "1.2.840.113549.1.7.1", detached, none⟩,
    .ok (.nil, [])⟩

/-! ## Successful calls -/

theorem engineCall_ok_step {init : CmsM Unit}
    (hinit : ∀ {t t' : Cms} {u : Unit}, init t = .ok u t' → t'.stopReason = .gotContent)
    {s s' : Cms} {r : StopReason} (h : engineCall init s = .ok r s') :
    r = s'.stopReason ∧
      ((s.stopReason = .none ∧ r = .gotContent) ∨
        (s.contentHandler = some .ctParseSignedData ∧ ParseEdge s.stopReason r) ∨
        (s.contentHandler = some .ctBuildSignedData ∧ BuildEdge s.stopReason r)) := by
  obtain ⟨rfl, ⟨hn, hi⟩ | ⟨-, hd, hh, hr⟩⟩ := engineCall_ok h
  · exact ⟨rfl, .inl ⟨hn, hinit hi⟩⟩
  · rcases runHandler_ok hr with ⟨rfl, he⟩ | ⟨rfl, he⟩
    · exact ⟨rfl, .inr (.inl ⟨hh, he⟩)⟩
    · exact ⟨rfl, .inr (.inr ⟨hh, he⟩)⟩

section Steps

variable {s s' : Cms} {r : StopReason}

theorem ksbaCmsParse_ok_step (h : ksbaCmsParse s = .ok r s') :
    r = s'.stopReason ∧
      ((s.stopReason = .none ∧ r = .gotContent) ∨
        (s.contentHandler = some .ctParseSignedData ∧ ParseEdge s.stopReason r) ∨
        (s.contentHandler = some .ctBuildSignedData ∧ BuildEdge s.stopReason r)) := by
  refine engineCall_ok_step (fun hi => ?_) h
  obtain ⟨_, _, _, _, rfl⟩ := parseInit_ok hi
  rfl

theorem ksbaCmsBuild_ok_step (h : ksbaCmsBuild s = .ok r s') :
    r = s'.stopReason ∧
      ((s.stopReason = .none ∧ r = .gotContent) ∨
        (s.contentHandler = some .ctParseSignedData ∧ ParseEdge s.stopReason r) ∨
        (s.contentHandler = some .ctBuildSignedData ∧ BuildEdge s.stopReason r)) :=
  engineCall_ok_step (fun hi => by rw [buildInit_ok hi]) h

/-- A `ksba_cms_parse` that returns NEED_SIG ran the build handler: the parse path has no
such step. -/
theorem ksbaCmsParse_needSig (h : ksbaCmsParse s = .ok .needSig s') :
    s.contentHandler = some .ctBuildSignedData ∧ BuildEdge s.stopReason .needSig := by
  obtain ⟨-, ⟨-, h⟩ | ⟨-, he⟩ | hb⟩ := ksbaCmsParse_ok_step h
  · cases h
  · exact absurd rfl he.ne_needSig
  · exact hb

end Steps

/-- Each successful call of `ksba_cms_parse` or `ksba_cms_build` either initialises a fresh
container or moves the stop reason it returns (and stores) one step along the path of the
handler installed at that moment, whichever entry point was called. -/
theorem engine_call_follows_installed_handler {call : CmsM StopReason}
    (hcall : call = ksbaCmsParse ∨ call = ksbaCmsBuild) {s s' : Cms} {r : StopReason}
    (h : call s = .ok r s') :
    r = s'.stopReason ∧
      ((s.stopReason = .none ∧ r = .gotContent) ∨
        (s.contentHandler = some .ctParseSignedData ∧ ParseEdge s.stopReason r) ∨
        (s.contentHandler = some .ctBuildSignedData ∧ BuildEdge s.stopReason r)) := by
  rcases hcall with rfl | rfl
  · exact ksbaCmsParse_ok_step h
  · exact ksbaCmsBuild_ok_step h

/-- `ksba_cms_build` after a parse initialisation runs the parse handler, which stops at
NEED_HASH for a detached signature. -/
theorem build_after_parse_init_steps_parse_path :
    ∃ s s', Reachable 32 s ∧ ksbaCmsBuild s = .ok .needHash s' ∧
      (.needHash = s'.stopReason ∧
        ((s.stopReason = .none ∧ StopReason.needHash = .gotContent) ∨
          (s.contentHandler = some .ctParseSignedData ∧ ParseEdge s.stopReason .needHash) ∨
          (s.contentHandler = some .ctBuildSignedData ∧ BuildEdge s.stopReason .needHash))) :=
  ⟨_, _, Reachable.of_run [.setReaderWriter (some (signedReader true)) none, .parse] rfl, rfl,
    engine_call_follows_installed_handler (.inr rfl) rfl⟩

/-! ## Failed calls -/

theorem engineCall_error_stopReason {init : CmsM Unit}
    (hinit : ∀ {t t' : Cms} {e : Fault}, init t = .error e t' → t'.stopReason = t.stopReason)
    {s s' : Cms} {e : Fault} (h : engineCall init s = .error e s') :
    s'.stopReason = if s.stopReason ≠ .none ∧ s.contentHandler.any Handler.isSignedData
      then .running else s.stopReason := by
  rcases engineCall_error h with ⟨hn, hi⟩ | ⟨hn, ⟨hh, -, rfl⟩ | ⟨hd, hh, hr⟩⟩
  · simp [hn, hinit hi]
  · simp [hh]
  · rw [runHandler_error hr]
    simp [hn, hh]

/-- From `running` every call fails and stays there; a signed-data handler refuses with
`KSBA_Invalid_State`. -/
theorem engineCall_at_running {init : CmsM Unit} {s : Cms} (hs : s.stopReason = .running) :
    ∃ e s', engineCall init s = .error e s' ∧ s'.stopReason = .running ∧
      (s.contentHandler.any Handler.isSignedData → e = .err .invalidState) := by
  have hsr : s.stopReason ≠ .none := by simp [hs]
  cases hc : s.contentHandler with
  | none => exact ⟨_, _, engineCall_of_no_handler hsr hc, hs, by simp⟩
  | some hd =>
    cases hd
    case ctParseSignedData | ctBuildSignedData =>
      refine ⟨_, { s with stopReason := .running }, engineCall_of_runHandler_error hsr hc ?_, rfl,
        fun _ => rfl⟩
      simp only [runHandler, ctParseSignedData, ctBuildSignedData]
      exact signedDataHandler_stateOf_error (by rw [hs]; rfl)
    all_goals exact ⟨_, _, engineCall_of_runHandler_error hsr hc rfl, hs, by simp [Handler.isSignedData]⟩

/-- A failed call of `ksba_cms_parse` or `ksba_cms_build` keeps the stop reason, unless the
installed signed-data handler ran, which leaves `running`; from `running` every call of
either entry point fails and leaves `running`. -/
theorem failed_engine_call_stop_reason {call : CmsM StopReason}
    (hcall : call = ksbaCmsParse ∨ call = ksbaCmsBuild) :
    (∀ s s' e, call s = .error e s' →
      s'.stopReason = if s.stopReason ≠ .none ∧ s.contentHandler.any Handler.isSignedData
        then .running else s.stopReason) ∧
    (∀ s, s.stopReason = .running → ∃ e s', call s = .error e s' ∧ s'.stopReason = .running ∧
      (s.contentHandler.any Handler.isSignedData → e = .err .invalidState)) := by
  refine ⟨fun s s' e h => ?_, fun s hs => ?_⟩
  · rcases hcall with rfl | rfl
    · refine engineCall_error_stopReason (fun hi => ?_) h
      obtain ⟨_, rfl⟩ := parseInit_error hi
      rfl
    · exact engineCall_error_stopReason (fun hi => by rw [buildInit_error hi]) h
  · rcases hcall with rfl | rfl <;> exact engineCall_at_running hs

theorem failed_parse_stop_reason :
    (∀ s s' e, ksbaCmsParse s = .error e s' →
      s'.stopReason = if s.stopReason ≠ .none ∧ s.contentHandler.any Handler.isSignedData
        then .running else s.stopReason) ∧
    (∀ s, s.stopReason = .running → ∃ e s', ksbaCmsParse s = .error e s' ∧
      s'.stopReason = .running ∧
      (s.contentHandler.any Handler.isSignedData → e = .err .invalidState)) :=
  failed_engine_call_stop_reason (.inl rfl)

/-! ## Runs from `running` -/

/-- One call from `running`: it leaves `running`, and a call of an entry point fails. The
other calls keep the stop reason by their frames. -/
theorem Call.next_at_running {dim : Nat} {c : Call} {s s' : Cms} (hs : s.stopReason = .running)
    (h : c.next dim s = some s') :
    s'.stopReason = .running ∧ (c = .parse ∨ c = .build → ∃ e, c.run dim s = .error e s') := by
  have hst := Call.stateAfter_of_next h
  have setup : ∀ c : Call, c.IsSetup → Preserves Cms.stopReason (c.run dim) :=
    Call.preserves_of_isSetup dim (fun _ _ _ => rfl) (fun _ _ => rfl) (fun _ _ => rfl)
      (fun _ _ _ => rfl)
  have engine : ∀ init : CmsM Unit, stateAfter ((engineCall init >>= fun _ => pure ()) s) = s' →
      s'.stopReason = .running ∧ ∃ e, (engineCall init >>= fun _ => pure ()) s = .error e s' := by
    intro init hi
    obtain ⟨e, t, he, ht, -⟩ := @engineCall_at_running init s hs
    rw [bind_error _ he, stateAfter_error] at hi
    subst hi
    exact ⟨ht, e, bind_error _ he⟩
  cases c
  case parse => exact (engine parseInit hst).imp_right fun h _ => h
  case build => exact (engine buildInit hst).imp_right fun h _ => h
  all_goals refine ⟨?_, by rintro (h | h) <;> cases h⟩
  all_goals rw [← hst, ← hs]
  case setContentType what type =>
    exact preserves_ksbaCmsSetContentType (fun _ _ _ _ => by rfl) (fun _ _ => by rfl) what type s
  case getDigestAlgo idx =>
    simp only [Call.run]; rw [stateAfter_bind_pure]
    exact preserves_ksbaCmsGetDigestAlgo (fun _ _ => by rfl) idx s
  all_goals exact setup _ (by trivial) s

/-- From `running`, any calls that do not abort leave `running`, and every call of
`ksba_cms_parse` or `ksba_cms_build` among them fails. -/
theorem runCalls_at_running {dim : Nat} {cs : List Call} {s t : Cms}
    (hs : s.stopReason = .running) (h : runCalls dim s cs = some t) :
    t.stopReason = .running ∧ ∀ pre c post, cs = pre ++ c :: post → (c = .parse ∨ c = .build) →
      ∃ u e u', runCalls dim s pre = some u ∧ c.run dim u = .error e u' := by
  induction cs generalizing s with
  | nil =>
    cases h
    exact ⟨hs, fun pre c post hp => by simp at hp⟩
  | cons c cs ih =>
    obtain ⟨s', hc, hr⟩ := Option.bind_eq_some.mp h
    obtain ⟨hs', hfail⟩ := Call.next_at_running hs hc
    obtain ⟨ht, hcs⟩ := ih hs' hr
    refine ⟨ht, fun pre c' post hp hc' => ?_⟩
    cases pre with
    | nil =>
      obtain ⟨rfl, -⟩ := List.cons.inj hp
      obtain ⟨e, he⟩ := hfail hc'
      exact ⟨s, e, s', rfl, he⟩
    | cons p pre =>
      obtain ⟨rfl, hp'⟩ := List.cons.inj hp
      obtain ⟨u, e, u', hu, he⟩ := hcs pre c' post hp' hc'
      exact ⟨u, e, u', by simp [hc, hu], he⟩

/-- `ksba_cms_parse` at BEGIN_DATA without a hash function fails with
`KSBA_Missing_Action` and leaves `running`; once the hash function is set, the next call
fails with `KSBA_Invalid_State`. -/
theorem parse_without_hash_function_sticks :
    ∃ s s', Reachable 32 s ∧ s.stopReason = .beginData ∧
      ksbaCmsParse s = .error (.err .missingAction) s' ∧ s'.stopReason = .running ∧
      ∃ s'' t, (Call.setHashFunction (some 0) 0).next 32 s' = some s'' ∧
        ksbaCmsParse s'' = .error (.err .invalidState) t :=
  ⟨_, _, Reachable.of_run [.setReaderWriter (some (signedReader false)) none, .parse, .parse] rfl,
    rfl, rfl, rfl, _, _, rfl, rfl⟩

end Ksba
