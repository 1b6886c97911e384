import KsbaCms.Proof.Frame

/-! # The stop-reason protocol

What one call of `ksba_cms_parse` or `ksba_cms_build` does to the stop reason.

* `ParseEdge` and `BuildEdge` are the paths of the two signed-data handlers.
* `signedDataHandler_ok` and `signedDataHandler_error` invert the shared skeleton: a
  handler that returns stored the next stop reason of the state it worked in; one that
  fails left `running`.
* `ksbaCmsParse_ok`, `ksbaCmsBuild_ok` and their `_error` twins invert the entry points:
  the initialisation, or whatever handler is installed, whichever entry point was called.
-/

namespace Ksba
set_option autoImplicit false

/-! ## The two paths -/

/-- The steps of the parse path GOT_CONTENT → (NEED_HASH | BEGIN_DATA → END_DATA) → READY. -/
inductive ParseEdge : StopReason → StopReason → Prop
  | needHash : ParseEdge .gotContent .needHash
  | beginData : ParseEdge .gotContent .beginData
  | endData : ParseEdge .beginData .endData
  | hashReady : ParseEdge .needHash .ready
  | dataReady : ParseEdge .endData .ready

/-- The steps of the build path GOT_CONTENT → (BEGIN_DATA | END_DATA) → NEED_SIG → READY. -/
inductive BuildEdge : StopReason → StopReason → Prop
  | beginData : BuildEdge .gotContent .beginData
  | endData : BuildEdge .gotContent .endData
  | dataSig : BuildEdge .beginData .needSig
  | detachedSig : BuildEdge .endData .needSig
  | ready : BuildEdge .needSig .ready

theorem ParseEdge.ne_needSig {a b : StopReason} (h : ParseEdge a b) : b ≠ .needSig := by
  cases h <;> decide

/-! ## The handler skeleton -/

section Skeleton

variable {S : Type} {stateOf : StopReason → Cms → Except KsbaError S}
  {action : S → CmsM Unit} {next : S → StopReason → Cms → StopReason} {s s' : Cms}

/-- A handler that returns found a state, did its work from the container marked
`running`, and then stored that state's next stop reason. -/
theorem signedDataHandler_ok {u : Unit} (h : signedDataHandler stateOf action next s = .ok u s') :
    ∃ st t, stateOf s.stopReason s = .ok st ∧
      action st { s with stopReason := .running } = .ok () t ∧
      s' = { t with stopReason := next st s.stopReason t } := by
  simp only [signedDataHandler, get_bind, modify_bind] at h
  cases hst : stateOf s.stopReason s with
  | error e => simp [hst] at h
  | ok st =>
    simp only [hst, liftErr_ok_bind] at h
    obtain ⟨_, t, ht, h⟩ := bind_eq_ok h
    simp only [modify_apply, EStateM.Result.ok.injEq] at h
    exact ⟨st, t, rfl, ht, h.2.symm⟩

/-- The converse: a handler whose stop reason maps to a state whose work returns stores that
state's next stop reason. -/
theorem signedDataHandler_of_ok {st : S} {t : Cms} (hst : stateOf s.stopReason s = .ok st)
    (ha : action st { s with stopReason := .running } = .ok () t) :
    signedDataHandler stateOf action next s =
      .ok () { t with stopReason := next st s.stopReason t } := by
  simp only [signedDataHandler, get_bind, modify_bind, hst, liftErr_ok_bind]
  rw [bind_ok _ ha]
  rfl

/-- A handler that fails either found no state for the stop reason, and answers its
error, or failed in the work of the state it found. -/
theorem signedDataHandler_error_cases {e : Fault}
    (h : signedDataHandler stateOf action next s = .error e s') :
    (∃ e', stateOf s.stopReason s = .error e' ∧ e = .err e' ∧
        s' = { s with stopReason := .running }) ∨
      ∃ st, stateOf s.stopReason s = .ok st ∧
        action st { s with stopReason := .running } = .error e s' := by
  simp only [signedDataHandler, get_bind, modify_bind] at h
  cases hst : stateOf s.stopReason s with
  | error e' =>
    simp only [hst, liftErr_error_bind, EStateM.Result.error.injEq] at h
    exact .inl ⟨e', rfl, h.1.symm, h.2.symm⟩
  | ok st =>
    simp only [hst, liftErr_ok_bind] at h
    rcases bind_eq_error h with h | ⟨_, t, _, h⟩
    · exact .inr ⟨st, rfl, h⟩
    · simp at h

/-- A handler called at a stop reason it has no state for answers that error and leaves
`running`. -/
theorem signedDataHandler_stateOf_error {e : KsbaError} (he : stateOf s.stopReason s = .error e) :
    signedDataHandler stateOf action next s = .error (.err e) { s with stopReason := .running } := by
  simp only [signedDataHandler, get_bind, modify_bind, he, liftErr_error_bind]

/-- A handler that fails leaves `running`, as long as the work of no state touches the
stop reason. -/
theorem signedDataHandler_error (hact : ∀ st, Preserves Cms.stopReason (action st)) {e : Fault}
    (h : signedDataHandler stateOf action next s = .error e s') : s'.stopReason = .running := by
  rcases signedDataHandler_error_cases h with ⟨_, -, -, rfl⟩ | ⟨st, -, h⟩
  · rfl
  · exact (hact st).of_error h

/-- The frame of a handler: the parts of the container that neither the stop-reason
stores nor the work of any state touch. -/
theorem preserves_signedDataHandler {β : Type} {f : Cms → β}
    (hsr : ∀ s r, f { s with stopReason := r } = f s) (hact : ∀ st, Preserves f (action st)) :
    Preserves f (signedDataHandler stateOf action next) :=
  .bind .get fun _ => .bind (.modify fun _ => hsr _ _) fun _ => .bind (.liftErr _) fun st =>
    .bind (hact st) fun _ => .modify fun _ => hsr _ _

/-- The frame of a handler at one container: what the work of the states it can reach from
there leaves alone. -/
theorem signedDataHandler_preservesAt {β : Type} {f : Cms → β}
    (hsr : ∀ s r, f { s with stopReason := r } = f s)
    (hact : ∀ st, stateOf s.stopReason s = .ok st → Preserves f (action st)) :
    f (stateAfter (signedDataHandler stateOf action next s)) = f s := by
  simp only [signedDataHandler, get_bind, modify_bind]
  cases hst : stateOf s.stopReason s with
  | error e => simp only [liftErr_error_bind, stateAfter_error, hsr]
  | ok st =>
    simp only [liftErr_ok_bind]
    rw [bind_apply]
    have ha := hact st hst { s with stopReason := .running }
    cases h : action st { s with stopReason := .running } with
    | ok u t =>
      rw [h, stateAfter_ok] at ha
      simp only [modify_apply, stateAfter_ok, hsr, ha]
    | error e t =>
      rw [h, stateAfter_error] at ha
      simp only [stateAfter_error, ha, hsr]

end Skeleton

/-! ## The parse handler -/

theorem parseAction_preserves {β : Type} {f : Cms → β}
    (h1 : ∀ s a e d g,
      f { s with digestAlgos := a, encapContType := e, detachedSignature := d, dataDigest := g }
        = f s)
    (h2 : ∀ s r i, f { s with signerInfoRoot := r, signerInfoImage := i } = f s)
    (st : ParseState) : Preserves f (parseAction st) := by
  cases st
  · exact preserves_parseSignedDataPart1 h1
  · exact preserves_parseSignedDataPart2 h2
  · exact .pure _
  · exact .fail _

theorem parseAction_stopReason (st : ParseState) : Preserves Cms.stopReason (parseAction st) := by
  refine parseAction_preserves ?_ ?_ st <;> intros <;> rfl

/-- A state the parse handler works in and the stop reason it then stores form a step of the
parse path. -/
theorem parseNext_edge {sr : StopReason} {hasHash : Bool} {st : ParseState}
    (hst : parseStateOf sr hasHash = .ok st) (hne : st ≠ .error) (detached hasDigest : Bool) :
    ParseEdge sr (parseNext st sr detached hasDigest) := by
  cases sr <;> simp only [parseStateOf, Except.ok.injEq, reduceCtorEq] at hst
  case beginData => split at hst <;> cases hst; exact .endData
  all_goals subst hst
  all_goals first | exact absurd rfl hne | constructor | (simp only [parseNext]; split <;> constructor)

theorem ctParseSignedData_ok {s s' : Cms} {u : Unit} (h : ctParseSignedData s = .ok u s') :
    ParseEdge s.stopReason s'.stopReason := by
  obtain ⟨st, t, hst, hact, rfl⟩ := signedDataHandler_ok h
  have hne : st ≠ .error := by rintro rfl; simp [parseAction] at hact
  exact parseNext_edge hst hne _ _

theorem ctParseSignedData_error {s s' : Cms} {e : Fault} (h : ctParseSignedData s = .error e s') :
    s'.stopReason = .running :=
  signedDataHandler_error parseAction_stopReason h

/-! ## The build handler -/

theorem buildAction_start_preserves {β : Type} {f : Cms → β}
    (hd : ∀ s d, f { s with detachedSignature := d } = f s)
    (hw : ∀ s w, f { s with writer := w } = f s) : Preserves f (buildAction .start) :=
  .bind (.modify fun _ => hd _ _) fun _ => preserves_buildSignedDataHeader hw

theorem buildAction_preserves {β : Type} {f : Cms → β}
    (hd : ∀ s d, f { s with detachedSignature := d } = f s)
    (hw : ∀ s w, f { s with writer := w } = f s)
    (hc : ∀ s l, f { s with certList := l } = f s)
    (hi : ∀ s r i, f { s with signerInfoRoot := r, signerInfoImage := i } = f s)
    (st : BuildState) : Preserves f (buildAction st) := by
  cases st
  · exact buildAction_start_preserves hd hw
  · exact preserves_buildSignedDataAttributes hw hc hi
  · exact preserves_buildSignedDataRest hw
  · exact .fail _

theorem buildAction_stopReason (st : BuildState) : Preserves Cms.stopReason (buildAction st) := by
  refine buildAction_preserves ?_ ?_ ?_ ?_ st <;> intros <;> rfl

/-- A state the build handler works in and the stop reason it then stores form a step of the
build path. -/
theorem buildNext_edge {sr : StopReason} {st : BuildState} (hst : buildStateOf sr = .ok st)
    (hne : st ≠ .error) (detached : Bool) : BuildEdge sr (buildNext st sr detached) := by
  cases sr <;> simp only [buildStateOf, Except.ok.injEq, reduceCtorEq] at hst
  all_goals subst hst
  all_goals first | exact absurd rfl hne | constructor | (simp only [buildNext]; split <;> constructor)

theorem ctBuildSignedData_ok {s s' : Cms} {u : Unit} (h : ctBuildSignedData s = .ok u s') :
    BuildEdge s.stopReason s'.stopReason := by
  obtain ⟨st, t, hst, hact, rfl⟩ := signedDataHandler_ok h
  have hne : st ≠ .error := by rintro rfl; simp [buildAction] at hact
  exact buildNext_edge hst hne _

theorem ctBuildSignedData_error {s s' : Cms} {e : Fault} (h : ctBuildSignedData s = .error e s') :
    s'.stopReason = .running :=
  signedDataHandler_error buildAction_stopReason h

/-! ## Dispatch -/

/-- The two signed-data handlers, the only ones that do any work. -/
def Handler.isSignedData : Handler → Bool
  | .ctParseSignedData | .ctBuildSignedData => true
  | _ => false

theorem runHandler_ok {h : Handler} {s s' : Cms} {u : Unit} (hr : runHandler h s = .ok u s') :
    (h = .ctParseSignedData ∧ ParseEdge s.stopReason s'.stopReason) ∨
      (h = .ctBuildSignedData ∧ BuildEdge s.stopReason s'.stopReason) := by
  cases h <;> simp only [runHandler, fail_apply, reduceCtorEq] at hr
  · exact .inl ⟨rfl, ctParseSignedData_ok hr⟩
  · exact .inr ⟨rfl, ctBuildSignedData_ok hr⟩

/-- A failed signed-data handler leaves `running`; the others refuse at once. -/
theorem runHandler_error {h : Handler} {s s' : Cms} {e : Fault} (hr : runHandler h s = .error e s') :
    s'.stopReason = if h.isSignedData then .running else s.stopReason := by
  cases h <;> simp only [runHandler, fail_apply, EStateM.Result.error.injEq] at hr <;>
    simp only [Handler.isSignedData, if_true, Bool.false_eq_true, if_false]
  all_goals first | rw [hr.2] | exact ctParseSignedData_error hr | exact ctBuildSignedData_error hr

/-- The frame of the handlers: what neither signed-data handler writes. -/
theorem preserves_runHandler {β : Type} {f : Cms → β}
    (hsr : ∀ s r, f { s with stopReason := r } = f s)
    (h1 : ∀ s a e d g,
      f { s with digestAlgos := a, encapContType := e, detachedSignature := d, dataDigest := g }
        = f s)
    (hd : ∀ s d, f { s with detachedSignature := d } = f s)
    (hw : ∀ s w, f { s with writer := w } = f s)
    (hc : ∀ s l, f { s with certList := l } = f s)
    (hi : ∀ s r i, f { s with signerInfoRoot := r, signerInfoImage := i } = f s)
    (h : Handler) : Preserves f (runHandler h) := by
  cases h
  case ctParseSignedData =>
    unfold runHandler ctParseSignedData
    exact preserves_signedDataHandler hsr (parseAction_preserves h1 hi)
  case ctBuildSignedData =>
    unfold runHandler ctBuildSignedData
    exact preserves_signedDataHandler hsr (buildAction_preserves hd hw hc hi)
  all_goals exact .fail _

theorem engineCall_ok {init : CmsM Unit} {s s' : Cms} {r : StopReason}
    (h : engineCall init s = .ok r s') :
    r = s'.stopReason ∧ ((s.stopReason = .none ∧ init s = .ok () s') ∨
      (s.stopReason ≠ .none ∧ ∃ hd, s.contentHandler = some hd ∧ runHandler hd s = .ok () s')) := by
  simp only [engineCall, get_bind] at h
  split at h <;> obtain ⟨_, t, ht, h⟩ := bind_eq_ok h <;>
    simp only [get_bind, pure_apply, EStateM.Result.ok.injEq] at h <;> obtain ⟨rfl, rfl⟩ := h
  · exact ⟨rfl, .inl ⟨‹_›, ht⟩⟩
  · refine ⟨rfl, .inr ⟨‹_›, ?_⟩⟩
    simp only [runInstalledHandler, get_bind] at ht
    cases hc : s.contentHandler <;> simp only [hc, fail_apply, reduceCtorEq] at ht
    exact ⟨_, rfl, ht⟩

theorem engineCall_error {init : CmsM Unit} {s s' : Cms} {e : Fault}
    (h : engineCall init s = .error e s') :
    (s.stopReason = .none ∧ init s = .error e s') ∨
      (s.stopReason ≠ .none ∧ ((s.contentHandler = none ∧ e = .err .unsupportedCmsObject ∧ s' = s) ∨
        ∃ hd, s.contentHandler = some hd ∧ runHandler hd s = .error e s')) := by
  simp only [engineCall, get_bind] at h
  split at h <;> rcases bind_eq_error h with h | ⟨_, t, _, h⟩
  · exact .inl ⟨‹_›, h⟩
  · simp at h
  · refine .inr ⟨‹_›, ?_⟩
    simp only [runInstalledHandler, get_bind] at h
    cases hc : s.contentHandler <;> simp only [hc, fail_apply, EStateM.Result.error.injEq] at h
    · exact .inl ⟨rfl, h.1.symm, h.2.symm⟩
    · exact .inr ⟨_, rfl, h⟩
  · simp at h

/-- Once initialised, an entry point fails as the installed handler does. -/
theorem engineCall_of_runHandler_error {init : CmsM Unit} {hd : Handler} {s s' : Cms} {e : Fault}
    (hsr : s.stopReason ≠ .none) (hc : s.contentHandler = some hd)
    (hr : runHandler hd s = .error e s') : engineCall init s = .error e s' := by
  simp only [engineCall, get_bind, if_neg hsr]
  exact bind_error _ (by simpa only [runInstalledHandler, get_bind, hc] using hr)

/-- A fresh container returns what its initialisation stored. -/
theorem engineCall_of_init_ok {init : CmsM Unit} {s s' : Cms} {u : Unit}
    (hsr : s.stopReason = .none) (hi : init s = .ok u s') :
    engineCall init s = .ok s'.stopReason s' := by
  simp only [engineCall, get_bind, if_pos hsr]
  rw [bind_ok _ hi]
  rfl

/-- Once initialised, an entry point returns as the installed handler does. -/
theorem engineCall_of_runHandler_ok {init : CmsM Unit} {hd : Handler} {s s' : Cms} {u : Unit}
    (hsr : s.stopReason ≠ .none) (hc : s.contentHandler = some hd)
    (hr : runHandler hd s = .ok u s') : engineCall init s = .ok s'.stopReason s' := by
  simp only [engineCall, get_bind, if_neg hsr]
  rw [bind_ok _ (by simpa only [runInstalledHandler, get_bind, hc] using hr)]
  rfl

/-- Once initialised, an entry point without an installed handler refuses the call. -/
theorem engineCall_of_no_handler {init : CmsM Unit} {s : Cms} (hsr : s.stopReason ≠ .none)
    (hc : s.contentHandler = none) : engineCall init s = .error (.err .unsupportedCmsObject) s := by
  simp only [engineCall, get_bind, if_neg hsr]
  exact bind_error _ (by simp only [runInstalledHandler, get_bind, hc, fail_apply])

/-- The container either entry point leaves: the initialisation's on a fresh container, the
installed handler's on any other. -/
theorem stateAfter_engineCall (init : CmsM Unit) (s : Cms) :
    stateAfter (engineCall init s) = if s.stopReason = .none then stateAfter (init s)
      else match s.contentHandler with
        | some h => stateAfter (runHandler h s)
        | none => s := by
  simp only [engineCall, get_bind]
  split <;> rw [bind_apply]
  · cases init s <;> rfl
  · simp only [runInstalledHandler, get_bind]
    cases s.contentHandler with
    | none => rfl
    | some h => simp only []; cases runHandler h s <;> rfl

/-- The frame of an entry point: what its initialisation and every handler leave alone. -/
theorem preserves_engineCall {β : Type} {f : Cms → β} {init : CmsM Unit}
    (hinit : Preserves f init) (hrun : ∀ h, Preserves f (runHandler h)) :
    Preserves f (engineCall init) := by
  intro s
  rw [stateAfter_engineCall]
  split
  · exact hinit s
  · split
    · exact hrun _ s
    · rfl

/-! ## The initialisations -/

theorem parseContentInfo_ok {s s' : Cms} {u : Unit} (h : parseContentInfo s = .ok u s') :
    ∃ oid, s' = { s with contentOid := some oid } := by
  simp only [parseContentInfo, get_bind] at h
  cases hr : s.reader with
  | none => simp [hr] at h
  | some r =>
    cases hc : r.contentInfo with
    | error e => simp [hr, hc] at h
    | ok oid =>
      simp only [hr, hc, someOr_some_bind, liftErr_ok_bind, modify_apply,
        EStateM.Result.ok.injEq] at h
      exact ⟨oid, h.2.symm⟩

theorem parseContentInfo_error {s s' : Cms} {e : Fault} (h : parseContentInfo s = .error e s') :
    s' = s := by
  simp only [parseContentInfo, get_bind] at h
  cases hr : s.reader with
  | none => simp only [hr, someOr_none_bind, EStateM.Result.error.injEq] at h; exact h.2.symm
  | some r =>
    cases hc : r.contentInfo with
    | error e => simp only [hr, hc, someOr_some_bind, liftErr_error_bind,
        EStateM.Result.error.injEq] at h; exact h.2.symm
    | ok oid => simp [hr, hc] at h

/-- A successful parse initialisation installs the parse handler of the row of the content
type it read, with that row's OID and type. -/
theorem parseInit_ok {s s' : Cms} {u : Unit} (h : parseInit s = .ok u s') :
    ∃ row ∈ contentHandlers, ∃ hd, row.parseHandler = some hd ∧
      s' = { s with contentOid := some row.oid, contentCt := row.ct, contentHandler := some hd,
                    stopReason := .gotContent } := by
  simp only [parseInit] at h
  obtain ⟨_, t, ht, h⟩ := bind_eq_ok h
  obtain ⟨oid, rfl⟩ := parseContentInfo_ok ht
  simp only [get_bind] at h
  cases hf : contentHandlers.find? (some ·.oid == some oid) with
  | none => simp only [hf, someOr_none_bind, reduceCtorEq] at h
  | some row =>
    cases hp : row.parseHandler with
    | none => simp only [hf, hp, someOr_some_bind, someOr_none_bind, reduceCtorEq] at h
    | some hd =>
      simp only [hf, hp, someOr_some_bind, modify_apply, EStateM.Result.ok.injEq] at h
      have hrow := List.find?_some hf
      simp only [beq_iff_eq, Option.some.injEq] at hrow
      subst hrow
      exact ⟨row, List.mem_of_find?_eq_some hf, hd, hp, h.2.symm⟩

/-- A failed parse initialisation may have replaced the content OID, and nothing else. -/
theorem parseInit_error {s s' : Cms} {e : Fault} (h : parseInit s = .error e s') :
    ∃ oid, s' = { s with contentOid := oid } := by
  simp only [parseInit] at h
  rcases bind_eq_error h with h | ⟨_, t, ht, h⟩
  · exact ⟨s.contentOid, parseContentInfo_error h⟩
  · obtain ⟨oid, rfl⟩ := parseContentInfo_ok ht
    refine ⟨some oid, ?_⟩
    simp only [get_bind] at h
    cases hf : contentHandlers.find? (some ·.oid == some oid) with
    | none => simp only [hf, someOr_none_bind, EStateM.Result.error.injEq] at h; exact h.2.symm
    | some row =>
      cases hp : row.parseHandler with
      | none => simp only [hf, hp, someOr_some_bind, someOr_none_bind,
          EStateM.Result.error.injEq] at h; exact h.2.symm
      | some hd => simp only [hf, hp, someOr_some_bind, modify_apply, reduceCtorEq] at h

theorem buildInit_ok {s s' : Cms} {u : Unit} (h : buildInit s = .ok u s') :
    s' = { s with stopReason := .gotContent } := by
  simp only [buildInit, get_bind, failIf_bind] at h
  repeat' split at h
  all_goals first | (cases h; rfl) | simp_all

theorem buildInit_error {s s' : Cms} {e : Fault} (h : buildInit s = .error e s') : s' = s := by
  simp only [buildInit, get_bind, failIf_bind] at h
  repeat' split at h
  all_goals first | (cases h; rfl) | simp_all

theorem preserves_parseInit {β : Type} {f : Cms → β}
    (h : ∀ s o c hd sr,
      f { s with contentOid := o, contentCt := c, contentHandler := hd, stopReason := sr } = f s) :
    Preserves f parseInit := by
  intro s
  cases hp : parseInit s with
  | ok u s' =>
    obtain ⟨_, _, _, _, rfl⟩ := parseInit_ok hp
    exact h _ _ _ _ _
  | error e s' =>
    obtain ⟨oid, rfl⟩ := parseInit_error hp
    exact h s oid s.contentCt s.contentHandler s.stopReason

theorem preserves_buildInit {β : Type} {f : Cms → β}
    (h : ∀ s sr, f { s with stopReason := sr } = f s) : Preserves f buildInit := by
  intro s
  cases hb : buildInit s with
  | ok u s' => rw [stateAfter_ok, buildInit_ok hb]; exact h _ _
  | error e s' => rw [stateAfter_error, buildInit_error hb]

end Ksba
