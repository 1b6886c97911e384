import KsbaCms.Proof.StopReason

/-! # The dispatcher fields

Two calls write `cms->content.handler`: `ksba_cms_set_content_type (cms, 0, ...)`, with a
row's build handler, and the parse initialisation, with a row's parse handler. Both write
the row's content type with it, so the handler and the type always come from one row of
`content_handlers`. The content OID does not follow: the parse initialisation stores the
OID it read before it looks the OID up, and a failed lookup keeps the new OID beside the
old handler.

* `HandlerAgrees`: the installed handler and the content type are those of one row.
* `handlerAgrees_step`: every call keeps it; `handler_agrees_with_table` for every
  reachable container.
* `Installed`: a container past NONE has a handler. Every call keeps it, so the
  `Unsupported_CMS_Object` branch of both entry points is dead in every reachable container
  (`later_calls_run_installed_handler`).
-/

namespace Ksba
set_option autoImplicit false

/-- The installed handler, if any, and the content type belong to one row of
`content_handlers`. -/
def HandlerAgrees (s : Cms) : Prop :=
  ∀ h, s.contentHandler = some h → ∃ row ∈ contentHandlers, row.ct = s.contentCt ∧
    (row.parseHandler = some h ∨ row.buildHandler = some h)

/-- The dispatcher fields `HandlerAgrees` reads. -/
def dispatchOf (s : Cms) : ContentType × Option Handler := (s.contentCt, s.contentHandler)

theorem HandlerAgrees.of_dispatchOf {s s' : Cms} (hs : HandlerAgrees s)
    (h : dispatchOf s' = dispatchOf s) : HandlerAgrees s' := by
  simp only [dispatchOf, Prod.mk.injEq] at h
  intro hd hh
  rw [h.1]
  exact hs hd (h.2 ▸ hh)

theorem HandlerAgrees.after {α : Type} {x : CmsM α} (hx : Preserves dispatchOf x) {s : Cms}
    (hs : HandlerAgrees s) : HandlerAgrees (stateAfter (x s)) :=
  hs.of_dispatchOf (hx s)

/-! ## One call -/

theorem handlerAgrees_setContentType {s : Cms} (hs : HandlerAgrees s) (what : Int)
    (type : ContentType) : HandlerAgrees (stateAfter (ksbaCmsSetContentType what type s)) := by
  simp only [ksbaCmsSetContentType, failIf_bind]
  split
  · exact hs
  cases hf : contentHandlers.find? (·.ct == type) with
  | none => exact hs
  | some row =>
    cases hb : row.buildHandler with
    | none => simpa [hb] using hs
    | some h =>
      simp only [someOr_some_bind, hb]
      split
      · rintro _ ⟨⟩
        exact ⟨row, List.mem_of_find?_eq_some hf, rfl, .inr hb⟩
      · exact hs.of_dispatchOf rfl

theorem runHandler_dispatchOf (h : Handler) : Preserves dispatchOf (runHandler h) := by
  refine preserves_runHandler ?_ ?_ ?_ ?_ ?_ ?_ h <;> intros <;> rfl

theorem handlerAgrees_engineCall {init : CmsM Unit}
    (hinit : ∀ {t : Cms}, HandlerAgrees t → HandlerAgrees (stateAfter (init t))) {s : Cms}
    (hs : HandlerAgrees s) : HandlerAgrees (stateAfter (engineCall init s)) := by
  rw [stateAfter_engineCall]
  split
  · exact hinit hs
  · split
    · exact hs.after (runHandler_dispatchOf _)
    · exact hs

theorem handlerAgrees_parseInit {s : Cms} (hs : HandlerAgrees s) :
    HandlerAgrees (stateAfter (parseInit s)) := by
  cases h : parseInit s with
  | ok u s' =>
    obtain ⟨row, hrow, hd, hp, rfl⟩ := parseInit_ok h
    rintro _ ⟨⟩
    exact ⟨row, hrow, rfl, .inl hp⟩
  | error e s' =>
    obtain ⟨_, rfl⟩ := parseInit_error h
    exact hs.of_dispatchOf rfl

theorem handlerAgrees_buildInit {s : Cms} (hs : HandlerAgrees s) :
    HandlerAgrees (stateAfter (buildInit s)) := by
  cases h : buildInit s with
  | ok u s' => rw [stateAfter_ok, buildInit_ok h]; exact hs.of_dispatchOf rfl
  | error e s' => rw [stateAfter_error, buildInit_error h]; exact hs

theorem handlerAgrees_step {dim : Nat} {c : Call} {s s' : Cms} (hs : HandlerAgrees s)
    (h : c.next dim s = some s') : HandlerAgrees s' := by
  rw [← Call.stateAfter_of_next h]
  cases c
  case parse =>
    simp only [Call.run]; rw [stateAfter_bind_pure]
    exact handlerAgrees_engineCall handlerAgrees_parseInit hs
  case build =>
    simp only [Call.run]; rw [stateAfter_bind_pure]
    exact handlerAgrees_engineCall handlerAgrees_buildInit hs
  case setContentType what type => exact handlerAgrees_setContentType hs what type
  case getDigestAlgo idx =>
    simp only [Call.run]; rw [stateAfter_bind_pure]
    exact hs.after (preserves_ksbaCmsGetDigestAlgo (fun _ _ => by rfl) idx)
  all_goals exact hs.after (Call.preserves_of_isSetup dim (fun _ _ _ => by rfl)
    (fun _ _ => by rfl) (fun _ _ => by rfl) (fun _ _ _ => by rfl) _ (by trivial))

/-- In every reachable container the installed handler, if any, and the content type come
from one row of `content_handlers`, the handler being the row's parse or build handler. -/
theorem handler_agrees_with_table {dim : Nat} {s : Cms} (hs : Reachable dim s) :
    HandlerAgrees s := by
  induction hs with
  | init => intro _ h; cases h
  | step c _ h ih => exact handlerAgrees_step ih h

/-! ## The later calls

Both entry points leave the fresh state only through an initialisation that installs a
handler (the parse initialisation installs one, the build initialisation refuses to run
without one), and no call removes a handler. So the branch of the later calls that
answers `KSBA_Unsupported_CMS_Object` for a missing handler is never taken. -/

/-- Past its initialisation a container has a handler installed. -/
def Installed (s : Cms) : Prop := s.stopReason ≠ .none → s.contentHandler.isSome

/-- The fields `Installed` reads. -/
def installView (s : Cms) : StopReason × Option Handler := (s.stopReason, s.contentHandler)

theorem Installed.after {α : Type} {x : CmsM α} (hx : Preserves installView x) {s : Cms}
    (hs : Installed s) : Installed (stateAfter (x s)) := by
  have e := hx s
  simp only [installView, Prod.mk.injEq] at e
  rw [Installed, e.1, e.2]
  exact hs

theorem buildInit_ok_handler {s s' : Cms} {u : Unit} (h : buildInit s = .ok u s') :
    s.contentHandler.isSome := by
  cases hc : s.contentHandler with
  | some _ => rfl
  | none =>
    simp only [buildInit, get_bind, failIf_bind, hc, Option.isNone_none, if_true] at h
    split_ifs at h

theorem installed_parseInit {s : Cms} (hn : s.stopReason = .none) :
    Installed (stateAfter (parseInit s)) := by
  cases h : parseInit s with
  | ok u s' =>
    obtain ⟨row, -, hd, -, rfl⟩ := parseInit_ok h
    exact fun _ => rfl
  | error e s' =>
    obtain ⟨_, rfl⟩ := parseInit_error h
    exact fun h' => absurd hn h'

theorem installed_buildInit {s : Cms} (hn : s.stopReason = .none) :
    Installed (stateAfter (buildInit s)) := by
  cases h : buildInit s with
  | ok u s' =>
    have hb := buildInit_ok_handler h
    rw [stateAfter_ok, buildInit_ok h]
    exact fun _ => hb
  | error e s' =>
    rw [stateAfter_error, buildInit_error h]
    exact fun h' => absurd hn h'

theorem installed_engineCall {init : CmsM Unit}
    (hinit : ∀ {t : Cms}, t.stopReason = .none → Installed (stateAfter (init t))) {s : Cms}
    (hs : Installed s) : Installed (stateAfter (engineCall init s)) := by
  rw [stateAfter_engineCall]
  split
  · exact hinit ‹_›
  · split
    · rename_i hd hc
      have e := congrArg Prod.snd (runHandler_dispatchOf hd s)
      simp only [dispatchOf] at e
      exact fun _ => by rw [e, hc]; rfl
    · exact hs

theorem installed_setContentType {s : Cms} (hs : Installed s) (what : Int) (type : ContentType) :
    Installed (stateAfter (ksbaCmsSetContentType what type s)) := by
  simp only [ksbaCmsSetContentType, failIf_bind]
  split
  · exact hs
  cases hf : contentHandlers.find? (·.ct == type) with
  | none => exact hs
  | some row =>
    cases hb : row.buildHandler with
    | none => simpa [hb] using hs
    | some h =>
      simp only [someOr_some_bind, hb]
      split
      · exact fun _ => rfl
      · exact hs

theorem installed_step {dim : Nat} {c : Call} {s s' : Cms} (hs : Installed s)
    (h : c.next dim s = some s') : Installed s' := by
  rw [← Call.stateAfter_of_next h]
  cases c
  case parse =>
    simp only [Call.run]; rw [stateAfter_bind_pure]
    exact installed_engineCall installed_parseInit hs
  case build =>
    simp only [Call.run]; rw [stateAfter_bind_pure]
    exact installed_engineCall installed_buildInit hs
  case setContentType what type => exact installed_setContentType hs what type
  case getDigestAlgo idx =>
    simp only [Call.run]; rw [stateAfter_bind_pure]
    exact hs.after (preserves_ksbaCmsGetDigestAlgo (fun _ _ => by rfl) idx)
  all_goals exact hs.after (Call.preserves_of_isSetup dim (fun _ _ _ => by rfl)
    (fun _ _ => by rfl) (fun _ _ => by rfl) (fun _ _ _ => by rfl) _ (by trivial))

theorem Reachable.installed {dim : Nat} {s : Cms} (hs : Reachable dim s) : Installed s := by
  induction hs with
  | init => exact fun h => absurd rfl h
  | step c _ h ih => exact installed_step ih h

/-- In every reachable container past its initialisation a handler is installed, so every
later call of `ksba_cms_parse` and of `ksba_cms_build` runs that handler and returns the
stop reason it stores: the branch answering `KSBA_Unsupported_CMS_Object` is dead. -/
theorem later_calls_run_installed_handler {dim : Nat} {s : Cms} (hs : Reachable dim s)
    (hn : s.stopReason ≠ .none) :
    ∃ h, s.contentHandler = some h ∧
      ksbaCmsParse s = (do runHandler h; return (← get).stopReason) s ∧
      ksbaCmsBuild s = (do runHandler h; return (← get).stopReason) s := by
  obtain ⟨h, hc⟩ := Option.isSome_iff_exists.mp (hs.installed hn)
  have e : ∀ init : CmsM Unit, engineCall init s = (do runHandler h; return (← get).stopReason) s := by
    intro init
    simp only [engineCall, get_bind, if_neg hn]
    show ((runInstalledHandler >>= _) s = _)
    rw [bind_apply, bind_apply]
    simp only [runInstalledHandler, get_bind, hc]
  exact ⟨h, hc, e _, e _⟩

/-- After a parse initialisation, both entry points run the parse handler. -/
theorem parse_initialised_runs_handler :
    ∃ s, Reachable 32 s ∧ s.stopReason ≠ .none ∧ ∃ h, s.contentHandler = some h ∧
      ksbaCmsParse s = (do runHandler h; return (← get).stopReason) s ∧
      ksbaCmsBuild s = (do runHandler h; return (← get).stopReason) s :=
  ⟨_, Reachable.of_run [.setReaderWriter (some (signedReader false)) none, .parse] rfl, by decide,
    later_calls_run_installed_handler
      (@Reachable.of_run 32 _ [.setReaderWriter (some (signedReader false)) none, .parse] rfl)
      (by decide)⟩

/-- A message whose content type is not in `content_handlers`. -/
def unknownTypeReader : Reader := ⟨.ok "1.2.3.4", .error .readError, .error .readError⟩

/-- A build handler installed, then a parse initialisation that reads an unknown type. -/
def unknownTypeRun : List Call :=
  [.setContentType 0 .signedData, .setReaderWriter (some unknownTypeReader) none, .parse]

theorem handler_agrees_beside_foreign_oid :
    ∃ s, Reachable 32 s ∧ s.contentHandler = some .ctBuildSignedData ∧
      s.contentOid = some "1.2.3.4" ∧ HandlerAgrees s :=
  ⟨_, Reachable.of_run unknownTypeRun rfl, rfl, rfl,
    handler_agrees_with_table (@Reachable.of_run 32 _ unknownTypeRun rfl)⟩

/-- After the failed parse initialisation the signed-data build handler is installed beside a
content OID that no row of `content_handlers` has. -/
theorem content_oid_outside_table :
    ∃ s, Reachable 32 s ∧ s.contentHandler = some .ctBuildSignedData ∧
      ∀ row ∈ contentHandlers, some row.oid ≠ s.contentOid :=
  ⟨_, Reachable.of_run unknownTypeRun rfl, rfl, by decide⟩

end Ksba
