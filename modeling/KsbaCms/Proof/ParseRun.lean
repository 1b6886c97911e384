import KsbaCms.Proof.StopReason

/-! # A signed-data message parsed to the end

`ksba_cms_parse`, called again and again on a container whose reader holds a signed-data
message, goes the whole parse path: GOT_CONTENT, then NEED_HASH for a detached signature
the message carries no digest for, or BEGIN_DATA and END_DATA around the data, then READY.
Every call returns, and the container at READY holds what the three parser stages read,
with nothing else changed.

* `parse_init_call`, `parse_part1_call`, `parse_data_call`, `parse_part2_call`: the four
  kinds of call, each computed from the container it starts from.
* `parse_signed_data_completes`: the whole run, for every message the stages accept.
-/

namespace Ksba
set_option autoImplicit false

/-- The stop reasons `ksba_cms_parse` returns for a signed-data message whose first part is
`p`: the test `cms->detached_signature && !cms->data.digest` picks the path. -/
def parsePath (p : Part1) : List StopReason :=
  .gotContent :: if p.detached && !p.digest.isSome then [.needHash, .ready]
    else [.beginData, .endData, .ready]

/-- The row of signed data in `content_handlers`. -/
theorem find_signedData_oid :
    contentHandlers.find? (some ·.oid == some "1.2.840.113549.1.7.2") =
      some ⟨"1.2.840.113549.1.7.2", .signedData, some .ctParseSignedData,
        some .ctBuildSignedData⟩ := rfl

section Calls

variable {s : Cms} {r : Reader}

/-- The first call reads the content type and installs the signed-data parse handler. -/
theorem parse_init_call (hn : s.stopReason = .none) (hr : s.reader = some r)
    (hc : r.contentInfo = .ok "1.2.840.113549.1.7.2") :
    ksbaCmsParse s = .ok .gotContent { s with
      contentOid := some "1.2.840.113549.1.7.2", contentCt := .signedData,
      contentHandler := some .ctParseSignedData, stopReason := .gotContent } := by
  have hp : parseContentInfo s = .ok () { s with contentOid := some "1.2.840.113549.1.7.2" } := by
    simp only [parseContentInfo, get_bind, hr, hc, someOr_some_bind, liftErr_ok_bind, modify_apply]
  have hi : parseInit s = .ok () { s with
      contentOid := some "1.2.840.113549.1.7.2", contentCt := .signedData,
      contentHandler := some .ctParseSignedData, stopReason := .gotContent } := by
    rw [parseInit, bind_ok _ hp]
    simp only [get_bind, find_signedData_oid, someOr_some_bind, modify_apply]
  exact engineCall_of_init_ok hn hi

/-- A later call runs the parse handler: the work of the state the stop reason maps to, then
that state's next stop reason. -/
theorem parse_handler_call {st : ParseState} {t : Cms} (hsr : s.stopReason ≠ .none)
    (hh : s.contentHandler = some .ctParseSignedData)
    (hst : parseStateOf s.stopReason s.hashFnc.isSome = .ok st)
    (ha : parseAction st { s with stopReason := .running } = .ok () t) :
    ksbaCmsParse s = .ok (parseNext st s.stopReason t.detachedSignature t.dataDigest.isSome)
      { t with stopReason := parseNext st s.stopReason t.detachedSignature t.dataDigest.isSome } := by
  have hr : ctParseSignedData s = .ok () { t with
      stopReason := parseNext st s.stopReason t.detachedSignature t.dataDigest.isSome } :=
    signedDataHandler_of_ok hst ha
  exact engineCall_of_runHandler_ok hsr hh hr

variable (hh : s.contentHandler = some .ctParseSignedData)
include hh

/-- At GOT_CONTENT the call reads the first part of the signed data. -/
theorem parse_part1_call {p : Part1} {sr : StopReason} (hs : s.stopReason = .gotContent)
    (hr : s.reader = some r) (h1 : r.part1 = .ok p)
    (hsr : parseNext .start .gotContent p.detached p.digest.isSome = sr) :
    ksbaCmsParse s = .ok sr
      { s with digestAlgos := p.digestAlgos, encapContType := some p.encapContType,
               detachedSignature := p.detached, dataDigest := p.digest, stopReason := sr } := by
  have ha : parseAction .start { s with stopReason := .running } = .ok ()
      { s with stopReason := .running, digestAlgos := p.digestAlgos,
               encapContType := some p.encapContType, detachedSignature := p.detached,
               dataDigest := p.digest } := by
    simp only [parseAction, parseSignedDataPart1, get_bind, hr, h1, someOr_some_bind,
      liftErr_ok_bind, modify_apply]
  have h := parse_handler_call (by simp [hs]) hh (by rw [hs]; rfl) ha
  rwa [hs, hsr] at h

/-- At BEGIN_DATA, with a hash function, the call lets the data through to END_DATA. -/
theorem parse_data_call (hs : s.stopReason = .beginData) (hf : s.hashFnc.isSome) :
    ksbaCmsParse s = .ok .endData { s with stopReason := .endData } := by
  have hst : parseStateOf s.stopReason s.hashFnc.isSome = .ok .inData := by
    rw [hs, hf]; rfl
  have ha : parseAction .inData { s with stopReason := .running } =
      .ok () { s with stopReason := .running } := rfl
  have h := parse_handler_call (by simp [hs]) hh hst ha
  rwa [hs] at h

/-- At NEED_HASH or END_DATA the call reads the SignerInfos and stops at READY. -/
theorem parse_part2_call {x : AsnNode × Bytes} (hs : s.stopReason = .needHash ∨ s.stopReason = .endData)
    (hr : s.reader = some r) (h2 : r.part2 = .ok x) :
    ksbaCmsParse s = .ok .ready
      { s with signerInfoRoot := some x.1, signerInfoImage := some x.2, stopReason := .ready } := by
  have hst : parseStateOf s.stopReason s.hashFnc.isSome = .ok .gotHash := by
    rcases hs with hs | hs <;> rw [hs] <;> rfl
  have ha : parseAction .gotHash { s with stopReason := .running } = .ok ()
      { s with stopReason := .running, signerInfoRoot := some x.1,
               signerInfoImage := some x.2 } := by
    simp only [parseAction, parseSignedDataPart2, get_bind, hr, h2, someOr_some_bind,
      liftErr_ok_bind, modify_apply]
  have h := parse_handler_call (by rcases hs with hs | hs <;> simp [hs]) hh hst ha
  rcases hs with hs | hs <;> rwa [hs] at h

end Calls

/-- For every message whose content type is signed data and whose parser stages succeed,
`ksba_cms_parse` driven from a fresh container with that reader returns GOT_CONTENT, then
NEED_HASH or BEGIN_DATA and END_DATA, then READY, each call returning; a hash function is
needed only on the BEGIN_DATA path. The container at READY holds the content type, the
first part and the SignerInfos the stages read, and is otherwise the one the run began
with. -/
theorem parse_signed_data_completes {s : Cms} {r : Reader} {p : Part1} {x : AsnNode × Bytes}
    (hn : s.stopReason = .none) (hr : s.reader = some r)
    (hc : r.contentInfo = .ok "1.2.840.113549.1.7.2") (h1 : r.part1 = .ok p)
    (h2 : r.part2 = .ok x) (hh : (p.detached && !p.digest.isSome || s.hashFnc.isSome) = true) :
    Drives ksbaCmsParse s (parsePath p)
      { s with contentOid := some "1.2.840.113549.1.7.2", contentCt := .signedData,
               contentHandler := some .ctParseSignedData, digestAlgos := p.digestAlgos,
               encapContType := some p.encapContType, detachedSignature := p.detached,
               dataDigest := p.digest, signerInfoRoot := some x.1, signerInfoImage := some x.2,
               stopReason := .ready } := by
  unfold parsePath
  refine .cons (parse_init_call hn hr hc) ?_
  cases hd : p.detached && !p.digest.isSome
  case true =>
    exact .cons (parse_part1_call rfl rfl hr h1 (by rw [parseNext, hd]; rfl))
      (.cons (parse_part2_call rfl (.inl rfl) hr h2) (.nil _))
  case false =>
    simp only [hd, Bool.false_or] at hh
    exact .cons (parse_part1_call rfl rfl hr h1 (by rw [parseNext, hd]; rfl))
      (.cons (parse_data_call rfl rfl hh) (.cons (parse_part2_call rfl (.inr rfl) hr h2) (.nil _)))

/-- The attached SHA-1 message of `signedReader`, parsed with a hash function. -/
theorem signed_reader_parses :
    ∃ t, Drives ksbaCmsParse { reader := some (signedReader false), hashFnc := some 0 }
      [.gotContent, .beginData, .endData, .ready] t ∧ t.stopReason = .ready :=
  ⟨_, @parse_signed_data_completes { reader := some (signedReader false), hashFnc := some 0 }
    (signedReader false) ⟨["1.3.14.3.2.26"], "1.2.840.113549.1.7.1", false, none⟩ (.nil, [])
    rfl rfl rfl rfl rfl rfl, rfl⟩

end Ksba
