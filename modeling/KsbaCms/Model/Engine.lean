import KsbaCms.Model.Builder

/-! # The engine

`ksba_cms_parse` and `ksba_cms_build`, the two entry points of the stop-reason protocol,
and the content handlers they dispatch to. A fresh container (`stopReason = none`) is
initialised by either entry point, each in its own way; from then on both run whatever
handler `cms->content.handler` holds (`engineCall`).

The signed-data handlers store `running` on entry, map the previous stop reason to an
internal state, do that state's work and only then store the next stop reason: an error
on the way leaves `running` behind, and a later call finds `running` and refuses with
`KSBA_Invalid_State`.

The parser stages `_ksba_cms_parse_content_info` and
`_ksba_cms_parse_signed_data_part_1/2` are not in the repository; they are modelled from
the spec as reading their outcome from the `Reader`.
-/

namespace Ksba
set_option autoImplicit false

/-! ## The parser stages -/

/-- Modelled from the spec: `_ksba_cms_parse_content_info`, which stores the parsed
contentType OID in `cms->content.oid`. -/
def parseContentInfo : CmsM Unit := do
  let r ← someOr .missingAction (← get).reader
  let oid ← liftErr r.contentInfo
  modify fun cms => { cms with contentOid := some oid }

/-- Modelled from the spec: `_ksba_cms_parse_signed_data_part_1`, which records the digest
algorithms, the inner content type, whether the signature is detached, and a digest the
message carries. -/
def parseSignedDataPart1 : CmsM Unit := do
  let r ← someOr .missingAction (← get).reader
  let p ← liftErr r.part1
  modify fun cms => { cms with digestAlgos := p.digestAlgos, encapContType := some p.encapContType,
                               detachedSignature := p.detached, dataDigest := p.digest }

/-- Modelled from the spec: `_ksba_cms_parse_signed_data_part_2`, which parses the
SignerInfos into `cms->signer_info`. -/
def parseSignedDataPart2 : CmsM Unit := do
  let r ← someOr .missingAction (← get).reader
  let x ← liftErr r.part2
  modify fun cms => { cms with signerInfoRoot := some x.1, signerInfoImage := some x.2 }

/-! ## The signed-data handlers

`ct_parse_signed_data` and `ct_build_signed_data` share one skeleton: keep the previous
stop reason, store `running`, compute the internal state (or an error) from the previous
stop reason, do the state's work, store the next stop reason. `signedDataHandler` is that
skeleton; each handler is it applied to its own states, work and next stop reasons. -/

/-- The skeleton of the two signed-data handlers. -/
def signedDataHandler {S : Type} (stateOf : StopReason → Cms → Except KsbaError S)
    (action : S → CmsM Unit) (next : S → StopReason → Cms → StopReason) : CmsM Unit := do
  let cms ← get
  let sr := cms.stopReason
  modify fun cms => { cms with stopReason := .running }
  let st ← liftErr (stateOf sr cms)
  action st
  modify fun cms => { cms with stopReason := next st sr cms }

/-! ### `ct_parse_signed_data` -/

/-- The internal states of `ct_parse_signed_data`. -/
inductive ParseState where
  | start | gotHash | inData | error
  deriving DecidableEq, Repr

/-- The state `ct_parse_signed_data` computes from the previous stop reason, or its error;
`none` leaves `sERROR` without an error code. -/
def parseStateOf (sr : StopReason) (hasHash : Bool) : Except KsbaError ParseState :=
  match sr with
  | .gotContent => .ok .start
  | .needHash => .ok .gotHash
  | .beginData => if hasHash then .ok .inData else .error .missingAction
  | .endData => .ok .gotHash
  | .running => .error .invalidState
  | .none => .ok .error
  | _ => .error .bug

/-- The work of `ct_parse_signed_data` in a state. -/
def parseAction : ParseState → CmsM Unit
  | .start => parseSignedDataPart1
  | .gotHash => parseSignedDataPart2
  | .inData => pure ()
  | .error => fail .invalidState

/-- The stop reason `ct_parse_signed_data` stores after the work of a state. -/
def parseNext (st : ParseState) (sr : StopReason) (detached hasDigest : Bool) : StopReason :=
  match st with
  | .start => if detached && !hasDigest then .needHash else .beginData
  | .inData => .endData
  | .gotHash => .ready
  | .error => sr

/-- `ct_parse_signed_data`. -/
def ctParseSignedData : CmsM Unit :=
  signedDataHandler (fun sr cms => parseStateOf sr cms.hashFnc.isSome) parseAction
    fun st sr cms => parseNext st sr cms.detachedSignature cms.dataDigest.isSome

/-! ### `ct_build_signed_data` -/

/-- The internal states of `ct_build_signed_data`. -/
inductive BuildState where
  | start | dataReady | gotSig | error
  deriving DecidableEq, Repr

/-- The state `ct_build_signed_data` computes from the previous stop reason, or its error.
BEGIN_DATA is accepted without checking for a message digest (`fixme` in the source). -/
def buildStateOf (sr : StopReason) : Except KsbaError BuildState :=
  match sr with
  | .gotContent => .ok .start
  | .beginData => .ok .dataReady
  | .endData => .ok .dataReady
  | .needSig => .ok .gotSig
  | .running => .error .invalidState
  | .none => .ok .error
  | _ => .error .bug

/-- The START test for a detached signature: the first signer already has a digest. -/
def detachedOf (certList : List CertList) : Bool :=
  match certList with
  | cl :: _ => cl.msgDigest.length != 0
  | [] => false

/-- The work of `ct_build_signed_data` in a state. -/
def buildAction : BuildState → CmsM Unit
  | .start => do
    modify fun cms => { cms with detachedSignature := detachedOf cms.certList }
    buildSignedDataHeader
  | .dataReady => buildSignedDataAttributes
  | .gotSig => buildSignedDataRest
  | .error => fail .invalidState

/-- The stop reason `ct_build_signed_data` stores after the work of a state. -/
def buildNext (st : BuildState) (sr : StopReason) (detached : Bool) : StopReason :=
  match st with
  | .start => if detached then .endData else .beginData
  | .dataReady => .needSig
  | .gotSig => .ready
  | .error => sr

/-- `ct_build_signed_data`. -/
def ctBuildSignedData : CmsM Unit :=
  signedDataHandler (fun sr _ => buildStateOf sr) buildAction
    fun st sr cms => buildNext st sr cms.detachedSignature

/-! ## Dispatch -/

/-- The handler a function pointer of `content_handlers` designates; every handler but the
two signed-data ones returns `KSBA_Not_Implemented`. -/
def runHandler : Handler → CmsM Unit
  | .ctParseSignedData => ctParseSignedData
  | .ctBuildSignedData => ctBuildSignedData
  | _ => fail .notImplemented

/-- The later calls of `ksba_cms_parse` and `ksba_cms_build`: the installed handler, or
`KSBA_Unsupported_CMS_Object` when there is none. -/
def runInstalledHandler : CmsM Unit := do
  match (← get).contentHandler with
  | some h => runHandler h
  | none => fail .unsupportedCmsObject

/-- The frame `ksba_cms_parse` and `ksba_cms_build` share: a fresh container is
initialised by `init`, any other runs the installed handler; the stop reason is returned. -/
def engineCall (init : CmsM Unit) : CmsM StopReason := do
  if (← get).stopReason = .none then init else runInstalledHandler
  return (← get).stopReason

/-- The initialisation of `ksba_cms_parse`: the content type is parsed and its row's parse
handler installed. -/
def parseInit : CmsM Unit := do
  parseContentInfo
  let oid := (← get).contentOid
  let row ← someOr .unknownCmsObject (contentHandlers.find? (some ·.oid == oid))
  let h ← someOr .unsupportedCmsObject row.parseHandler
  modify fun cms => { cms with contentCt := row.ct, contentHandler := some h,
                               stopReason := .gotContent }

/-- `ksba_cms_parse`. -/
def ksbaCmsParse : CmsM StopReason := engineCall parseInit

/-- The initialisation of `ksba_cms_build`: the writer, the handler and the inner content
type must have been set. -/
def buildInit : CmsM Unit := do
  let cms ← get
  failIf cms.writer.isNone .missingAction
  failIf cms.contentHandler.isNone .missingAction
  failIf cms.encapContType.isNone .missingAction
  modify fun cms => { cms with stopReason := .gotContent }

/-- `ksba_cms_build`. -/
def ksbaCmsBuild : CmsM StopReason := engineCall buildInit

end Ksba
