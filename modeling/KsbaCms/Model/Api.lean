import KsbaCms.Model.Accessors

/-! # Runs of the public API

The public calls that change a container, one constructor each (the read-only accessors
change nothing and are left out), and the application's own writes into its writer
between BEGIN_DATA and the next build step. A call that returns, with or without an
error code, leaves a container the next call sees; a failed `assert` ends the run.

* `Reachable dim`: the containers some sequence of calls leads to from `ksba_cms_new`;
  `dim` is `DIM(cl->msg_digest)`, which the repository's headers fix.
* `runCalls`: a list of calls in order, `none` if one aborts.
* `Drives call s rs t`: successive calls of one entry point lead from `s` to `t`, each
  returning, with the stop reasons `rs`.
-/

namespace Ksba
set_option autoImplicit false

/-- A call that changes the container. -/
inductive Call where
  | setReaderWriter (r : Option Reader) (w : Option Writer)
  | parse
  | build
  | setContentType (what : Int) (type : ContentType)
  | addDigestAlgo (oid : Option String)
  | addSigner (cert : Option Cert)
  | setMessageDigest (idx : Int) (digest : Option Bytes)
  | setHashFunction (fnc : Option Nat) (arg : Nat)
  | getCert (idx : Int)
  | getDigestAlgo (idx : Int)
  | writeData (b : Bytes)

/-- What a call does to the container. -/
def Call.run (dim : Nat) : Call → CmsM Unit
  | .setReaderWriter r w => ksbaCmsSetReaderWriter r w
  | .parse => do let _ ← ksbaCmsParse
  | .build => do let _ ← ksbaCmsBuild
  | .setContentType what type => ksbaCmsSetContentType what type
  | .addDigestAlgo oid => ksbaCmsAddDigestAlgo oid
  | .addSigner cert => ksbaCmsAddSigner cert
  | .setMessageDigest idx digest => ksbaCmsSetMessageDigest dim idx digest
  | .setHashFunction fnc arg => ksbaCmsSetHashFunction fnc arg
  | .getCert idx => do let _ ← ksbaCmsGetCert idx
  | .getDigestAlgo idx => do let _ ← ksbaCmsGetDigestAlgo idx
  | .writeData b => writeChunk (.data b)

/-- The container after a call, unless the call aborted. -/
def Call.next (dim : Nat) (c : Call) (s : Cms) : Option Cms :=
  match c.run dim s with
  | .ok _ s' => some s'
  | .error (.err _) s' => some s'
  | .error .assertion _ => none

/-- The containers a sequence of calls leads to from `ksba_cms_new`. -/
inductive Reachable (dim : Nat) : Cms → Prop where
  | init : Reachable dim ksbaCmsNew
  | step {s s' : Cms} (c : Call) : Reachable dim s → c.next dim s = some s' → Reachable dim s'

/-- Successive calls of one entry point, each returning, with the stop reasons they
return: the application's loop around `ksba_cms_parse` or `ksba_cms_build`. -/
inductive Drives (call : CmsM StopReason) : Cms → List StopReason → Cms → Prop where
  | nil (s : Cms) : Drives call s [] s
  | cons {s s' t : Cms} {r : StopReason} {rs : List StopReason} :
      call s = .ok r s' → Drives call s' rs t → Drives call s (r :: rs) t

/-- A list of calls in order; `none` if one of them aborts. -/
def runCalls (dim : Nat) : Cms → List Call → Option Cms
  | s, [] => some s
  | s, c :: cs => (c.next dim s).bind fun s' => runCalls dim s' cs

@[simp] theorem runCalls_nil (dim : Nat) (s : Cms) : runCalls dim s [] = some s := rfl

@[simp] theorem runCalls_cons (dim : Nat) (s : Cms) (c : Call) (cs : List Call) :
    runCalls dim s (c :: cs) = (c.next dim s).bind fun s' => runCalls dim s' cs := rfl

theorem runCalls_append (dim : Nat) (s : Cms) (cs ds : List Call) :
    runCalls dim s (cs ++ ds) = (runCalls dim s cs).bind fun t => runCalls dim t ds := by
  induction cs generalizing s with
  | nil => rfl
  | cons c cs ih =>
    simp only [List.cons_append, runCalls_cons]
    cases c.next dim s <;> simp [ih]

/-- What every call keeps holds after every run. -/
theorem runCalls_preserves {dim : Nat} {P : Cms → Prop}
    (hstep : ∀ {c : Call} {s s' : Cms}, P s → c.next dim s = some s' → P s') :
    ∀ {cs : List Call} {s t : Cms}, P s → runCalls dim s cs = some t → P t := by
  intro cs
  induction cs with
  | nil => intro s t hs h; cases h; exact hs
  | cons c cs ih =>
    intro s t hs h
    simp only [runCalls_cons] at h
    cases hc : c.next dim s with
    | none => simp [hc] at h
    | some s' => simp only [hc, Option.bind_some] at h; exact ih (hstep hs hc) h

/-- A run from a reachable container ends in a reachable one. -/
theorem Reachable.runCalls {dim : Nat} {s t : Cms} (hs : Reachable dim s) :
    ∀ {cs : List Call}, Ksba.runCalls dim s cs = some t → Reachable dim t :=
  runCalls_preserves (fun hs hc => .step _ hs hc) hs

/-- The container a list of calls leads to from `ksba_cms_new` is reachable. -/
theorem Reachable.of_run {dim : Nat} {t : Cms} (cs : List Call)
    (h : Ksba.runCalls dim ksbaCmsNew cs = some t) : Reachable dim t :=
  Reachable.init.runCalls h

end Ksba
