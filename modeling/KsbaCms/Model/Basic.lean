import Mathlib.Data.List.Basic

/-! # The vocabulary of `cms.c`

The enumerations the CMS code works with (`KsbaError`, `KsbaStopReason`,
`KsbaContentType`, the content handlers) and the state-error monad in which every
function of the container is written.

* A C function that mutates the container and returns an error code is an
  `EStateM Fault σ α`: it returns normally, returns an error code (`Fault.err`) with the
  container as the failing step left it, or stops the process in a failed `assert`
  (`Fault.assertion`).
* `bind_ok`, `bind_error`, `get_apply`, ... are the step lemmas of that monad; proofs
  about the container never unfold `EStateM.bind` themselves.
-/

namespace Ksba
set_option autoImplicit false

/-- A byte string: an image, a digest, the bytes handed to a writer or to `hash_fnc`. -/
abbrev Bytes := List UInt8

/-- The error codes `cms.c` returns, and those its collaborators pass through.
`eof` is the `-1` that `ksba_cms_hash_signed_attrs` returns for a nonzero index. -/
inductive KsbaError where
  | eof | generalError | outOfCore | invalidValue | conflict | missingAction
  | unknownCmsObject | unsupportedCmsObject | invalidState | bug | notImplemented
  | noData | noValue | valueNotFound | duplicateValue | invalidCmsObject | missingValue
  | invalidIndex | elementNotFound | encodingProblem | invalidOid | writeError | readError
  deriving DecidableEq, Repr

/-- `KsbaStopReason`: where the engine stopped. `none` is the fresh container's value,
`running` the marker the handlers store while they work. -/
inductive StopReason where
  | none | running | gotContent | needHash | beginData | endData | ready | needSig
  deriving DecidableEq, Repr

/-- `KsbaContentType`, the tags of the dispatcher table. -/
inductive ContentType where
  | none | data | signedData | envelopedData | digestedData | encryptedData | authData
  deriving DecidableEq, Repr

/-- The function pointers of the dispatcher table, one constructor a handler of `cms.c`. -/
inductive Handler where
  | ctParseData | ctParseSignedData | ctParseEnvelopedData | ctParseDigestedData
  | ctParseEncryptedData | ctBuildData | ctBuildSignedData | ctBuildEnvelopedData
  | ctBuildDigestedData | ctBuildEncryptedData
  deriving DecidableEq, Repr

/-- How a call ends when it does not return normally: with an error code, or in a failed
`assert`, which stops the process. -/
inductive Fault where
  | err (e : KsbaError)
  | assertion
  deriving DecidableEq, Repr

/-! ## The state-error monad -/

section Helpers
variable {m : Type → Type} [Monad m] [MonadExceptOf Fault m] {α : Type}

/-- `return err;` -/
def fail (e : KsbaError) : m α := throwThe Fault (.err e)

/-- `assert (c);` -/
def check (c : Bool) : m Unit := if c then pure () else throwThe Fault .assertion

/-- `if (c) return e;` -/
def failIf (c : Bool) (e : KsbaError) : m Unit := if c then fail e else pure ()

@[simp] theorem failIf_true (e : KsbaError) : (failIf true e : m Unit) = fail e := rfl
@[simp] theorem failIf_false (e : KsbaError) : (failIf false e : m Unit) = pure () := rfl

/-- An error code of a collaborator, passed through. -/
def liftErr (x : Except KsbaError α) : m α :=
  match x with
  | .ok a => pure a
  | .error e => fail e

/-- `if (!p) return e;` for a lookup that may come back empty. -/
def someOr (e : KsbaError) (x : Option α) : m α :=
  match x with
  | some a => pure a
  | none => fail e

/-- A computation that may fail or abort, run inside another. -/
def liftFault (x : Except Fault α) : m α :=
  match x with
  | .ok a => pure a
  | .error f => throwThe Fault f

end Helpers

section Pure
variable {α : Type}

@[simp] theorem except_error_bind {ε β : Type} (e : ε) (f : α → Except ε β) :
    (Except.error e >>= f) = .error e := rfl
@[simp] theorem except_ok_bind {ε β : Type} (a : α) (f : α → Except ε β) :
    (Except.ok a >>= f) = f a := rfl

@[simp] theorem fail_except (e : KsbaError) : (fail e : Except Fault α) = .error (.err e) := rfl
@[simp] theorem check_except_true : (check true : Except Fault Unit) = .ok () := rfl
@[simp] theorem check_except_false : (check false : Except Fault Unit) = .error .assertion := rfl
@[simp] theorem liftErr_except_ok (a : α) :
    (liftErr (.ok a) : Except Fault α) = .ok a := rfl
@[simp] theorem liftErr_except_error (e : KsbaError) :
    (liftErr (.error e) : Except Fault α) = .error (.err e) := rfl
@[simp] theorem someOr_except_some (e : KsbaError) (a : α) :
    (someOr e (some a) : Except Fault α) = .ok a := rfl
@[simp] theorem someOr_except_none (e : KsbaError) :
    (someOr e none : Except Fault α) = .error (.err e) := rfl

end Pure

section Monad
variable {σ α β : Type}

@[simp] theorem pure_apply (a : α) (s : σ) :
    (pure a : EStateM Fault σ α) s = .ok a s := rfl

@[simp] theorem get_apply (s : σ) : (get : EStateM Fault σ σ) s = .ok s s := rfl

@[simp] theorem set_apply (s t : σ) : (set t : EStateM Fault σ PUnit) s = .ok ⟨⟩ t := rfl

@[simp] theorem modify_apply (f : σ → σ) (s : σ) :
    (modify f : EStateM Fault σ PUnit) s = .ok ⟨⟩ (f s) := rfl

@[simp] theorem throw_apply (e : Fault) (s : σ) :
    (throw e : EStateM Fault σ α) s = .error e s := rfl

@[simp] theorem fail_apply (e : KsbaError) (s : σ) :
    (fail e : EStateM Fault σ α) s = .error (.err e) s := rfl

@[simp] theorem check_true (s : σ) : (check true : EStateM Fault σ Unit) s = .ok () s := rfl

@[simp] theorem check_false (s : σ) :
    (check false : EStateM Fault σ Unit) s = .error .assertion s := rfl

@[simp] theorem liftErr_ok (a : α) (s : σ) :
    (liftErr (.ok a) : EStateM Fault σ α) s = .ok a s := rfl

@[simp] theorem liftErr_error (e : KsbaError) (s : σ) :
    (liftErr (.error e) : EStateM Fault σ α) s = .error (.err e) s := rfl

@[simp] theorem someOr_some (e : KsbaError) (a : α) (s : σ) :
    (someOr e (some a) : EStateM Fault σ α) s = .ok a s := rfl

@[simp] theorem someOr_none (e : KsbaError) (s : σ) :
    (someOr e none : EStateM Fault σ α) s = .error (.err e) s := rfl

@[simp] theorem liftFault_ok (a : α) (s : σ) :
    (liftFault (.ok a) : EStateM Fault σ α) s = .ok a s := rfl

@[simp] theorem liftFault_error (f : Fault) (s : σ) :
    (liftFault (.error f) : EStateM Fault σ α) s = .error f s := rfl

@[simp] theorem get_bind (f : σ → EStateM Fault σ β) (s : σ) : (get >>= f) s = f s s := rfl

@[simp] theorem set_bind (t : σ) (f : PUnit → EStateM Fault σ β) (s : σ) :
    (set t >>= f) s = f ⟨⟩ t := rfl

@[simp] theorem modify_bind (g : σ → σ) (f : PUnit → EStateM Fault σ β) (s : σ) :
    (modify g >>= f) s = f ⟨⟩ (g s) := rfl

@[simp] theorem pure_bind_apply (a : α) (f : α → EStateM Fault σ β) (s : σ) :
    (pure a >>= f) s = f a s := rfl

@[simp] theorem fail_bind (e : KsbaError) (f : α → EStateM Fault σ β) (s : σ) :
    (fail e >>= f) s = .error (.err e) s := rfl

@[simp] theorem liftErr_ok_bind (a : α) (f : α → EStateM Fault σ β) (s : σ) :
    (liftErr (.ok a) >>= f) s = f a s := rfl

@[simp] theorem liftErr_error_bind (e : KsbaError) (f : α → EStateM Fault σ β) (s : σ) :
    (liftErr (.error e) >>= f) s = .error (.err e) s := rfl

@[simp] theorem someOr_some_bind (e : KsbaError) (a : α) (f : α → EStateM Fault σ β) (s : σ) :
    (someOr e (some a) >>= f) s = f a s := rfl

@[simp] theorem someOr_none_bind (e : KsbaError) (f : α → EStateM Fault σ β) (s : σ) :
    (someOr e none >>= f) s = .error (.err e) s := rfl

@[simp] theorem liftFault_ok_bind (a : α) (f : α → EStateM Fault σ β) (s : σ) :
    (liftFault (.ok a) >>= f) s = f a s := rfl

@[simp] theorem liftFault_error_bind (g : Fault) (f : α → EStateM Fault σ β) (s : σ) :
    (liftFault (.error g) >>= f) s = .error g s := rfl

@[simp] theorem check_true_bind (f : Unit → EStateM Fault σ β) (s : σ) :
    (check true >>= f) s = f () s := rfl

@[simp] theorem check_false_bind (f : Unit → EStateM Fault σ β) (s : σ) :
    (check false >>= f) s = .error .assertion s := rfl

@[simp] theorem map_modify_apply (f : PUnit → β) (g : σ → σ) (s : σ) :
    (f <$> (modify g : EStateM Fault σ PUnit)) s = .ok (f ⟨⟩) (g s) := rfl

@[simp] theorem failIf_bind (c : Bool) (e : KsbaError) (f : Unit → EStateM Fault σ β) (s : σ) :
    (failIf c e >>= f) s = if c then .error (.err e) s else f () s := by
  cases c <;> rfl

theorem bind_apply (x : EStateM Fault σ α) (f : α → EStateM Fault σ β) (s : σ) :
    (x >>= f) s = match x s with
      | .ok a s' => f a s'
      | .error e s' => .error e s' := by
  show EStateM.bind x f s = _
  unfold EStateM.bind
  cases x s <;> rfl

@[simp] theorem bind_ok {x : EStateM Fault σ α} {s s' : σ} {a : α}
    (f : α → EStateM Fault σ β) (h : x s = .ok a s') : (x >>= f) s = f a s' := by
  rw [bind_apply, h]

@[simp] theorem bind_error {x : EStateM Fault σ α} {s s' : σ} {e : Fault}
    (f : α → EStateM Fault σ β) (h : x s = .error e s') : (x >>= f) s = .error e s' := by
  rw [bind_apply, h]

/-- Every way a bound computation can succeed goes through a success of its first part. -/
theorem bind_eq_ok {x : EStateM Fault σ α} {f : α → EStateM Fault σ β} {s s' : σ} {b : β}
    (h : (x >>= f) s = .ok b s') : ∃ a t, x s = .ok a t ∧ f a t = .ok b s' := by
  rw [bind_apply] at h
  split at h
  · exact ⟨_, _, ‹_›, h⟩
  · cases h

/-- A bound computation fails when its first part fails, or when the rest does. -/
theorem bind_eq_error {x : EStateM Fault σ α} {f : α → EStateM Fault σ β} {s s' : σ}
    {e : Fault} (h : (x >>= f) s = .error e s') :
    x s = .error e s' ∨ ∃ a t, x s = .ok a t ∧ f a t = .error e s' := by
  rw [bind_apply] at h
  split at h
  · exact .inr ⟨_, _, ‹_›, h⟩
  · cases h; exact .inl ‹_›

end Monad

end Ksba
