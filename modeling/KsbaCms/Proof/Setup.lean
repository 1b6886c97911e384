import KsbaCms.Proof.StopReason
import KsbaCms.Proof.Faults

/-! # The set-up calls

What `ksba_cms_add_signer`, `ksba_cms_set_message_digest`, `ksba_cms_get_cert` and
`ksba_cms_set_reader_writer` do to the container.

* `runCalls_addSigners`: `ksba_cms_add_signer` puts each new record in front of
  `cms->cert_list`, so after a sequence of calls the records stand in the reverse order of
  the calls.
* `signer_index_counts_later_signers`: `ksba_cms_set_message_digest` and
  `ksba_cms_get_cert` count from the head, so a signer's index is the number of signers
  added after it. The documentation of `ksba_cms_set_message_digest` says it is the number
  added before it ("the first signer has the index 0").
* `set_reader_writer_outcome`: a call that fails changes nothing; one that returns sets
  both directions to what it was given, also the one it was given as NULL.
* `Call.error_unchanged`: the same holds of every call but the two entry points, each of
  which checks all it needs before it writes (`FailsClean`).
-/

namespace Ksba
set_option autoImplicit false

/-! ## Signer records -/

theorem next_addSigner (dim : Nat) (cert : Option Cert) (s : Cms) :
    (Call.addSigner cert).next dim s =
      some { s with certList := ⟨cert, [], none, none⟩ :: s.certList } := rfl

/-- After `ksba_cms_add_signer` for `c₀, …, cₙ₋₁`, in that order, the list holds their
records from the last one added to the first, then the records it held before. -/
theorem runCalls_addSigners (dim : Nat) (certs : List Cert) (s : Cms) :
    runCalls dim s (certs.map fun c => .addSigner (some c)) =
      some { s with certList :=
        (certs.map fun c => (⟨some c, [], none, none⟩ : CertList)).reverse ++ s.certList } := by
  induction certs generalizing s with
  | nil => rfl
  | cons c cs ih => simp [next_addSigner, ih]

/-- `ksba_cms_set_message_digest (cms, i, d, len)` on the `i`-th record from the head. -/
theorem ksbaCmsSetMessageDigest_at {dim i : Nat} {d : Bytes} {s : Cms} {cl : CertList}
    (hcl : s.certList[i]? = some cl) (hd : d ≠ []) (hdim : d.length ≤ dim) :
    ksbaCmsSetMessageDigest dim i (some d) s =
      .ok () { s with certList := s.certList.set i { cl with msgDigest := d } } := by
  have hi : ¬((i : Int) < 0) := by omega
  simp [ksbaCmsSetMessageDigest, hcl, hd, Nat.not_lt.mpr hdim, hi]

/-- `ksba_cms_get_cert (cms, i)` on the `i`-th record from the head: it hands out the
certificate and leaves the record without one. -/
theorem ksbaCmsGetCert_at {i : Nat} {s : Cms} {cl : CertList} (hcl : s.certList[i]? = some cl) :
    ksbaCmsGetCert i s =
      .ok cl.cert { s with certList := s.certList.set i { cl with cert := none } } := by
  have hi : ¬((i : Int) < 0) := by omega
  simp [ksbaCmsGetCert, hcl, hi]

/-- Over any sequence of `ksba_cms_add_signer` calls, the signer of `c`, added after the
signers `pre` and before the signers `post`, has the index `post.length`: that is the
index at which `ksba_cms_set_message_digest` stores a digest into its record and
`ksba_cms_get_cert` returns `c`. -/
theorem signer_index_counts_later_signers {dim : Nat} {s t : Cms} {pre post : List Cert}
    {c : Cert} {d : Bytes}
    (h : runCalls dim s ((pre ++ c :: post).map fun c => .addSigner (some c)) = some t)
    (hd : d ≠ []) (hdim : d.length ≤ dim) :
    ksbaCmsSetMessageDigest dim post.length (some d) t =
        .ok () { t with certList := t.certList.set post.length ⟨some c, d, none, none⟩ } ∧
      ksbaCmsGetCert post.length t =
        .ok (some c) { t with certList := t.certList.set post.length ⟨none, [], none, none⟩ } := by
  rw [runCalls_addSigners, Option.some.injEq] at h
  subst h
  have hcl : (((pre ++ c :: post).map fun c => (⟨some c, [], none, none⟩ : CertList)).reverse ++
      s.certList)[post.length]? = some ⟨some c, [], none, none⟩ := by
    simp [List.getElem_append_right]
  exact ⟨ksbaCmsSetMessageDigest_at hcl hd hdim, ksbaCmsGetCert_at hcl⟩

/-- Two certificates told apart by their images. -/
def firstCert : Cert := ⟨.nil, [1]⟩

def secondCert : Cert := ⟨.nil, [2]⟩

theorem second_signer_has_index_zero :
    ∃ t, runCalls 20 ksbaCmsNew [.addSigner (some firstCert), .addSigner (some secondCert)] =
        some t ∧
      (ksbaCmsSetMessageDigest 20 0 (some [1, 2, 3]) t =
          .ok () { t with certList := t.certList.set 0 ⟨some secondCert, [1, 2, 3], none, none⟩ } ∧
        ksbaCmsGetCert 0 t =
          .ok (some secondCert) { t with certList := t.certList.set 0 ⟨none, [], none, none⟩ }) :=
  ⟨_, rfl, @signer_index_counts_later_signers 20 ksbaCmsNew _ [firstCert] [] secondCert [1, 2, 3]
    rfl (by decide) (by decide)⟩

/-- The first signer added is not the signer of index 0: with two signers, index 0 takes
the digest into the second one's record and hands out the second certificate. -/
theorem first_signer_not_index_zero :
    ∃ t u v, runCalls 20 ksbaCmsNew [.addSigner (some firstCert), .addSigner (some secondCert)] =
        some t ∧
      ksbaCmsSetMessageDigest 20 0 (some [1, 2, 3]) t = .ok () u ∧
      u.certList = [⟨some secondCert, [1, 2, 3], none, none⟩, ⟨some firstCert, [], none, none⟩] ∧
      ksbaCmsGetCert 0 t = .ok (some secondCert) v ∧ secondCert ≠ firstCert :=
  ⟨_, _, _, rfl, rfl, rfl, rfl, by decide⟩

/-! ## The reader and the writer -/

/-- `ksba_cms_set_reader_writer (cms, r, w)` fails, leaving the container as it was, unless
one of `r` and `w` is given and no direction given is set already; when it returns, it has
stored both `r` and `w`. -/
theorem set_reader_writer_outcome (r : Option Reader) (w : Option Writer) (s : Cms) :
    (∀ e s', ksbaCmsSetReaderWriter r w s = .error e s' → s' = s) ∧
    ∀ s', ksbaCmsSetReaderWriter r w s = .ok () s' ↔
      (r.isSome ∨ w.isSome) ∧ (r.isSome → s.reader = none) ∧ (w.isSome → s.writer = none) ∧
        s' = { s with reader := r, writer := w } := by
  constructor
  · intro e s' h
    simp only [ksbaCmsSetReaderWriter, get_bind, failIf_bind] at h
    split_ifs at h <;> cases h <;> rfl
  · intro s'
    cases r <;> cases w <;> cases hr : s.reader <;> cases hw : s.writer <;>
      simp [ksbaCmsSetReaderWriter, hr, hw, eq_comm]

/-- A writer set first is cleared by a later call that sets only the reader. -/
theorem reader_call_clears_writer :
    ∃ s t, runCalls 0 ksbaCmsNew [.setReaderWriter none (some unboundedWriter)] = some s ∧
      s.writer = some unboundedWriter ∧
      ksbaCmsSetReaderWriter (some (signedReader false)) none s = .ok () t ∧
      t.reader.isSome ∧ t.writer = none :=
  ⟨_, _, rfl, rfl, rfl, rfl, rfl⟩

/-! ## Failed calls change nothing -/

/-- `x` fails only before it changes the container. -/
def FailsClean {α : Type} (x : CmsM α) : Prop := ∀ s e s', x s = .error e s' → s' = s

namespace FailsClean

variable {α γ : Type}

theorem pure (a : α) : FailsClean (Pure.pure a : CmsM α) := fun _ _ _ h => by cases h

theorem modify (g : Cms → Cms) : FailsClean (modify g : CmsM PUnit) := fun _ _ _ h => by cases h

/-- A check that leaves the container alone, then a call that fails cleanly. -/
theorem bind {x : CmsM α} {k : α → CmsM γ} (hx : Preserves id x) (hk : ∀ a, FailsClean (k a)) :
    FailsClean (x >>= k) := fun s e s' h => by
  rw [bind_apply] at h
  cases hxs : x s with
  | ok a t =>
    rw [hxs] at h
    exact (hk a t e s' h).trans (hx.of_ok hxs)
  | error e' t =>
    rw [hxs] at h
    cases h
    exact hx.of_error hxs

theorem bind_pure {x : CmsM α} (hx : FailsClean x) : FailsClean (x >>= fun _ => Pure.pure ()) :=
  fun s e s' h => by
  rw [bind_apply] at h
  cases hxs : x s with
  | ok a t => rw [hxs] at h; cases h
  | error _ t => rw [hxs] at h; cases h; exact hx s _ _ hxs

theorem ite {c : Prop} [Decidable c] {x y : CmsM α} (hx : FailsClean x) (hy : FailsClean y) :
    FailsClean (if c then x else y) := by
  split <;> assumption

end FailsClean

theorem failsClean_getCert (idx : Int) : FailsClean (ksbaCmsGetCert idx) := by
  intro s e s'
  simp only [ksbaCmsGetCert]
  split_ifs
  · simp
  · simp only [pure_bind_apply, get_bind]
    cases s.certList[idx.toNat]? <;> simp

theorem failsClean_getDigestAlgo (idx : Int) : FailsClean (ksbaCmsGetDigestAlgo idx) := by
  intro s e s'
  simp only [ksbaCmsGetDigestAlgo, get_bind]
  cases s.signerInfoRoot <;> cases s.cacheDigestAlgo <;> simp only [] <;> (try split_ifs) <;> simp

/-- Every call but the two entry points checks before it writes: when it fails, it leaves
the container as it was. (`ksba_cms_parse` and `ksba_cms_build` do not: a signed-data
handler stores RUNNING before its work.) -/
theorem Call.error_unchanged {dim : Nat} {c : Call} {s s' : Cms} {e : Fault}
    (hc : c ≠ .parse ∧ c ≠ .build) (h : c.run dim s = .error e s') : s' = s := by
  have hf : FailsClean (c.run dim) := by
    cases c
    case parse => exact absurd rfl hc.1
    case build => exact absurd rfl hc.2
    case setReaderWriter r w =>
      exact .bind .get fun _ => .bind (.failIf _ _) fun _ => .bind (.failIf _ _) fun _ => .modify _
    case setContentType what type =>
      exact .bind (.failIf _ _) fun _ => .bind (.someOr _ _) fun _ => .bind (.someOr _ _) fun _ =>
        .ite (.modify _) (.modify _)
    case addDigestAlgo oid => exact .bind (.someOr _ _) fun _ => .modify _
    case addSigner cert => exact .modify _
    case setMessageDigest idx dg =>
      exact .bind (.someOr _ _) fun _ => .bind (.failIf _ _) fun _ => .bind (.failIf _ _) fun _ =>
        .bind .get fun _ => .bind (.someOr _ _) fun _ => .modify _
    case setHashFunction fnc arg => exact .modify _
    case getCert idx => exact (failsClean_getCert idx).bind_pure
    case getDigestAlgo idx => exact (failsClean_getDigestAlgo idx).bind_pure
    case writeData b =>
      exact .bind .get fun _ => .bind (.someOr _ _) fun _ => .bind (.liftErr _) fun _ => .modify _
  exact hf s e s' h

end Ksba
