import KsbaCms.Proof.BuildRun

/-! # The length of the digestAlgorithms SET

`build_signed_data_header` writes the header of the digestAlgorithms SET with the definite
length 11 (`FIXME: We write a set with one element and assume a length of 11`), then one
AlgorithmIdentifier per OID of `cms->digest_algos`, SEQUENCE { OBJECT IDENTIFIER, NULL }
as `_ksba_der_write_algorithm_identifier` encodes it.

* `algorithmIdentifierBytes_length`: an AlgorithmIdentifier is at least 6 bytes long, and
  11 exactly when its OID has 5 content bytes;
* `identifiers_length_eq_eleven`: the AlgorithmIdentifiers of a list of OIDs fill 11 bytes
  exactly when the list is one such OID;
* `digest_set_length_fixed`: START writes the SET header with the length 11, then the
  AlgorithmIdentifiers of the list, whatever the list.
-/

namespace Ksba
set_option autoImplicit false

/-! ## One AlgorithmIdentifier -/

theorem derLength_length_of_lt {n : Nat} (h : n < 128) : (derLength n).length = 1 := by
  simp [derLength, h]

theorem one_le_derLength_length (n : Nat) : 1 ≤ (derLength n).length := by
  unfold derLength
  split <;> simp

/-- An AlgorithmIdentifier is the header of a SEQUENCE and the content, the OID's header
and content and the two bytes of NULL: 11 bytes when both length fields take one byte and
the OID has 5 content bytes, and only then. -/
theorem algorithmIdentifierBytes_length {oid : String} {b : Bytes}
    (h : algorithmIdentifierBytes oid = .ok b) :
    ∃ v, oidFromStr oid = some v ∧ 6 ≤ b.length ∧ (b.length = 11 ↔ v.length = 5) := by
  unfold algorithmIdentifierBytes at h
  cases hv : oidFromStr oid with
  | none => simp [hv] at h
  | some v =>
    simp only [hv, Except.ok.injEq] at h
    subst h
    refine ⟨v, rfl, ?_⟩
    generalize hbody : (6 :: derLength v.length ++ v ++ [5, 0] : Bytes) = body
    have hB : body.length = (derLength v.length).length + v.length + 3 := by
      rw [← hbody]
      simp only [List.length_append, List.length_cons, List.length_nil]
      omega
    simp only [List.length_append, List.length_cons]
    generalize body.length = B at hB ⊢
    have h₁ := one_le_derLength_length v.length
    have h₂ := one_le_derLength_length B
    refine ⟨by omega, fun h11 => ?_, fun h5 => ?_⟩
    · rw [derLength_length_of_lt (by omega)] at h11
      rw [derLength_length_of_lt (by omega)] at hB
      omega
    · rw [derLength_length_of_lt (by omega)] at hB
      rw [derLength_length_of_lt (by omega)]
      omega

/-! ## The AlgorithmIdentifiers of a list -/

theorem except_mapM_cons_ok {α β ε : Type} {f : α → Except ε β} {a : α} {l : List α}
    {bs : List β} :
    (a :: l).mapM f = .ok bs ↔ ∃ b bs', f a = .ok b ∧ l.mapM f = .ok bs' ∧ bs = b :: bs' := by
  simp only [List.mapM_cons]
  cases f a <;> cases l.mapM f <;> simp [eq_comm]

/-- The AlgorithmIdentifiers of the OIDs of `l` fill 11 bytes exactly when `l` is one OID of
5 content bytes: none fill 0 bytes, two or more at least 12. -/
theorem identifiers_length_eq_eleven {l : List String} {bs : List Bytes}
    (h : l.mapM algorithmIdentifierBytes = .ok bs) :
    bs.flatten.length = 11 ↔ ∃ oid v, l = [oid] ∧ oidFromStr oid = some v ∧ v.length = 5 := by
  rcases l with _ | ⟨o₁, _ | ⟨o₂, l⟩⟩
  · cases h
    simp
  · obtain ⟨b, _, hb, h', rfl⟩ := except_mapM_cons_ok.mp h
    cases h'
    obtain ⟨v, hv, -, h11⟩ := algorithmIdentifierBytes_length hb
    simp [h11, hv]
  · obtain ⟨b₁, _, hb₁, h', rfl⟩ := except_mapM_cons_ok.mp h
    obtain ⟨b₂, _, hb₂, -, rfl⟩ := except_mapM_cons_ok.mp h'
    obtain ⟨-, -, h₁, -⟩ := algorithmIdentifierBytes_length hb₁
    obtain ⟨-, -, h₂, -⟩ := algorithmIdentifierBytes_length hb₂
    simp only [List.flatten_cons, List.length_append, List.cons.injEq, reduceCtorEq, and_false,
      false_and, exists_false, iff_false]
    omega

/-! ## What START writes -/

theorem writeAlgorithmIdentifiers_ok {l : List String} {s t : Cms} {u : Unit}
    (h : writeAlgorithmIdentifiers l s = .ok u t) :
    ∃ bs, l.mapM algorithmIdentifierBytes = .ok bs := by
  induction l generalizing s with
  | nil => exact ⟨[], rfl⟩
  | cons o l ih =>
    obtain ⟨_, t₁, h₁, h⟩ := bind_eq_ok h
    obtain ⟨_, t₂, h₂, -⟩ := bind_eq_ok h₁
    cases hb : algorithmIdentifierBytes o with
    | error e => simp [hb] at h₂
    | ok b =>
      obtain ⟨bs, hbs⟩ := ih h
      exact ⟨b :: bs, except_mapM_cons_ok.mpr ⟨b, bs, hb, hbs, rfl⟩⟩

/-- START computes the AlgorithmIdentifier of every OID of the list it writes. -/
theorem buildSignedDataHeader_identifiers_ok {s t : Cms} (h : buildSignedDataHeader s = .ok () t) :
    ∃ bs, s.digestAlgos.mapM algorithmIdentifierBytes = .ok bs := by
  unfold buildSignedDataHeader at h
  obtain ⟨_, _, h⟩ := (berWriteTl_emits _ _ _ _).bind_ok h
  simp only [get_bind] at h
  obtain ⟨_, _, h⟩ := (writeOid_emits _).bind_ok h
  obtain ⟨_, _, h⟩ := (berWriteTl_emits _ _ _ _).bind_ok h
  obtain ⟨_, _, h⟩ := (berWriteTl_emits _ _ _ _).bind_ok h
  obtain ⟨_, _, h⟩ := (berWriteTl_emits _ _ _ _).bind_ok h
  obtain ⟨_, _, h⟩ := (writeChunk_emits _).bind_ok h
  obtain ⟨_, _, h⟩ := (berWriteTl_emits _ _ _ _).bind_ok h
  simp only [get_bind] at h
  obtain ⟨_, _, h, -⟩ := bind_eq_ok h
  exact writeAlgorithmIdentifiers_ok h

/-- Whatever OIDs `cms->digest_algos` holds, START writes the header of the
digestAlgorithms SET with the definite length 11 and, right after it, the
AlgorithmIdentifiers of those OIDs; these fill 11 bytes exactly when the list is one OID of
5 content bytes (such as SHA-1, `1.3.14.3.2.26`). -/
theorem digest_set_length_fixed {s t : Cms} (h : buildSignedDataHeader s = .ok () t) :
    (∃ pre post, Appended s.writer t.writer
        (pre ++ .tl typeSet .universal true 11 :: (s.digestAlgos.map .algorithmIdentifier ++ post))) ∧
      ∃ bs, s.digestAlgos.mapM algorithmIdentifierBytes = .ok bs ∧
        (bs.flatten.length = 11 ↔
          ∃ oid v, s.digestAlgos = [oid] ∧ oidFromStr oid = some v ∧ v.length = 5) := by
  obtain ⟨bs, hbs⟩ := buildSignedDataHeader_identifiers_ok h
  refine ⟨⟨.tl typeSequence .universal true 0 :: oidChunks s.contentOid ++
      [.tl 0 .context true 0, .tl typeSequence .universal true 0, .tl typeInteger .universal false 1,
        .data [0x03]],
    .tl typeSequence .universal true 0 :: oidChunks s.encapContType ++
      if s.detachedSignature then [] else [.tl 0 .context true 0], ?_⟩,
    bs, hbs, identifiers_length_eq_eleven hbs⟩
  have ha := (buildSignedDataHeader_emits s () t h).2
  simpa only [headerChunks, List.append_assoc, List.cons_append, List.singleton_append] using ha

/-- A container at START with the SHA-1 and SHA-256 OIDs. -/
def twoAlgoHeaderCms : Cms :=
  { writer := some unboundedWriter, contentOid := some "1.2.840.113549.1.7.2",
    encapContType := some "1.2.840.113549.1.7.1",
    digestAlgos := ["2.16.840.1.101.3.4.2.1", "1.3.14.3.2.26"] }

theorem two_algo_header_set_length :
    ∃ t, buildSignedDataHeader twoAlgoHeaderCms = .ok () t ∧
      ((∃ pre post, Appended twoAlgoHeaderCms.writer t.writer
          (pre ++ .tl typeSet .universal true 11 ::
            (twoAlgoHeaderCms.digestAlgos.map .algorithmIdentifier ++ post))) ∧
        ∃ bs, twoAlgoHeaderCms.digestAlgos.mapM algorithmIdentifierBytes = .ok bs ∧
          (bs.flatten.length = 11 ↔ ∃ oid v, twoAlgoHeaderCms.digestAlgos = [oid] ∧
            oidFromStr oid = some v ∧ v.length = 5)) := by
  obtain ⟨t, h⟩ : ∃ t, buildSignedDataHeader twoAlgoHeaderCms = .ok () t := ⟨_, rfl⟩
  exact ⟨t, h, digest_set_length_fixed h⟩

/-- A build set up through the API with SHA-1 and then SHA-256 added, up to START. -/
def twoAlgoBuild : List Call :=
  [.setReaderWriter none (some unboundedWriter), .setContentType 0 .signedData,
    .setContentType 1 .data, .addDigestAlgo (some "1.3.14.3.2.26"),
    .addDigestAlgo (some "2.16.840.1.101.3.4.2.1"), .addSigner (some sampleCert), .build, .build]

/-- With SHA-1 and SHA-256 registered, START writes, after the seven chunks before it, the
SET header `31 0B`, announcing 11 bytes, and then two AlgorithmIdentifiers of 26 bytes. -/
theorem two_digest_algos_outgrow_set :
    ∃ t w bs, runCalls 32 ksbaCmsNew twoAlgoBuild = some t ∧ t.stopReason = .beginData ∧
      t.writer = some w ∧
      (w.out.drop 7).take 3 = [.tl typeSet .universal true 11,
        .algorithmIdentifier "2.16.840.1.101.3.4.2.1", .algorithmIdentifier "1.3.14.3.2.26"] ∧
      berWriteTlBytes typeSet .universal true 11 = .ok [0x31, 0x0B] ∧
      ["2.16.840.1.101.3.4.2.1", "1.3.14.3.2.26"].mapM algorithmIdentifierBytes = .ok bs ∧
      bs.flatten.length = 26 :=
  ⟨_, _, _, rfl, rfl, rfl, rfl, rfl, rfl, rfl⟩

end Ksba
