import KsbaCms.Model.Accessors
import KsbaCms.Proof.Layout

/-! # Reads of the signer info and its image

`ksba_cms_get_issuer_serial`, `ksba_cms_get_message_digest`, `ksba_cms_get_sig_val` and
`ksba_cms_hash_signed_attrs` copy or hash byte ranges of `cms->signer_info.image`. They
compute each range from the `off`, `nhdr` and `len` of the nodes they find, in C `int`,
and never compare it with the image.

* `laidOut`: the layout these reads take for granted. A node in the image has a header
  and ends in the image, and its right sibling, if in the image, starts where it ends or
  later. `forward`: its offset and length are not negative.
* `signer_info_reads_within_image`: over such a tree and an image shorter than
  `INT_MAX - 3` bytes, every range the four read is in the image, and no offset or length
  they compute leaves the `int` range.
* `issuer_serial_outputs`: `ksba_cms_get_issuer_serial` hands out every output asked for
  and no error, or an error and nothing, except when the serial part fails after the
  issuer string was produced: then the issuer string is handed out with the error.
-/

namespace Ksba
set_option autoImplicit false

/-! ## The layout the reads take for granted -/

/-- The C `int` range, in which `cms.c` computes the offsets and lengths it reads. -/
def IntFits (v : Int) : Prop := -2147483648 ≤ v ∧ v ≤ 2147483647

instance : DecidablePred IntFits := fun _ => inferInstanceAs (Decidable (_ ∧ _))

/-- The byte range `[start, start + len)` lies in the image. -/
def InImage (img : Bytes) (r : Int × Int) : Prop := 0 ≤ r.1 ∧ 0 ≤ r.2 ∧ r.1 + r.2 ≤ img.length

instance (img : Bytes) : DecidablePred (InImage img) :=
  fun _ => inferInstanceAs (Decidable (_ ∧ _ ∧ _))

/-- `off` of a node; the null pointer is not in the image either. -/
def AsnNode.off : AsnNode → Int
  | .nil => -1
  | .node i _ _ => i.off

/-- A node in the image has a header and ends in the image, and its right sibling, when
in the image, starts where it ends or later. -/
def laidOut (img : Bytes) : AsnNode → Prop
  | .nil => True
  | .node i _ r => i.off ≠ -1 → 1 ≤ i.nhdr ∧ i.off + i.nhdr + i.len ≤ img.length ∧
      (r.off ≠ -1 → i.off + i.nhdr + i.len ≤ r.off)

instance (img : Bytes) : DecidablePred (laidOut img)
  | .nil => inferInstanceAs (Decidable True)
  | .node i _ r => inferInstanceAs (Decidable (i.off ≠ -1 → _ ∧ _ ∧ (r.off ≠ -1 → _)))

/-- A node in the image has an offset and a length that are not negative. -/
def forward : AsnNode → Prop
  | .nil => True
  | .node i _ _ => i.off ≠ -1 → 0 ≤ i.off ∧ 0 ≤ i.len

instance : DecidablePred forward
  | .nil => inferInstanceAs (Decidable True)
  | .node i _ _ => inferInstanceAs (Decidable (i.off ≠ -1 → _ ∧ _))

section Layout

variable {img : Bytes} {root : AsnNode}

/-- A node of a laid-out tree that is in the image lies in it, with a header. -/
theorem node_in_image (hl : ∀ n ∈ walkChain root, laidOut img n)
    (hf : ∀ n ∈ walkChain root, forward n) {i : NodeInfo} {d r : AsnNode}
    (hn : .node i d r ∈ walkChain root) (ho : i.off ≠ -1) :
    0 ≤ i.off ∧ 0 ≤ i.len ∧ 1 ≤ i.nhdr ∧ i.off + i.nhdr + i.len ≤ img.length :=
  have hl' := hl _ hn ho
  have hf' := hf _ hn ho
  ⟨hf'.1, hf'.2, hl'.1, hl'.2.1⟩

/-- The node `findNodeAt` returns, when it is in the image. -/
theorem findNodeAt_in_image (hl : ∀ n ∈ walkChain root, laidOut img n)
    (hf : ∀ n ∈ walkChain root, forward n) {path : String} {i : NodeInfo} {d r : AsnNode}
    (h : findNodeAt root path = some (.node i d r)) (ho : i.off ≠ -1) :
    0 ≤ i.off ∧ 0 ≤ i.len ∧ 1 ≤ i.nhdr ∧ i.off + i.nhdr + i.len ≤ img.length :=
  node_in_image hl hf (mem_walkChain_of_findNodeAt h) ho

theorem serialRange_in_image (hl : ∀ n ∈ walkChain root, laidOut img n)
    (hf : ∀ n ∈ walkChain root, forward n) {r : Int × Int} (h : serialRange root = .ok r) :
    InImage img r := by
  unfold serialRange at h
  split at h
  · rename_i hfind
    split_ifs at h with ho
    cases h
    have := findNodeAt_in_image hl hf hfind ho
    simp only [InImage]
    omega
  · cases h

theorem signedAttrsRange_in_image (hl : ∀ n ∈ walkChain root, laidOut img n)
    (hf : ∀ n ∈ walkChain root, forward n) {r : Int × Int} (h : signedAttrsRange root = some r) :
    InImage img r := by
  unfold signedAttrsRange at h
  split at h
  · rename_i hfind
    split_ifs at h with ho
    cases h
    have := findNodeAt_in_image hl hf hfind ho
    simp only [InImage]
    omega
  · cases h

/-- The slice of `ksba_cms_get_sig_val` ends where the signatureAlgorithm ends, or where
the right sibling ends, which starts after it. -/
theorem sigValRange_in_image (hl : ∀ n ∈ walkChain root, laidOut img n)
    (hf : ∀ n ∈ walkChain root, forward n) {r : Int × Int} (h : sigValRange root = some r) :
    InImage img r := by
  unfold sigValRange at h
  split at h
  · rename_i i d rt hfind
    split_ifs at h with ho
    cases h
    have hn := mem_walkChain_of_findNodeAt hfind
    have := node_in_image hl hf hn ho
    simp only [InImage]
    cases rt with
    | nil => simp only; omega
    | node ri rd rr =>
      simp only
      split_ifs with hro
      · omega
      · have hrn : AsnNode.node ri rd rr ∈ walkChain root :=
          walkChain_subset_of_mem hn (walkChain_right_subset i d _ (List.mem_cons_self _ _))
        have := node_in_image hl hf hrn hro
        have hafter := (hl _ hn ho).2.2 hro
        simp only [AsnNode.off] at hafter
        omega
  · cases h

theorem messageDigestIn_in_image (hl : ∀ n ∈ walkChain root, laidOut img n)
    (hf : ∀ n ∈ walkChain root, forward n) {nsig : AsnNode} (hs : nsig ∈ walkChain root)
    {r : Int × Int} (h : messageDigestIn img nsig = .ok r) : InImage img r := by
  unfold messageDigestIn at h
  split at h
  · cases h
  · rename_i n hfind
    split_ifs at h
    split at h
    · rename_i i o od r'
      split_ifs at h with ht ho
      cases h
      have hn := walkChain_subset_of_mem hs (mem_walkChain_of_asnFindTypeValue hfind)
      have ho_mem : AsnNode.node o od .nil ∈ walkChain (.node i (.node o od .nil) r') := by
        simp [walkChain]
      have := node_in_image hl hf (walkChain_subset_of_mem hn ho_mem) ho
      simp only [InImage]
      omega
    · cases h

end Layout

/-! ## The four reads -/

/-- Over a laid-out signer info whose nodes in the image go forward, and an image shorter
than `INT_MAX - 3` bytes, the serial copy of `ksba_cms_get_issuer_serial`, the digest copy
of `ksba_cms_get_message_digest`, the slice `ksba_cms_get_sig_val` hands on and the slice
`ksba_cms_hash_signed_attrs` hashes all lie in the image, and `n->off + n->nhdr`,
`n->len + 4`, the two TLV sizes summed and `n->nhdr + n->len - 1` stay in the `int`
range. -/
theorem signer_info_reads_within_image {cms : Cms} {root : AsnNode} {img : Bytes}
    (hr : cms.signerInfoRoot = some root) (hi : cms.signerInfoImage = some img)
    (hl : ∀ n ∈ walkChain root, laidOut img n) (hf : ∀ n ∈ walkChain root, forward n)
    (hlen : img.length + 4 ≤ 2147483647) :
    (∀ r, serialRange root = .ok r → InImage img r ∧ IntFits r.1 ∧ IntFits (r.2 + 4)) ∧
    (∀ r, messageDigestRange cms 0 = .ok (some r) → InImage img r ∧ IntFits r.1) ∧
    (∀ r, sigValRange root = some r → InImage img r ∧ IntFits r.2) ∧
    (∀ r, signedAttrsRange root = some r → InImage img r ∧ IntFits r.1 ∧ IntFits r.2) := by
  have fits : ∀ {r : Int × Int}, InImage img r → IntFits r.1 ∧ IntFits r.2 ∧ IntFits (r.2 + 4) :=
    fun h => by simp only [InImage, IntFits] at *; omega
  refine ⟨fun r h => ?_, fun r h => ?_, fun r h => ?_, fun r h => ?_⟩
  · have hin := serialRange_in_image hl hf h
    exact ⟨hin, (fits hin).1, (fits hin).2.2⟩
  · simp only [messageDigestRange, hr, hi, Option.getD_some, ne_eq, not_true_eq_false,
      ↓reduceIte] at h
    split at h
    · cases h
    · rename_i nsig hs
      cases hm : messageDigestIn img nsig with
      | error e => simp [hm, Except.map] at h
      | ok r' =>
        simp only [hm, Except.map, Except.ok.injEq, Option.some.injEq] at h
        subst h
        have hin := messageDigestIn_in_image hl hf (mem_walkChain_of_findNodeAt hs) hm
        exact ⟨hin, (fits hin).1⟩
  · have hin := sigValRange_in_image hl hf h
    exact ⟨hin, (fits hin).2.1⟩
  · have hin := signedAttrsRange_in_image hl hf h
    exact ⟨hin, (fits hin).1, (fits hin).2.1⟩

/-- A signer info holding only the path to the serial number, whose node is `i`. -/
def serialOnly (i : NodeInfo) : AsnNode :=
  tnode "SignerInfos" .setOf
    (tnode "" .sequence
      (tnode "sid" .choice (tnode "issuerAndSerialNumber" .sequence (.node i .nil .nil) .nil)
        .nil) .nil) .nil

/-- The serial number `5`, as the first TLV of a three-byte image. -/
def serialFive : NodeInfo :=
  { name := "serialNumber", type := .integer, off := 0, nhdr := 2, len := 1 }

/-- A container whose signer info is `serialOnly serialFive` over that image. -/
def serialFiveCms : Cms :=
  { signerInfoRoot := some (serialOnly serialFive), signerInfoImage := some [0x02, 0x01, 0x05] }

theorem serial_five_reads_within_image :
    (∀ r, serialRange (serialOnly serialFive) = .ok r →
      InImage [0x02, 0x01, 0x05] r ∧ IntFits r.1 ∧ IntFits (r.2 + 4)) ∧
    (∀ r, messageDigestRange serialFiveCms 0 = .ok (some r) →
      InImage [0x02, 0x01, 0x05] r ∧ IntFits r.1) ∧
    (∀ r, sigValRange (serialOnly serialFive) = some r →
      InImage [0x02, 0x01, 0x05] r ∧ IntFits r.2) ∧
    (∀ r, signedAttrsRange (serialOnly serialFive) = some r →
      InImage [0x02, 0x01, 0x05] r ∧ IntFits r.1 ∧ IntFits r.2) :=
  signer_info_reads_within_image rfl rfl (by decide) (by decide) (by decide)

/-- Two signer infos with the layout `laidOut` on which the serial read goes wrong. A
serial number node at `off = -3` ends where the image starts, and
`ksba_cms_get_issuer_serial` copies the two bytes before the image. A serial number
`2^31 - 2` bytes long, at the start of an image of `INT_MAX` bytes and going forward,
makes `n->len + 4` leave the `int` range. -/
theorem serial_read_outside_image :
    (∀ n ∈ walkChain (serialOnly
        { name := "serialNumber", type := .integer, off := -3, nhdr := 1, len := 2 }),
      laidOut [] n) ∧
    serialRange (serialOnly
        { name := "serialNumber", type := .integer, off := -3, nhdr := 1, len := 2 }) =
      .ok (-2, 2) ∧ ¬ InImage [] (-2, 2) ∧
    (∀ n ∈ walkChain (serialOnly
        { name := "serialNumber", type := .integer, off := 0, nhdr := 1, len := 2147483646 }),
      laidOut (List.replicate 2147483647 0) n ∧ forward n) ∧
    serialRange (serialOnly
        { name := "serialNumber", type := .integer, off := 0, nhdr := 1, len := 2147483646 }) =
      .ok (1, 2147483646) ∧ ¬ IntFits (2147483646 + 4) := by
  refine ⟨by decide, rfl, by decide, ?_, rfl, by decide⟩
  simp only [serialOnly, tnode, walkChain, List.forall_mem_cons, List.forall_mem_append,
    List.not_mem_nil, false_implies, implies_true, laidOut, forward, AsnNode.off,
    List.length_replicate]
  simp

/-! ## What `ksba_cms_get_issuer_serial` hands out -/

/-- Every output asked for and no error, or an error and no output. -/
def IssuerSerial.AllOrNothing (wantIssuer wantSerial : Bool) (r : IssuerSerial) : Prop :=
  (r.err = none ∧ r.issuer.isSome = wantIssuer ∧ r.serial.isSome = wantSerial) ∨
    (r.err.isSome ∧ r.issuer = none ∧ r.serial = none)

instance (wantIssuer wantSerial : Bool) : DecidablePred (IssuerSerial.AllOrNothing wantIssuer wantSerial) :=
  fun _ => inferInstanceAs (Decidable (_ ∨ _))

/-- For every signer info, DN converter and choice of outputs, `ksba_cms_get_issuer_serial`
is all or nothing, but for one case: both outputs asked for, the issuer part done, and the
serial part failing (no serial number node, or one not in the image). Then it returns the
serial part's error with the issuer string already stored in `*r_issuer`. -/
theorem issuer_serial_outputs (dnToStr : Bytes → AsnNode → Except KsbaError String) (cms : Cms)
    (wantIssuer wantSerial : Bool) :
    (ksbaCmsGetIssuerSerial dnToStr cms wantIssuer wantSerial).AllOrNothing wantIssuer wantSerial ∨
      ∃ root e iss, cms.signerInfoRoot = some root ∧ wantIssuer = true ∧ wantSerial = true ∧
        serialRange root = .error e ∧
        ksbaCmsGetIssuerSerial dnToStr cms wantIssuer wantSerial = ⟨some e, some iss, none⟩ := by
  unfold ksbaCmsGetIssuerSerial
  cases hr : cms.signerInfoRoot with
  | none => simp [IssuerSerial.AllOrNothing]
  | some root =>
    simp only
    split
    · simp [IssuerSerial.AllOrNothing]
    · rename_i iss hiss
      have hw : iss.isSome = wantIssuer := by
        revert hiss
        cases wantIssuer
        · rintro ⟨⟩; rfl
        · simp only [if_true]
          split
          · split_ifs
            · rintro ⟨⟩
            · cases dnToStr _ _ <;> rintro ⟨⟩; rfl
          · rintro ⟨⟩
      cases wantSerial
      · simp [IssuerSerial.AllOrNothing, hw]
      · cases hs : serialRange root with
        | ok r => simp [IssuerSerial.AllOrNothing, hw]
        | error e =>
          cases iss with
          | none => simp [IssuerSerial.AllOrNothing]
          | some s => exact .inr ⟨root, e, s, rfl, by simpa using hw.symm, rfl, hs, rfl⟩

/-- A signer info whose issuer is in a two-byte image, followed by `serial`. -/
def issuerThen (serial : AsnNode) : AsnNode :=
  tnode "SignerInfos" .setOf
    (tnode "" .sequence
      (tnode "sid" .choice
        (tnode "issuerAndSerialNumber" .sequence
          (tnode "issuer" .choice
            (.node { name := "rdnSequence", type := .sequenceOf, off := 0, nhdr := 2 } .nil .nil)
            serial) .nil) .nil) .nil) .nil

/-- A container whose signer info is `issuerThen serial` over the image `30 00`. -/
def issuerThenCms (serial : AsnNode) : Cms :=
  { signerInfoRoot := some (issuerThen serial), signerInfoImage := some [0x30, 0x00] }

/-- With both outputs asked for and a DN converter that succeeds, a signer info without a
serial number node, and one whose serial number is not in the image: each time the call
fails and hands out the issuer string. -/
theorem issuer_handed_out_on_serial_error :
    ksbaCmsGetIssuerSerial (fun _ _ => .ok "CN=Test") (issuerThenCms .nil) true true =
        ⟨some .noValue, some "CN=Test", none⟩ ∧
      ksbaCmsGetIssuerSerial (fun _ _ => .ok "CN=Test")
          (issuerThenCms (tnode "serialNumber" .integer .nil .nil)) true true =
        ⟨some .generalError, some "CN=Test", none⟩ ∧
      ¬(ksbaCmsGetIssuerSerial (fun _ _ => .ok "CN=Test") (issuerThenCms .nil) true true).AllOrNothing
        true true :=
  ⟨rfl, rfl, by decide⟩

end Ksba
