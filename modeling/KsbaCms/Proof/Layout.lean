import KsbaCms.Model.Der

/-! # The layout `_ksba_der_encode_tree` writes

`_ksba_der_encode_tree` encodes a tree and writes into every node the `off`, `nhdr` and
`len` of its TLV in the image. The readers of `cms.c` then take bytes out of the image at
those offsets, and `_ksba_der_copy_tree` reads a source subtree's values back from its
image. This module proves, for every tree, that the three agree.

* `mem_walkChain_of_findNodeAt`, `mem_walkChain_of_asnFindTypeValue`: the nodes the
  lookups return are nodes of the tree they search.
* `encSeq_layoutSeq`, `asnFindNode_layoutSeq`: the encoding and the lookups by name read
  no field the layout writes, so laying a tree out changes neither.
* `Normal`: the trees the templates and stores build. A node that does not encode its
  children has none, a primitive type is not implicitly tagged, and only primitive nodes
  hold values.
* `layoutSeq_inPlace`: in the image of a normal tree, every node laid out sits where its
  offsets say, with the header and content its fields encode.
* `materialize_layoutSeq`: the values read back from the image are the values encoded.
* `asnFindTypeValue_layoutSeq`: the search by OID bytes in the image finds what the
  search by stored value, `typeValueIn`, finds in the tree before it is encoded.
-/

namespace Ksba
set_option autoImplicit false

/-! ## Nodes of a tree -/

theorem walkChain_down_subset (i : NodeInfo) (d r : AsnNode) :
    walkChain d ⊆ walkChain (.node i d r) := fun _ h => by simp [walkChain, h]

theorem walkChain_right_subset (i : NodeInfo) (d r : AsnNode) :
    walkChain r ⊆ walkChain (.node i d r) := fun _ h => by simp [walkChain, h]

theorem walkChain_subset_of_mem {m t : AsnNode} (h : m ∈ walkChain t) :
    walkChain m ⊆ walkChain t := by
  induction t with
  | nil => simp [walkChain] at h
  | node i d r ihd ihr =>
    simp only [walkChain, List.mem_cons, List.mem_append] at h
    rcases h with rfl | h | h
    · exact List.Subset.refl _
    · exact fun _ hx => walkChain_down_subset i d r (ihd h hx)
    · exact fun _ hx => walkChain_right_subset i d r (ihr h hx)

theorem walkTree_subset_walkChain (t : AsnNode) : walkTree t ⊆ walkChain t := by
  cases t <;> simp [walkTree, walkChain]

theorem mem_walkChain_of_nodeAt {t n : AsnNode} {p : Pos} (h : nodeAt t p = some n) :
    n ∈ walkChain t := by
  induction p generalizing t with
  | nil => cases t <;> simp_all [walkChain]
  | cons dir p ih =>
    cases t with
    | nil => simp at h
    | node i d r =>
      cases dir
      · exact walkChain_down_subset i d r (ih h)
      · exact walkChain_right_subset i d r (ih h)

theorem mem_walkChain_of_findNodeAt {t n : AsnNode} {path : String}
    (h : findNodeAt t path = some n) : n ∈ walkChain t := by
  obtain ⟨p, -, hp⟩ := Option.bind_eq_some.mp h
  exact mem_walkChain_of_nodeAt hp

/-- The value `_ksba_asn_find_type_value` returns is a node below the one it searched. -/
theorem mem_walkChain_of_asnFindTypeValue {img oid : Bytes} {t v : AsnNode} {k : Nat}
    (h : asnFindTypeValue img t k oid = some v) : v ∈ walkChain t := by
  unfold asnFindTypeValue at h
  obtain ⟨m, hm, hv⟩ := List.mem_filterMap.mp (List.getElem?_mem h)
  have hsub := walkChain_subset_of_mem (walkTree_subset_walkChain t hm)
  unfold typeValueOf at hv
  split at hv
  · split_ifs at hv with hc
    cases hv
    obtain ⟨-, -, -, -, -, hnil⟩ := hc
    cases v with
    | nil => exact absurd rfl hnil
    | node vi vd vr => exact hsub (by simp [walkChain])
  · cases hv

/-! ## What the encoding reads -/

section Fields

variable (i : NodeInfo) (a b c : Int) (inner : Bytes)

@[simp] theorem kind_layout : ({ i with off := a, nhdr := b, len := c } : NodeInfo).kind = i.kind :=
  rfl

@[simp] theorem encNode_layout : encNode { i with off := a, nhdr := b, len := c } inner =
    encNode i inner := rfl

@[simp] theorem hdrLen_layout : hdrLen { i with off := a, nhdr := b, len := c } inner =
    hdrLen i inner := rfl

@[simp] theorem holdsChildren_layout :
    ({ i with off := a, nhdr := b, len := c } : NodeInfo).holdsChildren = i.holdsChildren := rfl

end Fields

@[simp] theorem encSeq_clearLayout (t : AsnNode) : encSeq (clearLayout t) = encSeq t := by
  induction t with
  | nil => rfl
  | node i d r ihd ihr => simp [clearLayout, encSeq, ihd, ihr]

@[simp] theorem encSeq_layoutSeq (pos : Nat) (t : AsnNode) : encSeq (layoutSeq pos t) = encSeq t := by
  induction t generalizing pos with
  | nil => rfl
  | node i d r ihd ihr =>
    simp only [layoutSeq, encSeq, encNode_layout, ihr]
    split <;> simp [ihd]

/-! ## What the lookups read -/

@[simp] theorem clearLayout_clearLayout (t : AsnNode) : clearLayout (clearLayout t) = clearLayout t := by
  induction t with
  | nil => rfl
  | node i d r ihd ihr => simp [clearLayout, ihd, ihr]

@[simp] theorem clearLayout_layoutSeq (pos : Nat) (t : AsnNode) :
    clearLayout (layoutSeq pos t) = clearLayout t := by
  induction t generalizing pos with
  | nil => rfl
  | node i d r ihd ihr =>
    simp only [layoutSeq, clearLayout, ihr]
    split <;> simp [ihd]

@[simp] theorem clearLayout_eq_nil {t : AsnNode} : clearLayout t = .nil ↔ t = .nil := by
  cases t <;> simp [clearLayout]

theorem nodeAt_clearLayout (t : AsnNode) (p : Pos) :
    nodeAt (clearLayout t) p = (nodeAt t p).map clearLayout := by
  induction p generalizing t with
  | nil => cases t <;> rfl
  | cons dir p ih => cases t with
    | nil => rfl
    | node i d r => cases dir <;> simp [clearLayout, ih]

theorem scanName_clearLayout (c : String) (t : AsnNode) : scanName c (clearLayout t) = scanName c t := by
  induction t with
  | nil => rfl
  | node i d r _ ihr => simp [clearLayout, scanName, ihr]

theorem findDown_clearLayout (t : AsnNode) (cs : List String) :
    findDown (clearLayout t) cs = findDown t cs := by
  induction cs generalizing t with
  | nil => cases t <;> rfl
  | cons c cs ih =>
    cases t with
    | nil => rfl
    | node i d r =>
      cases d with
      | nil => rfl
      | node di dd dr =>
        simp only [clearLayout, findDown]
        simp only [← clearLayout.eq_2, ih, scanName_clearLayout, nodeAt_clearLayout,
          Option.bind_map, Function.comp_def]

theorem asnFindNode_clearLayout (t : AsnNode) (path : String) :
    asnFindNode (clearLayout t) path = asnFindNode t path := by
  unfold asnFindNode
  split_ifs
  · rfl
  · split
    · rfl
    · simp only [scanName_clearLayout, nodeAt_clearLayout, Option.bind_map, Function.comp_def,
        findDown_clearLayout]

/-- Laying a tree out leaves every lookup by name where it was. -/
@[simp] theorem asnFindNode_layoutSeq (pos : Nat) (t : AsnNode) (path : String) :
    asnFindNode (layoutSeq pos t) path = asnFindNode t path := by
  rw [← asnFindNode_clearLayout, clearLayout_layoutSeq, asnFindNode_clearLayout]

theorem findNodeAt_layoutSeq (pos : Nat) (t : AsnNode) (path : String) :
    (findNodeAt (layoutSeq pos t) path).map clearLayout = (findNodeAt t path).map clearLayout := by
  simp only [findNodeAt, asnFindNode_layoutSeq, Option.map_bind, Function.comp_def,
    ← nodeAt_clearLayout, clearLayout_layoutSeq]

theorem walkChain_clearLayout (t : AsnNode) : walkChain (clearLayout t) = (walkChain t).map clearLayout := by
  induction t with
  | nil => rfl
  | node i d r ihd ihr => simp [clearLayout, walkChain, ihd, ihr]

theorem walkTree_clearLayout (t : AsnNode) : walkTree (clearLayout t) = (walkTree t).map clearLayout := by
  cases t <;> simp [clearLayout, walkTree, walkChain_clearLayout]

/-! ## Normal trees -/

/-- The trees the templates and the stores build: a node that does not encode its children
has none, a primitive type is never implicitly tagged, and only nodes of a primitive type
hold a value. -/
def Normal : AsnNode → Prop
  | .nil => True
  | .node i d r => (i.holdsChildren = false → d = .nil) ∧
      (i.type.isPrimitive = true → i.isImplicit = false) ∧
      (i.type.isPrimitive = false → i.value = none) ∧ Normal d ∧ Normal r

instance decNormal : DecidablePred Normal
  | .nil => isTrue trivial
  | .node _ d r =>
    have := decNormal d
    have := decNormal r
    inferInstanceAs (Decidable (_ ∧ _ ∧ _ ∧ Normal d ∧ Normal r))

@[simp] theorem normal_clearLayout (t : AsnNode) : Normal (clearLayout t) ↔ Normal t := by
  induction t with
  | nil => rfl
  | node i d r ihd ihr => simp [clearLayout, Normal, ihd, ihr]

theorem Normal.of_mem {t n : AsnNode} (ht : Normal t) (h : n ∈ walkChain t) : Normal n := by
  induction t with
  | nil => simp [walkChain] at h
  | node i d r ihd ihr =>
    simp only [walkChain, List.mem_cons, List.mem_append] at h
    rcases h with rfl | h | h
    · exact ht
    · exact ihd ht.2.2.2.1 h
    · exact ihr ht.2.2.2.2 h

theorem Normal.of_mem_layoutSeq {t n : AsnNode} {pos : Nat} (ht : Normal t)
    (h : n ∈ walkChain (layoutSeq pos t)) : Normal n := by
  have hm : clearLayout n ∈ walkChain (clearLayout t) := by
    rw [← clearLayout_layoutSeq pos, walkChain_clearLayout]
    exact List.mem_map_of_mem _ h
  exact (normal_clearLayout n).mp (Normal.of_mem ((normal_clearLayout t).mpr ht) hm)

/-- A node of a primitive type that is not implicitly tagged encodes its value. -/
theorem kind_of_primitive {i : NodeInfo} (hp : i.type.isPrimitive = true)
    (hi : i.isImplicit = false) : i.kind = .primitive := by
  unfold NodeInfo.kind
  cases ht : i.type <;> simp_all [NodeType.isPrimitive]

/-! ## Where the encoder puts a node -/

theorem hdrLen_le (i : NodeInfo) (inner : Bytes) : hdrLen i inner ≤ (encNode i inner).length := by
  cases hk : i.kind <;> simp only [hdrLen, encNode, hk]
  · cases i.value <;> simp; omega
  · split_ifs <;> simp; omega
  all_goals simp

/-- A node that encodes its children puts a header of `hdrLen` bytes before them. -/
theorem encNode_of_holdsChildren {i : NodeInfo} (h : i.holdsChildren = true) (inner : Bytes) :
    ∃ hdr, encNode i inner = hdr ++ inner ∧ hdr.length = hdrLen i inner := by
  simp only [NodeInfo.holdsChildren, Bool.or_eq_true, decide_eq_true_eq] at h
  rcases h with hk | hk
  · by_cases he : inner = []
    · exact ⟨[], by simp [encNode, hdrLen, hk, he]⟩
    · exact ⟨i.tagByte true :: derLength inner.length, by simp [encNode, hk, he],
        by simp [hdrLen, hk, he]; omega⟩
  · exact ⟨[], by simp [encNode, hdrLen, hk]⟩

/-- A primitive node with a value: the tag, the length, the value. -/
theorem encNode_of_primitive {i : NodeInfo} (hk : i.kind = .primitive) {v : Bytes}
    (hv : i.value = some v) (inner : Bytes) :
    encNode i inner = i.tagByte false :: (derLength v.length ++ v) ∧
      hdrLen i inner = 1 + (derLength v.length).length := by
  simp [encNode, hdrLen, hk, hv]

theorem imageSlice_of_eq {pre x post : Bytes} {a b : Int} (ha : a = pre.length)
    (hb : b = x.length) : imageSlice (pre ++ x ++ post) a b = x := by
  subst ha hb
  simp [imageSlice]

/-- Where a slice of `b + c` bytes holds `x ++ y` with `x` of length `b`, the slice of `c`
bytes after the first `b` holds `y`. -/
theorem imageSlice_drop {img x y : Bytes} {a b c : Int} (ha : 0 ≤ a) (hb : b = x.length)
    (hc : 0 ≤ c) (h : imageSlice img a (b + c) = x ++ y) : imageSlice img (a + b) c = y := by
  subst hb
  unfold imageSlice at *
  have hab : (a + x.length).toNat = a.toNat + x.length := by omega
  have hbc : (↑x.length + c).toNat = x.length + c.toNat := by omega
  rw [hbc] at h
  rw [hab, ← List.drop_drop, List.take_drop, h, List.drop_left]

/-- A range inside the image is read exactly. -/
theorem imageRead_of_le {img : Bytes} {a n : Int} (ha : 0 ≤ a) (hn : 0 ≤ n)
    (hin : a + n ≤ img.length) : imageRead img a n = some (imageSlice img a n) :=
  if_pos ⟨ha, hn, hin⟩

/-- A slice that holds as many bytes as asked for, at least one, ends inside the image. -/
theorem imageSlice_within {img b : Bytes} {a n : Int} (hb : b ≠ []) (hn : n = b.length)
    (h : imageSlice img a n = b) : a + n ≤ img.length := by
  have hl := congrArg List.length h
  have hpos := List.length_pos.mpr hb
  simp only [imageSlice, List.length_take, List.length_drop] at hl
  omega

/-- The fields `layoutSeq` writes into the first node of a chain laid out from `pos`. -/
def placeInfo (pos : Nat) (i : NodeInfo) (inner : Bytes) : NodeInfo :=
  { i with
    off := if encNode i inner = [] then -1 else pos
    nhdr := hdrLen i inner
    len := (encNode i inner).length - hdrLen i inner }

theorem layoutSeq_node (pos : Nat) (i : NodeInfo) (d r : AsnNode) :
    layoutSeq pos (.node i d r) =
      .node (placeInfo pos i (encSeq d))
        (if i.holdsChildren then layoutSeq (pos + hdrLen i (encSeq d)) d else clearLayout d)
        (layoutSeq (pos + (encNode i (encSeq d)).length) r) := rfl

@[simp] theorem encSeq_placed_children (pos : Nat) (i : NodeInfo) (d : AsnNode) :
    encSeq (if i.holdsChildren then layoutSeq pos d else clearLayout d) = encSeq d := by
  split <;> simp

/-- A laid-out node sits in the image as the encoder put it: it is in the image exactly
when it encodes to something, and then the image holds its TLV at `off`, with a header
`nhdr` bytes long. -/
def InPlace (img : Bytes) : AsnNode → Prop
  | .nil => True
  | .node i d _ => (i.off ≠ -1 ↔ encNode i (encSeq d) ≠ []) ∧
      (i.off ≠ -1 → 0 ≤ i.off ∧ i.nhdr = hdrLen i (encSeq d) ∧
        i.nhdr + i.len = (encNode i (encSeq d)).length ∧
        imageSlice img i.off (i.nhdr + i.len) = encNode i (encSeq d))

theorem inPlace_placeInfo (pre rest : Bytes) (i : NodeInfo) {d : AsnNode} (r : AsnNode) :
    InPlace (pre ++ encNode i (encSeq d) ++ rest) (.node (placeInfo pre.length i (encSeq d)) d r) := by
  have hle := hdrLen_le i (encSeq d)
  by_cases he : encNode i (encSeq d) = []
  · simp [InPlace, placeInfo, he]
  · have hoff : (pre.length : Int) ≠ -1 := by omega
    simp only [InPlace, placeInfo, he, if_false, encNode_layout, hdrLen_layout, ne_eq, hoff,
      not_false_eq_true, true_iff, forall_const, true_and]
    exact ⟨by omega, by omega, imageSlice_of_eq rfl (by omega)⟩

/-- Every node of a normal tree laid out from byte `pre.length` of an image that holds the
tree's encoding there sits in that image. -/
theorem layoutSeq_inPlace {t : AsnNode} (hn : Normal t) (pre post : Bytes) :
    ∀ n ∈ walkChain (layoutSeq pre.length t), InPlace (pre ++ encSeq t ++ post) n := by
  induction t generalizing pre post with
  | nil => simp [layoutSeq, walkChain]
  | node i d r ihd ihr =>
    obtain ⟨hc, -, -, hd, hr⟩ := hn
    intro n hmem
    rw [layoutSeq_node] at hmem
    simp only [walkChain, List.mem_cons, List.mem_append] at hmem
    rcases hmem with rfl | hmem | hmem
    case inl =>
      have h := inPlace_placeInfo pre (encSeq r ++ post) i
        (d := if i.holdsChildren then layoutSeq (pre.length + hdrLen i (encSeq d)) d else clearLayout d)
        (layoutSeq (pre.length + (encNode i (encSeq d)).length) r)
      simpa [encSeq] using h
    case inr.inl =>
      cases hh : i.holdsChildren
      · simp [hh, hc hh, clearLayout, walkChain] at hmem
      · obtain ⟨hdr, he, hl⟩ := encNode_of_holdsChildren hh (encSeq d)
        have h := ihd hd (pre ++ hdr) (encSeq r ++ post)
        simp only [List.length_append, hl] at h
        simp only [hh, if_true] at hmem
        simpa [encSeq, he] using h n hmem
    case inr.inr =>
      have h := ihr hr (pre ++ encNode i (encSeq d)) post
      simp only [List.length_append] at h
      simpa [encSeq] using h n hmem

/-- Every node an address goes `down` from holds its children in its encoding, so that the
encoder lays out the node the address leads to. -/
def downEncoded : AsnNode → Pos → Bool
  | .node i d _, .down :: p => i.holdsChildren && downEncoded d p
  | .node _ _ r, .right :: p => downEncoded r p
  | _, _ => true

/-- In any tree, normal or not, a node the encoder lays out from byte `pre.length` of an
image holding the tree's encoding there sits in that image. -/
theorem layoutSeq_inPlace_at {t n : AsnNode} {p : Pos} (hp : downEncoded t p = true)
    (pre post : Bytes) (hn : nodeAt (layoutSeq pre.length t) p = some n) :
    InPlace (pre ++ encSeq t ++ post) n := by
  induction p generalizing t pre post with
  | nil =>
    cases t with
    | nil => cases hn
    | node i d r =>
      rw [layoutSeq_node, nodeAt_root, Option.some.injEq] at hn
      subst hn
      have h := inPlace_placeInfo pre (encSeq r ++ post) i
        (d := if i.holdsChildren then layoutSeq (pre.length + hdrLen i (encSeq d)) d else clearLayout d)
        (layoutSeq (pre.length + (encNode i (encSeq d)).length) r)
      simpa [encSeq] using h
  | cons a p ih =>
    cases t with
    | nil => cases hn
    | node i d r =>
      cases a
      case down =>
        simp only [downEncoded, Bool.and_eq_true] at hp
        obtain ⟨hdr, he, hl⟩ := encNode_of_holdsChildren hp.1 (encSeq d)
        rw [layoutSeq_node, nodeAt_down, if_pos hp.1] at hn
        have h := ih hp.2 (pre ++ hdr) (encSeq r ++ post) (by simpa [hl] using hn)
        simpa [encSeq, he] using h
      case right =>
        rw [layoutSeq_node, nodeAt_right] at hn
        have h := ih hp (pre ++ encNode i (encSeq d)) post (by simpa using hn)
        simpa [encSeq] using h

/-- A slice that starts with `x` is the same after byte 0 of the image is set to `x`. -/
theorem imageSlice_set_zero {img rest : Bytes} {a b : Int} {x : UInt8}
    (h : imageSlice img a b = x :: rest) : imageSlice (img.set 0 x) a b = x :: rest := by
  unfold imageSlice at *
  rcases Nat.eq_zero_or_pos a.toNat with h0 | hpos
  · rw [h0, List.drop_zero] at h ⊢
    rw [List.set_take, h]
    rfl
  · rwa [List.drop_set_of_lt _ _ hpos]

/-- `_ksba_der_copy_tree` reads back from the image the value a normal node encoded. -/
theorem copiedValue_placeInfo (pre rest : Bytes) {i : NodeInfo} (inner : Bytes)
    (hp : i.type.isPrimitive = true → i.isImplicit = false)
    (hv : i.type.isPrimitive = false → i.value = none) :
    copiedValue (pre ++ encNode i inner ++ rest) (placeInfo pre.length i inner) = i.value := by
  cases hprim : i.type.isPrimitive
  · simp [copiedValue, placeInfo, hprim, hv hprim]
  · have hk := kind_of_primitive hprim (hp hprim)
    cases hval : i.value with
    | none => simp [copiedValue, placeInfo, hprim, encNode, hk, hval]
    | some v =>
      obtain ⟨he, hh⟩ := encNode_of_primitive hk hval inner
      have hoff : (pre.length : Int) ≠ -1 := by omega
      simp only [copiedValue, placeInfo, hprim, he, hh, Bool.true_and, reduceCtorEq, if_false,
        ne_eq, hoff, not_false_eq_true, bne_iff_ne, if_true, Option.some.injEq]
      rw [show pre ++ i.tagByte false :: (derLength v.length ++ v) ++ rest =
        (pre ++ i.tagByte false :: derLength v.length) ++ v ++ rest by simp]
      exact imageSlice_of_eq (by simp; omega) (by simp; omega)

/-- The values read back from the image of a normal tree are the values it encoded. -/
theorem materialize_layoutSeq {t : AsnNode} (hn : Normal t) (pre post : Bytes) :
    materialize (pre ++ encSeq t ++ post) (layoutSeq pre.length t) = clearLayout t := by
  induction t generalizing pre post with
  | nil => rfl
  | node i d r ihd ihr =>
    obtain ⟨hc, hp, hv, hd, hr⟩ := hn
    rw [layoutSeq_node]
    have hval := copiedValue_placeInfo pre (encSeq r ++ post) (encSeq d) hp hv
    have hright := ihr hr (pre ++ encNode i (encSeq d)) post
    simp only [List.length_append, List.append_assoc] at hval hright
    simp only [materialize, clearLayout, encSeq, List.append_assoc, hval, hright]
    congr 1
    cases hh : i.holdsChildren
    · simp [hc hh, clearLayout, materialize]
    · obtain ⟨hdr, he, hl⟩ := encNode_of_holdsChildren hh (encSeq d)
      have h := ihd hd (pre ++ hdr) (encSeq r ++ post)
      simp only [List.length_append, hl, List.append_assoc] at h
      simpa [he] using h

/-- Every node of a normal tree's encoding sits in place in its image. -/
theorem derEncodeTree_inPlace {t : AsnNode} (hn : Normal t) :
    ∀ n ∈ walkChain (derEncodeTree t).1, InPlace (derEncodeTree t).2 n := by
  simpa using layoutSeq_inPlace hn [] []

/-- The copy `_ksba_der_copy_tree` makes from a tree before it is encoded: the source
node's type and value, and its subtree without a layout. -/
def copyNodeOf (src : AsnNode) (i : NodeInfo) (_ : AsnNode) : Except KsbaError (NodeInfo × AsnNode) :=
  match src with
  | .nil => .error .encodingProblem
  | .node si sd _ =>
    if i.type = si.type ∨ i.type = .any then
      .ok ({ i with type := si.type, value := si.value }, clearLayout sd)
    else .error .encodingProblem

/-- `_ksba_der_copy_tree` from the encoding of a normal tree copies the tree. -/
theorem copyNode_derEncodeTree {t : AsnNode} (hn : Normal t) :
    copyNode (derEncodeTree t).1 (derEncodeTree t).2 = copyNodeOf t := by
  funext i x
  cases t with
  | nil => rfl
  | node si sd sr =>
    have hm := materialize_layoutSeq hn [] []
    simp only [List.nil_append, List.append_nil, List.length_nil, layoutSeq_node, materialize,
      clearLayout, AsnNode.node.injEq] at hm
    obtain ⟨hi, hd, -⟩ := hm
    have hv := congrArg NodeInfo.value hi
    simp only [derEncodeTree, layoutSeq_node, copyNode, copyNodeOf, placeInfo] at hv ⊢
    rw [hv, hd]

theorem derCopyTree_derEncodeTree {a : AsnNode} (hn : Normal a) (t : AsnNode) (p : Pos) :
    derCopyTree t (some p) (some (derEncodeTree a).1) (derEncodeTree a).2 =
      modifyAt (copyNodeOf a) t p := by
  simp [derCopyTree, copyNode_derEncodeTree hn]

/-! ## Reading a laid-out tree -/

section Reading

variable {img : Bytes} {i : NodeInfo} {d r : AsnNode}

/-- A primitive node with a value is in the image, with the value as its content. -/
theorem InPlace.content (hp : InPlace img (.node i d r)) (hk : i.kind = .primitive) {v : Bytes}
    (hv : i.value = some v) :
    i.off ≠ -1 ∧ i.len = v.length ∧ imageSlice img (i.off + i.nhdr) i.len = v := by
  obtain ⟨he, hh⟩ := encNode_of_primitive hk hv (encSeq d)
  have hoff : i.off ≠ -1 := hp.1.mpr (by simp [he])
  obtain ⟨h0, hn, hl, hs⟩ := hp.2 hoff
  rw [he] at hl hs
  rw [hh] at hn
  simp only [List.length_cons, List.length_append] at hl
  have hlen : i.len = v.length := by omega
  refine ⟨hoff, hlen, imageSlice_drop h0 (x := i.tagByte false :: derLength v.length)
    (by simp [hn]; omega) (by omega) ?_⟩
  rw [hs]
  rfl

/-- The same content, read as `memcpy` reads it: exactly `len` bytes, inside the image. -/
theorem InPlace.read_content (hp : InPlace img (.node i d r)) (hk : i.kind = .primitive)
    {v : Bytes} (hv : i.value = some v) : imageRead img (i.off + i.nhdr) i.len = some v := by
  obtain ⟨hoff, hlen, hs⟩ := hp.content hk hv
  obtain ⟨h0, hn, hl, ht⟩ := hp.2 hoff
  have hin := imageSlice_within (hp.1.mp hoff) hl ht
  rw [imageRead_of_le (by omega) (by omega) (by omega), hs]

/-- A primitive node without a value is not in the image. -/
theorem InPlace.off_of_none (hp : InPlace img (.node i d r)) (hk : i.kind = .primitive)
    (hv : i.value = none) : i.off = -1 := by
  by_contra h
  exact hp.1.mp h (by simp [encNode, hk, hv])

/-- The test `typeValueOf` makes on the bytes of a primitive node in place is the test
that its value is those bytes. -/
theorem InPlace.value_iff (hp : InPlace img (.node i d r)) (hk : i.kind = .primitive)
    (b : Bytes) (P : Prop) :
    (i.off ≠ -1 ∧ i.len = b.length ∧ imageSlice img (i.off + i.nhdr) i.len = b ∧ P) ↔
      (i.value = some b ∧ P) := by
  cases hv : i.value with
  | none => simp [hp.off_of_none hk hv]
  | some v =>
    obtain ⟨h1, h2, h3⟩ := hp.content hk hv
    rw [h3]
    simp only [h2, ne_eq, h1, not_false_eq_true, true_and, Option.some.injEq]
    exact ⟨fun ⟨_, h, hP⟩ => ⟨h, hP⟩, fun ⟨h, hP⟩ => ⟨by rw [h], h, hP⟩⟩

end Reading

/-- What `typeValueOf` looks for, in a tree before it is encoded: a SEQUENCE whose first
child is an OBJECT IDENTIFIER holding `oid`, and the value after that child. -/
def typeValueIn (oid : Bytes) : AsnNode → Option AsnNode
  | .node i (.node o _ v) _ =>
    if i.type = .sequence ∧ o.type = .objectId ∧ o.value = some oid ∧ v ≠ .nil then some v
    else none
  | _ => none

theorem typeValueOf_inPlace {img oid : Bytes} {n : AsnNode}
    (hp : ∀ m ∈ walkChain n, InPlace img m) (hn : Normal n) :
    (typeValueOf img oid n).map clearLayout = typeValueIn oid (clearLayout n) := by
  match n, hn with
  | .nil, _ => rfl
  | .node i .nil r, _ => rfl
  | .node i (.node o od v) r, hn =>
    have ho : InPlace img (.node o od v) := hp _ (by simp [walkChain])
    simp only [typeValueOf, typeValueIn, clearLayout]
    by_cases ht : o.type = .objectId
    · have hprim : o.type.isPrimitive = true := by simp [ht, NodeType.isPrimitive]
      have hk := kind_of_primitive hprim (hn.2.2.2.1.2.1 hprim)
      simp only [ht, true_and, ho.value_iff hk, ne_eq, clearLayout_eq_nil]
      split_ifs <;> rfl
    · simp [ht]

/-- Below a node of a tree in place, `_ksba_asn_find_type_value` finds in the image what
`typeValueIn` finds in the tree without its layout. -/
theorem asnFindTypeValue_inPlace {img oid : Bytes} {n : AsnNode} (k : Nat)
    (hp : ∀ m ∈ walkChain n, InPlace img m) (hn : Normal n) :
    (asnFindTypeValue img n k oid).map clearLayout =
      ((walkTree (clearLayout n)).filterMap (typeValueIn oid))[k]? := by
  unfold asnFindTypeValue
  rw [walkTree_clearLayout, List.filterMap_map, ← List.getElem?_map, List.map_filterMap]
  congr 1
  apply List.filterMap_congr
  intro x hx
  have hx' := walkTree_subset_walkChain n hx
  exact typeValueOf_inPlace (fun m hm => hp m (walkChain_subset_of_mem hx' hm)) (hn.of_mem hx')

/-- The same, for a node of a normal tree's encoding. -/
theorem asnFindTypeValue_derEncodeTree {t n : AsnNode} (hn : Normal t)
    (hm : n ∈ walkChain (derEncodeTree t).1) (k : Nat) (oid : Bytes) :
    (asnFindTypeValue (derEncodeTree t).2 n k oid).map clearLayout =
      ((walkTree (clearLayout n)).filterMap (typeValueIn oid))[k]? :=
  asnFindTypeValue_inPlace k (fun m h => derEncodeTree_inPlace hn m (walkChain_subset_of_mem hm h))
    (hn.of_mem_layoutSeq hm)

end Ksba
