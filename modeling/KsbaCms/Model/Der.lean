import KsbaCms.Model.Asn

/-! # The DER encoder and the value stores

Modelled from the spec: the collaborators of `cms.c` that write bytes (`der-encoder.c`,
`ber-help.c`, `oid.c`, not in the repository), following X.690.

* `encNode` and `encSeq`: the DER encoding of a node from its own fields and its children's
  encoding, and of a sibling chain. A node without a value, or a constructed node with
  empty content, encodes to nothing; a CHOICE node and the implicit content node of a
  tagged one have no header of their own.
* `layoutSeq`: the pass of `_ksba_der_encode_tree` that writes `off`, `nhdr` and `len`
  into every node; `derEncodeTree` returns the laid-out tree and its image.
* `derStoreOid`, `derStoreOctetString`, `derStoreInteger`, `derStoreNull`: the stores
  through a node pointer; `derCopyTree`: the copy of a subtree, its values read from the
  source image.
* `oidFromStr`, `oidToStr`, `berWriteTlBytes`, `algorithmIdentifierBytes`: the OID and
  header encoders.
-/

namespace Ksba
set_option autoImplicit false

/-! ## Object identifiers -/

/-- The arcs of a dotted OID string, read digit by digit; `none` on anything else. -/
def oidArcs : List Char → Option Nat → List Nat → Option (List Nat)
  | [], some n, acc => some (acc ++ [n])
  | [], none, _ => none
  | c :: cs, cur, acc =>
    if c = '.' then
      match cur with
      | some n => oidArcs cs none (acc ++ [n])
      | none => none
    else if c.isDigit then oidArcs cs (some (cur.getD 0 * 10 + (c.toNat - '0'.toNat))) acc
    else none

/-- The base-128 digits of an arc, most significant first, all but the last with bit 8. -/
def base128 (n : Nat) : Bytes :=
  go n (n + 1) []
where
  go (n fuel : Nat) (acc : Bytes) : Bytes :=
    match fuel with
    | 0 => acc
    | f + 1 =>
      let acc' := (if acc.isEmpty then UInt8.ofNat (n % 128) else UInt8.ofNat (n % 128) ||| 0x80) :: acc
      if n < 128 then acc' else go (n / 128) f acc'

/-- Modelled from the spec: `ksba_oid_from_str`, the DER content bytes of a dotted OID. -/
def oidFromStr (s : String) : Option Bytes :=
  match oidArcs s.toList none [] with
  | some (a :: b :: rest) =>
    if a ≤ 2 ∧ (a < 2 → b < 40) then some (((a * 40 + b) :: rest).flatMap base128) else none
  | _ => none

/-- The arcs of DER OID content: base-128 groups, the first split into two arcs. -/
def oidDecode : Bytes → Nat → List Nat
  | [], _ => []
  | b :: bs, acc =>
    let v := acc * 128 + (b &&& 0x7f).toNat
    if b &&& 0x80 = 0 then v :: oidDecode bs 0 else oidDecode bs v

/-- Modelled from the spec: `ksba_oid_to_str`, the dotted string of DER OID content. -/
def oidToStr (buf : Bytes) : String :=
  match oidDecode buf 0 with
  | [] => ""
  | v :: rest =>
    let (a, b) := if v < 80 then (v / 40, v % 40) else (2, v - 80)
    ".".intercalate ((a :: b :: rest).map toString)

/-! ## Headers -/

/-- `enum tag_class`. -/
inductive TagClass where
  | universal | application | context | privateUse
  deriving DecidableEq, Repr

/-- The class bits of a tag byte. -/
def TagClass.code : TagClass → Nat
  | .universal => 0
  | .application => 1
  | .context => 2
  | .privateUse => 3

/-- The DER length octets: one byte below 128, else `0x80 | n` and `n` big-endian bytes. -/
def derLength (n : Nat) : Bytes :=
  if n < 128 then [UInt8.ofNat n]
  else
    let digits := bytesOf n (n + 1) []
    UInt8.ofNat (0x80 + digits.length) :: digits
where
  bytesOf (n fuel : Nat) (acc : Bytes) : Bytes :=
    match fuel with
    | 0 => acc
    | f + 1 => if n = 0 then acc else bytesOf (n / 256) f (UInt8.ofNat (n % 256) :: acc)

/-- The universal tag number of a node type. -/
def NodeType.universalTag : NodeType → Nat
  | .boolean => 1 | .integer => 2 | .bitString => 3 | .octetString => 4 | .null => 5
  | .objectId => 6 | .utf8String => 12 | .sequence => 16 | .sequenceOf => 16 | .set => 17
  | .setOf => 17 | .printableString => 19 | .ia5String => 22 | .utcTime => 23
  | .generalizedTime => 24 | .choice => 0 | .any => 0 | .tag => 0 | .size => 0

/-- `_ksba_asn_is_primitive`. -/
def NodeType.isPrimitive : NodeType → Bool
  | .sequence | .sequenceOf | .set | .setOf | .choice | .any | .tag | .size => false
  | _ => true

/-- How a node takes part in an encoding. -/
inductive Kind where
  | primitive | constructed | transparent | skip
  deriving DecidableEq, Repr

/-- A node's kind: a CHOICE and the content node of an implicitly tagged node have no
header; an ANY without a stored value and the helper nodes are not encoded. -/
def NodeInfo.kind (i : NodeInfo) : Kind :=
  if i.isImplicit then .transparent
  else match i.type with
    | .choice => .transparent
    | .any | .tag | .size => .skip
    | .sequence | .sequenceOf | .set | .setOf => .constructed
    | _ => .primitive

/-- The identifier octet: class, constructed bit, and the context tag or the universal one. -/
def NodeInfo.tagByte (i : NodeInfo) (constructed : Bool) : UInt8 :=
  let cbit := if constructed then 0x20 else 0
  match i.tag with
  | some k => UInt8.ofNat (0x80 + cbit + k)
  | none => UInt8.ofNat (cbit + i.type.universalTag)

/-! ## Encoding -/

/-- The DER encoding of one node, given the encoding of its children. -/
def encNode (i : NodeInfo) (inner : Bytes) : Bytes :=
  match i.kind with
  | .primitive =>
    match i.value with
    | some v => i.tagByte false :: derLength v.length ++ v
    | none => []
  | .constructed => if inner = [] then [] else i.tagByte true :: derLength inner.length ++ inner
  | .transparent => inner
  | .skip => []

/-- The length of the header `encNode` puts in front of the content. -/
def hdrLen (i : NodeInfo) (inner : Bytes) : Nat :=
  match i.kind with
  | .primitive =>
    match i.value with
    | some v => 1 + (derLength v.length).length
    | none => 0
  | .constructed => if inner = [] then 0 else 1 + (derLength inner.length).length
  | _ => 0

/-- The encoding of a node, its subtree and its right siblings. -/
def encSeq : AsnNode → Bytes
  | .nil => []
  | .node i d r => encNode i (encSeq d) ++ encSeq r

/-- Whether the node's children are part of its encoding. -/
def NodeInfo.holdsChildren (i : NodeInfo) : Bool :=
  i.kind = .constructed || i.kind = .transparent

/-- Every node marked as not in the image. -/
def clearLayout : AsnNode → AsnNode
  | .nil => .nil
  | .node i d r => .node { i with off := -1, nhdr := 0, len := 0 } (clearLayout d) (clearLayout r)

/-- The offsets pass of `_ksba_der_encode_tree`, the chain starting at byte `pos`: a node
that encodes to something gets its offset, header length and content length, the others
`off = -1`. -/
def layoutSeq (pos : Nat) : AsnNode → AsnNode
  | .nil => .nil
  | .node i d r =>
    let e := encNode i (encSeq d)
    let h := hdrLen i (encSeq d)
    .node { i with off := if e = [] then -1 else pos, nhdr := h, len := e.length - h }
      (if i.holdsChildren then layoutSeq (pos + h) d else clearLayout d)
      (layoutSeq (pos + e.length) r)

/-- `_ksba_der_encode_tree (root, &image, &imagelen)`: the tree with its offsets, and the
image. -/
def derEncodeTree (t : AsnNode) : AsnNode × Bytes :=
  (layoutSeq 0 t, encSeq t)

/-! ## Stores through a node pointer -/

/-- The store into one node of a given type: an ANY node takes the type, a node of another
type refuses the value. -/
def storeTyped (ty : NodeType) (v : Bytes) (i : NodeInfo) (d : AsnNode) :
    Except KsbaError (NodeInfo × AsnNode) :=
  if i.type = ty ∨ i.type = .any then .ok ({ i with type := ty, value := some v }, d)
  else .error .invalidValue

/-- `_ksba_der_store_oid (n, oid)` on the node at `p`. -/
def derStoreOid (t : AsnNode) (p : Pos) (oid : String) : Except KsbaError AsnNode :=
  match oidFromStr oid with
  | some v => modifyAt (storeTyped .objectId v) t p
  | none => .error .invalidOid

/-- `_ksba_der_store_octet_string (n, buf, len)` on the node at `p`. -/
def derStoreOctetString (t : AsnNode) (p : Pos) (buf : Bytes) : Except KsbaError AsnNode :=
  modifyAt (storeTyped .octetString buf) t p

/-- `_ksba_der_store_integer (n, buf)`: `buf` holds a 4-byte big-endian length, then the
content bytes. -/
def derStoreInteger (t : AsnNode) (p : Pos) (buf : Bytes) : Except KsbaError AsnNode :=
  match buf with
  | b0 :: b1 :: b2 :: b3 :: rest =>
    let n := ((b0.toNat * 256 + b1.toNat) * 256 + b2.toNat) * 256 + b3.toNat
    modifyAt (storeTyped .integer (rest.take n)) t p
  | _ => .error .invalidValue

/-- `_ksba_der_store_null (n)`. -/
def derStoreNull (t : AsnNode) (p : Pos) : Except KsbaError AsnNode :=
  modifyAt (storeTyped .null []) t p

/-! ## Copying a subtree -/

/-- The value a copied node takes: the content bytes of a primitive source node in the
image, nothing for a constructed one or one that is not in the image. -/
def copiedValue (img : Bytes) (i : NodeInfo) : Option Bytes :=
  if i.type.isPrimitive && i.off != -1 then some (imageSlice img (i.off + i.nhdr) i.len)
  else none

/-- A source chain with every value read from the image it was laid out in. -/
def materialize (img : Bytes) : AsnNode → AsnNode
  | .nil => .nil
  | .node i d r =>
    .node { i with value := copiedValue img i, off := -1, nhdr := 0, len := 0 }
      (materialize img d) (materialize img r)

/-- The copy into one destination node: its type must be the source's, or ANY. -/
def copyNode (src : AsnNode) (img : Bytes) (i : NodeInfo) (_ : AsnNode) :
    Except KsbaError (NodeInfo × AsnNode) :=
  match src with
  | .nil => .error .encodingProblem
  | .node si sd _ =>
    if i.type = si.type ∨ i.type = .any then
      .ok ({ i with type := si.type, value := copiedValue img si }, materialize img sd)
    else .error .encodingProblem

/-- `_ksba_der_copy_tree (dst, src, src_image)`: the subtree at `dst` becomes the source's
subtree with its values; a missing source or destination alone is an encoding problem. -/
def derCopyTree (t : AsnNode) (dst : Option Pos) (src : Option AsnNode) (img : Bytes) :
    Except KsbaError AsnNode :=
  match dst, src with
  | some p, some s => modifyAt (copyNode s img) t p
  | none, none => .ok t
  | _, _ => .error .encodingProblem

/-! ## Bytes for the writer -/

/-- `_ksba_ber_write_tl`: a tag byte (`0x1f` and above not implemented) and a length that is
indefinite (`0x80`) when zero, with end-of-contents (tag 0, class 0) and NULL written as
`00`. -/
def berWriteTlBytes (tag : Nat) (cls : TagClass) (constructed : Bool) (len : Nat) :
    Except KsbaError Bytes :=
  if tag < 0x1f then
    let t := UInt8.ofNat (cls.code * 64 + (if constructed then 0x20 else 0) + tag)
    if tag = 0 ∧ cls = .universal then .ok [t, 0]
    else if tag = 5 ∧ cls = .universal then .ok [t, 0]
    else if len = 0 then .ok [t, 0x80]
    else .ok (t :: derLength len)
  else .error .notImplemented

/-- `_ksba_der_write_algorithm_identifier`: SEQUENCE { OBJECT IDENTIFIER, NULL }. -/
def algorithmIdentifierBytes (oid : String) : Except KsbaError Bytes :=
  match oidFromStr oid with
  | some v =>
    let body := (0x06 : UInt8) :: derLength v.length ++ v ++ [0x05, 0x00]
    .ok ((0x30 : UInt8) :: derLength body.length ++ body)
  | none => .error .invalidOid

end Ksba
