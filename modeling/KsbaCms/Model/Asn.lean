import KsbaCms.Model.Basic

/-! # ASN.1 trees as the codec keeps them

Modelled from the spec: the ASN.1 codec (`asn1-func.c`, not in the repository) keeps a
tree of nodes linked by `down` (first child) and `right` (next sibling), each carrying
`type`, its tagging, a value, and the byte offset `off`, header length `nhdr` and content
length `len` of its TLV in the image it was read from or encoded to (`off = -1`: not in
the image). `AsnNode` is that tree, link for link, so that the walks `cms.c` does by hand
(`n->down->down`, `n = n->right`) read the same here.

* `Pos`: a node's address, the `down`/`right` links that lead to it; `nodeAt` follows
  them and `modifyAt` changes the node they lead to, which is how a store through a
  pointer returned by `_ksba_asn_find_node` is written.
* `asnFindNode`: `_ksba_asn_find_node` on a dotted path; an empty component (`..`) steps
  into the first child.
* `walkTree`, `asnFindTypeValue`: the order of `_ksba_asn_walk_tree`, and the search for an
  attribute by the DER bytes of its type.
-/

namespace Ksba
set_option autoImplicit false

/-- `node_type_t`: the node types the CMS templates and certificates use. `tag` and `size`
are the template's helper nodes, which are never encoded. -/
inductive NodeType where
  | boolean | integer | bitString | octetString | null | objectId | utf8String
  | printableString | ia5String | utcTime | generalizedTime
  | sequence | sequenceOf | set | setOf | choice | any | tag | size
  deriving DecidableEq, Repr

/-- The fields of one node. `tag` is a context-specific tag number that replaces the
type's own (`[0] IMPLICIT`); `isImplicit` marks the node standing for the content of such a
tagged node, which has no header of its own. -/
structure NodeInfo where
  name : String
  type : NodeType
  tag : Option Nat := none
  isImplicit : Bool := false
  value : Option Bytes := none
  off : Int := -1
  nhdr : Int := 0
  len : Int := 0
  deriving DecidableEq, Repr

/-- A node with its `down` and `right` links; `nil` is the null pointer. -/
inductive AsnNode where
  | nil
  | node (info : NodeInfo) (down right : AsnNode)
  deriving DecidableEq, Repr

namespace AsnNode

/-- `n->down`, with `nil->down` read as `nil`. -/
def down : AsnNode → AsnNode
  | nil => nil
  | node _ d _ => d

/-- `n->right`, with `nil->right` read as `nil`. -/
def right : AsnNode → AsnNode
  | nil => nil
  | node _ _ r => r

/-- The node's type, if there is a node. -/
def type? : AsnNode → Option NodeType
  | nil => none
  | node i _ _ => some i.type

@[simp] theorem down_node (i : NodeInfo) (d r : AsnNode) : (node i d r).down = d := rfl
@[simp] theorem right_node (i : NodeInfo) (d r : AsnNode) : (node i d r).right = r := rfl
@[simp] theorem type?_node (i : NodeInfo) (d r : AsnNode) : (node i d r).type? = some i.type :=
  rfl

end AsnNode

/-! ## Addresses of nodes -/

/-- One link of a walk through the tree. -/
inductive Dir where
  | down | right
  deriving DecidableEq, Repr

/-- The address of a node: the links from the root that lead to it. -/
abbrev Pos := List Dir

/-- The node at an address, with its subtree and its right siblings. -/
def nodeAt : AsnNode → Pos → Option AsnNode
  | .nil, _ => none
  | .node i d r, [] => some (.node i d r)
  | .node _ d _, .down :: p => nodeAt d p
  | .node _ _ r, .right :: p => nodeAt r p

/-- Change the node at an address: `f` gets its fields and its subtree and returns new
ones; its right siblings are kept. This is a store through a node pointer. -/
def modifyAt (f : NodeInfo → AsnNode → Except KsbaError (NodeInfo × AsnNode)) :
    AsnNode → Pos → Except KsbaError AsnNode
  | .nil, _ => .error .elementNotFound
  | .node i d r, [] => (f i d).map fun x => .node x.1 x.2 r
  | .node i d r, .down :: p => (modifyAt f d p).map fun d' => .node i d' r
  | .node i d r, .right :: p => (modifyAt f r p).map fun r' => .node i d r'

@[simp] theorem nodeAt_nil (p : Pos) : nodeAt .nil p = none := by cases p <;> rfl

@[simp] theorem nodeAt_root (i : NodeInfo) (d r : AsnNode) :
    nodeAt (.node i d r) [] = some (.node i d r) := rfl

@[simp] theorem nodeAt_down (i : NodeInfo) (d r : AsnNode) (p : Pos) :
    nodeAt (.node i d r) (.down :: p) = nodeAt d p := rfl

@[simp] theorem nodeAt_right (i : NodeInfo) (d r : AsnNode) (p : Pos) :
    nodeAt (.node i d r) (.right :: p) = nodeAt r p := rfl

theorem nodeAt_append (t : AsnNode) (p q : Pos) :
    nodeAt t (p ++ q) = (nodeAt t p).bind fun n => nodeAt n q := by
  induction p generalizing t with
  | nil => cases t <;> simp
  | cons d p ih => cases t with
    | nil => simp
    | node i dn r => cases d <;> simp [ih]

/-! ## `_ksba_asn_find_node` -/

/-- The components of a dotted path: `"SignerInfos..signedAttrs"` is
`["SignerInfos", "", "signedAttrs"]`. -/
def splitPath : List Char → List String
  | [] => [""]
  | c :: cs =>
    match splitPath cs with
    | [] => [String.singleton c]
    | s :: rest => if c = '.' then "" :: s :: rest else (String.singleton c ++ s) :: rest

/-- The first node named `c` among a node and its right siblings, by its address. -/
def scanName (c : String) : AsnNode → Option Pos
  | .nil => none
  | .node i _ r => if i.name = c then some [] else (scanName c r).map (.right :: ·)

/-- From a node, follow the remaining components: each steps to the first child, then, if
it is not empty, along the siblings to the one of that name. -/
def findDown : AsnNode → List String → Option Pos
  | _, [] => some []
  | .nil, _ :: _ => none
  | .node _ d _, c :: cs =>
    match d with
    | .nil => none
    | .node .. =>
      if c = "" then (findDown d cs).map (.down :: ·)
      else (scanName c d).bind fun q =>
        (nodeAt d q).bind fun n => (findDown n cs).map fun q' => .down :: (q ++ q')

/-- `_ksba_asn_find_node (pointer, name)`: the first component is looked up among
`pointer` and its right siblings, each further one below the node found so far. -/
def asnFindNode (t : AsnNode) (path : String) : Option Pos :=
  if path = "" then none
  else match splitPath path.toList with
    | [] => none
    | c :: cs => (scanName c t).bind fun q =>
        (nodeAt t q).bind fun n => (findDown n cs).map (q ++ ·)

/-- The node `asnFindNode` designates. -/
def findNodeAt (t : AsnNode) (path : String) : Option AsnNode :=
  (asnFindNode t path).bind (nodeAt t)

/-- The first node of a type among a node and its right siblings, by its address: the loop
`for (n = ...; n && n->type != ty; n = n->right);`. -/
def scanType (ty : NodeType) : AsnNode → Option Pos
  | .nil => none
  | .node i _ r => if i.type = ty then some [] else (scanType ty r).map (.right :: ·)

/-! ## Walking a subtree and reading values in an image -/

/-- The bytes `len` long at `start` of an image: what `image + start` points to. A range
that leaves the image is cut at its ends; where the source copies or hashes a range,
`imageRead` is used instead, and the lookups over the image are shown to stay inside it. -/
def imageSlice (img : Bytes) (start len : Int) : Bytes :=
  (img.drop start.toNat).take len.toNat

/-- A read of exactly `len` bytes at `image + start`, as `memcpy` or a `hash_fnc` call
handed a pointer and a length makes it: the bytes when the range lies inside the image,
`none` when it starts before the image or runs past its end. -/
def imageRead (img : Bytes) (start len : Int) : Option Bytes :=
  if 0 ≤ start ∧ 0 ≤ len ∧ start + len ≤ img.length then some (imageSlice img start len)
  else none

/-- A sibling chain in the order of `_ksba_asn_walk_tree`: each node, its subtree, then
its right siblings. -/
def walkChain : AsnNode → List AsnNode
  | .nil => []
  | .node i d r => .node i d r :: (walkChain d ++ walkChain r)

/-- The nodes `_ksba_asn_walk_tree (root, ·)` visits from `root`: `root` and its subtree,
not the siblings of `root`. -/
def walkTree : AsnNode → List AsnNode
  | .nil => []
  | .node i d r => .node i d r :: walkChain d

/-- The value node a SEQUENCE holds when its first child is an OBJECT IDENTIFIER whose
bytes in the image are `oid` and that has a right sibling. -/
def typeValueOf (img oid : Bytes) : AsnNode → Option AsnNode
  | .node i (.node o _ v) _ =>
    if i.type = .sequence ∧ o.type = .objectId ∧ o.off ≠ -1 ∧ o.len = oid.length ∧
        imageSlice img (o.off + o.nhdr) o.len = oid ∧ v ≠ .nil then some v
    else none
  | _ => none

/-- Modelled from the spec: `_ksba_asn_find_type_value (image, root, idx, oid, oidlen)`,
the value of the `idx`-th attribute below `root`, in walk order, whose type is `oid`. -/
def asnFindTypeValue (img : Bytes) (root : AsnNode) (idx : Nat) (oid : Bytes) :
    Option AsnNode :=
  ((walkTree root).filterMap (typeValueOf img oid))[idx]?

end Ksba
