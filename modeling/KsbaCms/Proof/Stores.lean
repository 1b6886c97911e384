import KsbaCms.Proof.Layout

/-! # Stores through node pointers

`build_signed_data_rest` builds a signer's SignerInfos by nine stores and copies into the
template, each through a pointer `_ksba_asn_find_node` has just returned. Three facts about
`modifyAt` say what each later lookup finds and what the stores leave alone.

* `namesTo k`: the names of the nodes fewer than `k` links `down` from the root, with the
  links between them. `_ksba_asn_find_node` on a path of at most `k` components reads no
  more (`asnFindNode_namesTo`). A store that keeps the name of the node it changes keeps
  them, unless it changes the children of a node fewer than `k - 1` links down
  (`namesTo_modifyAt`).
* `Pos.apart`: two addresses neither of which leads into the subtree of the other's node.
  A store at one leaves the node at the other, with its subtree (`nodeAt_modifyAt_apart`).
* `modifyAt_append`: a store at `p ++ q` is a store at `q` in the subtree at `p`.

`Agrees k q` collects what these keep; `Agrees.of_modifyAt` is the step lemma.
-/

namespace Ksba
set_option autoImplicit false

theorem except_bind_eq_ok {ε α β : Type} {x : Except ε α} {g : α → Except ε β} {b : β}
    (h : x >>= g = .ok b) : ∃ a, x = .ok a ∧ g a = .ok b := by
  cases x with
  | error e => cases h
  | ok a => exact ⟨a, rfl, h⟩

theorem except_map_eq_ok {ε α β : Type} {x : Except ε α} {g : α → β} {b : β}
    (h : x.map g = .ok b) : ∃ a, x = .ok a ∧ g a = b := by
  cases x with
  | error e => cases h
  | ok a => exact ⟨a, rfl, Except.ok.inj h⟩

/-! ## One store, link by link -/

section Inversion

variable {f : NodeInfo → AsnNode → Except KsbaError (NodeInfo × AsnNode)} {t t' : AsnNode}
  {p : Pos}

theorem modifyAt_root_ok (h : modifyAt f t [] = .ok t') :
    ∃ i d r x, t = .node i d r ∧ f i d = .ok x ∧ t' = .node x.1 x.2 r := by
  cases t with
  | nil => cases h
  | node i d r =>
    obtain ⟨x, hx, rfl⟩ := except_map_eq_ok h
    exact ⟨i, d, r, x, rfl, hx, rfl⟩

theorem modifyAt_down_ok (h : modifyAt f t (.down :: p) = .ok t') :
    ∃ i d r d', t = .node i d r ∧ modifyAt f d p = .ok d' ∧ t' = .node i d' r := by
  cases t with
  | nil => cases h
  | node i d r =>
    obtain ⟨d', hd, rfl⟩ := except_map_eq_ok h
    exact ⟨i, d, r, d', rfl, hd, rfl⟩

theorem modifyAt_right_ok (h : modifyAt f t (.right :: p) = .ok t') :
    ∃ i d r r', t = .node i d r ∧ modifyAt f r p = .ok r' ∧ t' = .node i d r' := by
  cases t with
  | nil => cases h
  | node i d r =>
    obtain ⟨r', hr, rfl⟩ := except_map_eq_ok h
    exact ⟨i, d, r, r', rfl, hr, rfl⟩

/-- What a store returns is a node. -/
theorem nodeAt_modifyAt_root (h : modifyAt f t p = .ok t') : nodeAt t' [] = some t' := by
  cases t with
  | nil => cases h
  | node i d r =>
    rcases p with _ | ⟨_ | _, p⟩ <;> obtain ⟨_, -, rfl⟩ := except_map_eq_ok h <;> rfl

/-- A store at `p ++ q` is a store at `q` in the subtree at `p`, and its result is the new
subtree at `p`. -/
theorem modifyAt_append {q : Pos} (h : modifyAt f t (p ++ q) = .ok t') :
    ∃ n n', nodeAt t p = some n ∧ modifyAt f n q = .ok n' ∧ nodeAt t' p = some n' := by
  induction p generalizing t t' with
  | nil =>
    cases t with
    | nil => cases h
    | node i d r => exact ⟨_, _, rfl, h, nodeAt_modifyAt_root h⟩
  | cons a p ih =>
    cases a
    case down =>
      obtain ⟨i, d, r, d', rfl, hd, rfl⟩ := modifyAt_down_ok h
      exact ih hd
    case right =>
      obtain ⟨i, d, r, r', rfl, hr, rfl⟩ := modifyAt_right_ok h
      exact ih hr

end Inversion

/-! ## Names -/

/-- The number of `down` links of an address: how deep below the root its node is. -/
def Pos.depth : Pos → Nat
  | [] => 0
  | .down :: p => depth p + 1
  | .right :: p => depth p

@[simp] theorem Pos.depth_nil : Pos.depth [] = 0 := rfl
@[simp] theorem Pos.depth_down (p : Pos) : Pos.depth (.down :: p) = p.depth + 1 := rfl
@[simp] theorem Pos.depth_right (p : Pos) : Pos.depth (.right :: p) = p.depth := rfl

/-- A tree's names fewer than `k` links `down` from its sibling chain, each node keeping
only its name. -/
def namesTo : Nat → AsnNode → AsnNode
  | 0, _ => .nil
  | _ + 1, .nil => .nil
  | k + 1, .node i d r => .node { name := i.name, type := .any } (namesTo k d) (namesTo (k + 1) r)

@[simp] theorem namesTo_zero (t : AsnNode) : namesTo 0 t = .nil := by cases t <;> rfl
@[simp] theorem namesTo_nil (k : Nat) : namesTo k .nil = .nil := by cases k <;> rfl
@[simp] theorem namesTo_node (k : Nat) (i : NodeInfo) (d r : AsnNode) :
    namesTo (k + 1) (.node i d r) =
      .node { name := i.name, type := .any } (namesTo k d) (namesTo (k + 1) r) := rfl

theorem scanName_namesTo (c : String) (k : Nat) (t : AsnNode) :
    scanName c (namesTo (k + 1) t) = scanName c t := by
  induction t with
  | nil => rfl
  | node i d r _ ih => simp [scanName, ih]

theorem scanName_depth {c : String} {t : AsnNode} {q : Pos} (h : scanName c t = some q) :
    q.depth = 0 := by
  induction t generalizing q with
  | nil => cases h
  | node i d r _ ih =>
    simp only [scanName] at h
    split_ifs at h
    · cases h; rfl
    · obtain ⟨q', hq', rfl⟩ := Option.map_eq_some'.mp h
      simpa using ih hq'

/-- Below the root, `namesTo` keeps as many links `down` as are left. -/
theorem nodeAt_namesTo (k : Nat) (t : AsnNode) (p : Pos) (hp : p.depth < k) :
    nodeAt (namesTo k t) p = (nodeAt t p).map (namesTo (k - p.depth)) := by
  induction p generalizing k t with
  | nil =>
    obtain ⟨k, rfl⟩ : ∃ k', k = k' + 1 := ⟨k - 1, by simp at hp; omega⟩
    cases t <;> simp
  | cons a p ih =>
    obtain ⟨k, rfl⟩ : ∃ k', k = k' + 1 := ⟨k - 1, by omega⟩
    cases t with
    | nil => simp
    | node i d r =>
      cases a
      case down =>
        simp only [Pos.depth_down] at hp
        simp [ih k d (by omega)]
      case right => simp [ih (k + 1) r hp]

/-- A lookup by name along a sibling chain, then down the components `cs`, reads only the
names `namesTo` keeps. -/
theorem scanFind_namesTo {k : Nat} {cs : List String}
    (ih : ∀ n, findDown (namesTo (k + 1) n) cs = findDown n cs) (c : String) (t : AsnNode)
    (g : Pos → Pos → Pos) :
    ((scanName c (namesTo (k + 1) t)).bind fun q =>
        (nodeAt (namesTo (k + 1) t) q).bind fun n => (findDown n cs).map (g q)) =
      ((scanName c t).bind fun q => (nodeAt t q).bind fun n => (findDown n cs).map (g q)) := by
  rw [scanName_namesTo]
  cases hq : scanName c t with
  | none => rfl
  | some q =>
    simp only [Option.some_bind]
    rw [nodeAt_namesTo _ _ _ (by rw [scanName_depth hq]; omega), scanName_depth hq]
    cases nodeAt t q <;> simp [ih]

theorem findDown_namesTo (cs : List String) :
    ∀ (k : Nat) (n : AsnNode), cs.length < k → findDown (namesTo k n) cs = findDown n cs := by
  induction cs with
  | nil => intro k n _; cases k <;> cases n <;> rfl
  | cons c cs ih =>
    intro k n hk
    obtain ⟨k, rfl⟩ : ∃ k', k = k' + 2 := ⟨k - 2, by simp at hk; omega⟩
    cases n with
    | nil => rfl
    | node i d r =>
      cases d with
      | nil => rfl
      | node di dd dr =>
        simp only [namesTo_node, findDown]
        split_ifs
        · rw [← namesTo_node, ih (k + 1) _ (by simp at hk; omega)]
        · rw [← namesTo_node]
          exact scanFind_namesTo (fun n => ih (k + 1) n (by simp at hk; omega))
            c _ _

/-- `_ksba_asn_find_node` on a path of at most `k` components reads only the names
`namesTo k` keeps. -/
theorem asnFindNode_namesTo (k : Nat) (t : AsnNode) (path : String)
    (h : (splitPath path.toList).length ≤ k) :
    asnFindNode (namesTo k t) path = asnFindNode t path := by
  unfold asnFindNode
  split_ifs
  · rfl
  · split
    · rfl
    · rename_i c cs hs
      rw [hs] at h
      obtain ⟨k, rfl⟩ : ∃ k', k = k' + 1 := ⟨k - 1, by simp at h; omega⟩
      exact scanFind_namesTo (fun n => findDown_namesTo cs (k + 1) n (by simp at h; omega)) c t _

/-- A store that keeps the name of the node it changes keeps `namesTo k`, when it keeps the
node's children or the node is `k - 1` links down or deeper. -/
theorem namesTo_modifyAt {f : NodeInfo → AsnNode → Except KsbaError (NodeInfo × AsnNode)}
    {t t' : AsnNode} {p : Pos} {k : Nat} (h : modifyAt f t p = .ok t')
    (hname : ∀ i d x, f i d = .ok x → x.1.name = i.name)
    (hkids : k ≤ p.depth + 1 ∨ ∀ i d x, f i d = .ok x → x.2 = d) :
    namesTo k t' = namesTo k t := by
  induction p generalizing t t' k with
  | nil =>
    obtain ⟨i, d, r, x, rfl, hx, rfl⟩ := modifyAt_root_ok h
    rcases k with _ | _ | k
    · rfl
    · simp [hname i d x hx]
    · rcases hkids with hk | hk
      · simp at hk
      · simp [hname i d x hx, hk i d x hx]
  | cons a p ih =>
    cases a
    case down =>
      obtain ⟨i, d, r, d', rfl, hd, rfl⟩ := modifyAt_down_ok h
      rcases k with _ | k
      · rfl
      · simp only [namesTo_node, @ih d d' k hd (hkids.imp_left fun hk => by simp at hk; omega)]
    case right =>
      obtain ⟨i, d, r, r', rfl, hr, rfl⟩ := modifyAt_right_ok h
      rcases k with _ | k
      · rfl
      · simp only [namesTo_node, ih hr hkids]

/-! ## Nodes a store is not aimed at -/

/-- A node with its subtree, without its right siblings. -/
def AsnNode.alone : AsnNode → AsnNode
  | .nil => .nil
  | .node i d _ => .node i d .nil

/-- The fields of a node, if there is one. -/
def AsnNode.top : AsnNode → Option NodeInfo
  | .nil => none
  | .node i _ _ => some i

/-- Two addresses neither of which leads into the subtree of the other's node: they part
at a link, or one continues the other to the right. -/
def Pos.apart : Pos → Pos → Bool
  | [], .right :: _ => true
  | .right :: _, [] => true
  | a :: p, b :: q => if a = b then apart p q else true
  | _, _ => false

theorem nodeAt_down_alone (n : AsnNode) (q : Pos) :
    nodeAt n (.down :: q) = nodeAt n.alone (.down :: q) := by
  cases n <;> rfl

/-- A store at one of two addresses that are apart leaves the node at the other, with its
subtree, as it was. -/
theorem nodeAt_modifyAt_apart {f : NodeInfo → AsnNode → Except KsbaError (NodeInfo × AsnNode)}
    {t t' : AsnNode} {p q : Pos} (h : modifyAt f t p = .ok t') (hpq : p.apart q = true) :
    (nodeAt t' q).map AsnNode.alone = (nodeAt t q).map AsnNode.alone := by
  induction p generalizing t t' q with
  | nil =>
    obtain ⟨i, d, r, x, rfl, -, rfl⟩ := modifyAt_root_ok h
    rcases q with _ | ⟨_ | _, q⟩ <;> simp [Pos.apart] at hpq
    rfl
  | cons a p ih =>
    cases a
    case down =>
      obtain ⟨i, d, r, d', rfl, hd, rfl⟩ := modifyAt_down_ok h
      rcases q with _ | ⟨_ | _, q⟩ <;> simp [Pos.apart] at hpq
      · simp only [nodeAt_down]
        exact ih hd hpq
      · rfl
    case right =>
      obtain ⟨i, d, r, r', rfl, hr, rfl⟩ := modifyAt_right_ok h
      rcases q with _ | ⟨_ | _, q⟩ <;> simp [Pos.apart] at hpq
      · rfl
      · rfl
      · simp only [nodeAt_right]
        exact ih hr hpq

/-- A store below a node, seen from the node without its right siblings. -/
theorem modifyAt_alone (f : NodeInfo → AsnNode → Except KsbaError (NodeInfo × AsnNode))
    (n : AsnNode) (q : Pos) :
    modifyAt f n.alone (.down :: q) = (modifyAt f n (.down :: q)).map AsnNode.alone := by
  cases n with
  | nil => rfl
  | node i d r =>
    simp only [AsnNode.alone, modifyAt]
    cases modifyAt f d q <;> rfl

theorem top_modifyAt {f : NodeInfo → AsnNode → Except KsbaError (NodeInfo × AsnNode)}
    {t t' : AsnNode} {a : Dir} {p : Pos} (h : modifyAt f t (a :: p) = .ok t') :
    t'.top = t.top := by
  cases a
  case down => obtain ⟨i, d, r, d', rfl, -, rfl⟩ := modifyAt_down_ok h; rfl
  case right => obtain ⟨i, d, r, r', rfl, -, rfl⟩ := modifyAt_right_ok h; rfl

theorem down_top_modifyAt {f : NodeInfo → AsnNode → Except KsbaError (NodeInfo × AsnNode)}
    {t t' : AsnNode} {a : Dir} {p : Pos} (h : modifyAt f t (.down :: a :: p) = .ok t') :
    t'.down.top = t.down.top := by
  obtain ⟨i, d, r, d', rfl, hd, rfl⟩ := modifyAt_down_ok h
  exact top_modifyAt hd

/-! ## What a run of stores keeps -/

/-- Two trees that agree on what a lookup of at most `k` components reads, on the fields of
the root and of its first child, and on the node at `q` with its subtree. -/
structure Agrees (k : Nat) (q : Pos) (t u : AsnNode) : Prop where
  names : namesTo k t = namesTo k u
  top : t.top = u.top
  downTop : t.down.top = u.down.top
  atQ : (nodeAt t q).map AsnNode.alone = (nodeAt u q).map AsnNode.alone

theorem Agrees.refl (k : Nat) (q : Pos) (t : AsnNode) : Agrees k q t t := ⟨rfl, rfl, rfl, rfl⟩

theorem Agrees.trans {k : Nat} {q : Pos} {t u v : AsnNode} (h₁ : Agrees k q t u)
    (h₂ : Agrees k q u v) : Agrees k q t v :=
  ⟨h₁.names.trans h₂.names, h₁.top.trans h₂.top, h₁.downTop.trans h₂.downTop,
    h₁.atQ.trans h₂.atQ⟩

/-- One store below the first child of the root, apart from `q`, that keeps the name of the
node it changes, and its children unless that node is `k - 1` links down or deeper. -/
theorem Agrees.of_modifyAt {f : NodeInfo → AsnNode → Except KsbaError (NodeInfo × AsnNode)}
    {k : Nat} {q p : Pos} {t t' : AsnNode} (h : modifyAt f t (.down :: .down :: p) = .ok t')
    (hname : ∀ i d x, f i d = .ok x → x.1.name = i.name)
    (hkids : k ≤ p.depth + 3 ∨ ∀ i d x, f i d = .ok x → x.2 = d)
    (hq : Pos.apart (.down :: .down :: p) q = true) : Agrees k q t' t :=
  ⟨namesTo_modifyAt h hname (by simpa using hkids), top_modifyAt h, down_top_modifyAt h,
    nodeAt_modifyAt_apart h hq⟩

/-- A lookup in two trees that agree reads the same address. -/
theorem Agrees.find_eq {k : Nat} {q : Pos} {t u : AsnNode} (h : Agrees k q t u)
    {path : String} (hp : (splitPath path.toList).length ≤ k) :
    asnFindNode t path = asnFindNode u path := by
  rw [← asnFindNode_namesTo k t path hp, h.names, asnFindNode_namesTo k u path hp]

/-- A lookup from a node of two trees that agree, `p.depth` links down, reads the same
address when the path has at most `k - p.depth` components. -/
theorem Agrees.find_eq_at {k : Nat} {q p : Pos} {t u n m : AsnNode} (h : Agrees k q t u)
    (hp : p.depth < k) (hn : nodeAt t p = some n) (hm : nodeAt u p = some m) {path : String}
    (hl : (splitPath path.toList).length ≤ k - p.depth) :
    asnFindNode n path = asnFindNode m path := by
  have e := nodeAt_namesTo k t p hp
  rw [h.names, nodeAt_namesTo k u p hp, hn, hm, Option.map_some', Option.map_some',
    Option.some.injEq] at e
  rw [← asnFindNode_namesTo _ n path hl, ← e, asnFindNode_namesTo _ m path hl]

/-! ## The stores of the model -/

theorem storeTyped_name {ty : NodeType} {v : Bytes} {i : NodeInfo} {d : AsnNode}
    {x : NodeInfo × AsnNode} (h : storeTyped ty v i d = .ok x) : x.1.name = i.name := by
  unfold storeTyped at h
  split_ifs at h
  cases h
  rfl

theorem storeTyped_children {ty : NodeType} {v : Bytes} {i : NodeInfo} {d : AsnNode}
    {x : NodeInfo × AsnNode} (h : storeTyped ty v i d = .ok x) : x.2 = d := by
  unfold storeTyped at h
  split_ifs at h
  cases h
  rfl

theorem copyNode_name {src : AsnNode} {img : Bytes} {i : NodeInfo} {d : AsnNode}
    {x : NodeInfo × AsnNode} (h : copyNode src img i d = .ok x) : x.1.name = i.name := by
  unfold copyNode at h
  split at h
  · cases h
  · split_ifs at h
    cases h
    rfl

/-- A store of a typed value: `_ksba_der_store_oid`, `_ksba_der_store_null`,
`_ksba_der_store_octet_string` or `_ksba_der_store_integer`. -/
def StoredAt (p : Pos) (t t' : AsnNode) : Prop :=
  ∃ ty v, modifyAt (storeTyped ty v) t p = .ok t'

theorem derStoreOid_storedAt {t t' : AsnNode} {p : Pos} {oid : String}
    (h : derStoreOid t p oid = .ok t') : StoredAt p t t' := by
  unfold derStoreOid at h
  split at h
  · exact ⟨_, _, h⟩
  · cases h

theorem derStoreNull_storedAt {t t' : AsnNode} {p : Pos} (h : derStoreNull t p = .ok t') :
    StoredAt p t t' := ⟨_, _, h⟩

theorem derStoreOctetString_storedAt {t t' : AsnNode} {p : Pos} {buf : Bytes}
    (h : derStoreOctetString t p buf = .ok t') : StoredAt p t t' := ⟨_, _, h⟩

theorem derStoreInteger_storedAt {t t' : AsnNode} {p : Pos} {buf : Bytes}
    (h : derStoreInteger t p buf = .ok t') : StoredAt p t t' := by
  unfold derStoreInteger at h
  split at h
  · exact ⟨_, _, h⟩
  · cases h

theorem Agrees.of_storedAt {k : Nat} {q p : Pos} {t t' : AsnNode}
    (h : StoredAt (.down :: .down :: p) t t') (hq : Pos.apart (.down :: .down :: p) q = true) :
    Agrees k q t' t := by
  obtain ⟨ty, v, h⟩ := h
  exact .of_modifyAt h (fun _ _ _ => storeTyped_name) (.inr fun _ _ _ => storeTyped_children) hq

/-- A copy into a node at least `k - 3` links below the root's first child. -/
theorem Agrees.of_derCopyTree {k : Nat} {q p : Pos} {t t' : AsnNode} {dst : Option Pos}
    {src : Option AsnNode} {img : Bytes} (h : derCopyTree t dst src img = .ok t')
    (hdst : dst = some (.down :: .down :: p)) (hk : k ≤ p.depth + 3)
    (hq : Pos.apart (.down :: .down :: p) q = true) : Agrees k q t' t := by
  subst hdst
  cases src with
  | none => cases h
  | some s =>
    exact .of_modifyAt (show modifyAt (copyNode s img) t _ = .ok t' from h)
      (fun _ _ _ => copyNode_name) (.inl hk) hq

end Ksba
