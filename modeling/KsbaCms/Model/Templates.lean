import KsbaCms.Model.Der

/-! # The CMS module's templates

Modelled from the spec: what `_ksba_asn_expand_tree (cms_tree->parse_tree, name)` returns
for the two types `cms.c` expands, `Attribute` and `SignerInfos` (RFC 2630 §5.3), as value-
less nodes. `[0] IMPLICIT SignedAttributes` is a node tagged `[0]` whose only child is the
implicit SET OF; that child starts with its SIZE constraint, then the element template, so
the walk `n->down->down`, then right to the first SEQUENCE, of `cms.c` lands on the
`Attribute` element.
-/

namespace Ksba
set_option autoImplicit false

/-- A template node: a name and a type, no value, not in any image. -/
def tnode (name : String) (type : NodeType) (down right : AsnNode) : AsnNode :=
  .node { name := name, type := type } down right

/-- `Attribute ::= SEQUENCE { attrType OBJECT IDENTIFIER, attrValues SET OF ANY }`,
followed by the siblings `right`. -/
def attributeTemplate (name : String) (right : AsnNode) : AsnNode :=
  tnode name .sequence
    (tnode "attrType" .objectId .nil
      (tnode "attrValues" .setOf (tnode "" .any .nil .nil) .nil))
    right

/-- `[k] IMPLICIT SET SIZE (1..MAX) OF Attribute OPTIONAL`, followed by `right`. -/
def attributesTemplate (name : String) (k : Nat) (right : AsnNode) : AsnNode :=
  .node { name := name, type := .setOf, tag := some k }
    (.node { name := "", type := .setOf, isImplicit := true }
      (tnode "" .size .nil (attributeTemplate "" .nil)) .nil)
    right

/-- `AlgorithmIdentifier ::= SEQUENCE { algorithm OBJECT IDENTIFIER, parameters ANY
OPTIONAL }`, followed by `right`. -/
def algorithmTemplate (name : String) (right : AsnNode) : AsnNode :=
  tnode name .sequence
    (tnode "algorithm" .objectId .nil (tnode "parameters" .any .nil .nil)) right

/-- `SignerIdentifier ::= CHOICE { issuerAndSerialNumber, subjectKeyIdentifier [0] }`,
followed by `right`. -/
def sidTemplate (right : AsnNode) : AsnNode :=
  tnode "sid" .choice
    (tnode "issuerAndSerialNumber" .sequence
      (tnode "issuer" .choice
        (tnode "rdnSequence" .sequenceOf
          (tnode "" .setOf
            (tnode "" .sequence (tnode "type" .objectId .nil (tnode "value" .any .nil .nil))
              .nil) .nil) .nil)
        (tnode "serialNumber" .integer .nil .nil))
      (.node { name := "subjectKeyIdentifier", type := .octetString, tag := some 0 }
        .nil .nil))
    right

/-- `SignerInfos ::= SET OF SignerInfo`, the element holding `version`, `sid`,
`digestAlgorithm`, `signedAttrs`, `signatureAlgorithm`, `signature` and `unsignedAttrs`.
`signedAttrs` stands for the subtree below that node. -/
def signerInfosWith (signedAttrs : AsnNode) : AsnNode :=
  tnode "SignerInfos" .setOf
    (tnode "" .sequence
      (tnode "version" .integer .nil
        (sidTemplate
          (algorithmTemplate "digestAlgorithm"
            (.node { name := "signedAttrs", type := .setOf, tag := some 0 } signedAttrs
              (algorithmTemplate "signatureAlgorithm"
                (tnode "signature" .octetString .nil
                  (attributesTemplate "unsignedAttrs" 1 .nil)))))))
      .nil)
    .nil

/-- The implicit SET OF below `signedAttrs`, with `elem` in place of the element. -/
def signedAttrsBody (elem : AsnNode) : AsnNode :=
  .node { name := "", type := .setOf, isImplicit := true } (tnode "" .size .nil elem) .nil

/-- The `SignerInfos` template. -/
def signerInfosTemplate : AsnNode :=
  signerInfosWith (signedAttrsBody (attributeTemplate "" .nil))

/-- Modelled from the spec: `_ksba_asn_expand_tree (parse_tree, name)` for the CMS module. -/
def asnExpandTree (name : String) : Option AsnNode :=
  if name = "CryptographicMessageSyntax.Attribute" then some (attributeTemplate "Attribute" .nil)
  else if name = "CryptographicMessageSyntax.SignerInfos" then some signerInfosTemplate
  else none

end Ksba
