import EnclaveRegistry.Der.Primitive

/-! # X.509 certificates

A certificate is read into its parts and written back from them. What is signed is the written
form of the inner part, so a certificate whose issuer signed another form of the same content does
not verify.
-/
namespace EnclaveRegistry.X509

open Der (Element BitString)

structure Algorithm where
  identifier : Bytes
  parameters : Option Element
  deriving DecidableEq, Inhabited

structure Attribute where
  identifier : Bytes
  value : Element
  deriving DecidableEq, Inhabited

structure Extension where
  identifier : Bytes
  critical : Bool
  value : Bytes
  deriving DecidableEq, Inhabited

structure PublicKey where
  algorithm : Algorithm
  key : BitString
  deriving DecidableEq, Inhabited

abbrev Name := List (List Attribute)

/-- The part of a certificate that is signed. -/
structure Content where
  version : Nat
  serial : Bytes
  algorithm : Algorithm
  issuer : Name
  notBefore : Element
  notAfter : Element
  subject : Name
  publicKey : PublicKey
  issuerId : Option BitString
  subjectId : Option BitString
  extensions : Option (List Extension)
  deriving DecidableEq, Inhabited

structure Certificate where
  content : Content
  algorithm : Algorithm
  signature : BitString
  deriving DecidableEq, Inhabited

def identifierElement (identifier : Bytes) : Element := ⟨Der.identifierTag, identifier⟩

def identifier? (element : Element) : Option Bytes :=
  if element.tag = Der.identifierTag ∧ Der.isIdentifier element.content then some element.content
  else none

def bitString? (tag : UInt8) (element : Element) : Option BitString :=
  if element.tag = tag then BitString.ofContent? element.content else none

def Algorithm.ofElement? (element : Element) : Option Algorithm := do
  match ← element.inside? Der.sequenceTag with
  | [identifier] => return ⟨← identifier? identifier, none⟩
  | [identifier, parameters] => return ⟨← identifier? identifier, some parameters⟩
  | _ => none

def Algorithm.toElement (algorithm : Algorithm) : Element :=
  .holding Der.sequenceTag (identifierElement algorithm.identifier :: algorithm.parameters.toList)

def Attribute.ofElement? (element : Element) : Option Attribute := do
  match ← element.inside? Der.sequenceTag with
  | [identifier, value] => return ⟨← identifier? identifier, value⟩
  | _ => none

def Attribute.toElement (a : Attribute) : Element :=
  .holding Der.sequenceTag [identifierElement a.identifier, a.value]

def Attribute.octets (a : Attribute) : Bytes := a.toElement.write

/-- The attributes of a set in the order of their octets. No attribute may be there twice. -/
def attributeSet? (element : Element) : Option (List Attribute) := do
  let attributes ← (← element.inside? Der.setTag).mapM Attribute.ofElement?
  if attributes.Nodup then
    return attributes.mergeSort fun a b => !decide (b.octets < a.octets)
  else none

def name? (element : Element) : Option Name := do
  (← element.inside? Der.sequenceTag).mapM attributeSet?

def nameElement (name : Name) : Element :=
  .holding Der.sequenceTag
    (name.map fun attributes => .holding Der.setTag (attributes.map Attribute.toElement))

def PublicKey.ofElement? (element : Element) : Option PublicKey := do
  match ← element.inside? Der.sequenceTag with
  | [algorithm, key] =>
    return ⟨← Algorithm.ofElement? algorithm, ← bitString? Der.bitStringTag key⟩
  | _ => none

def PublicKey.toElement (key : PublicKey) : Element :=
  .holding Der.sequenceTag [key.algorithm.toElement, ⟨Der.bitStringTag, key.key.content⟩]

def flag? (element : Element) : Option Bool :=
  if element = ⟨0x01, [0]⟩ then some false
  else if element = ⟨0x01, [255]⟩ then some true
  else none

def octetString? (element : Element) : Option Bytes :=
  if element.tag = 0x04 then some element.content else none

/-- The extension of an element; it is not critical unless it says so. -/
def Extension.ofElement? (element : Element) : Option Extension := do
  match ← element.inside? Der.sequenceTag with
  | [identifier, value] => return ⟨← identifier? identifier, false, ← octetString? value⟩
  | [identifier, critical, value] =>
    return ⟨← identifier? identifier, ← flag? critical, ← octetString? value⟩
  | _ => none

/-- The element of an extension; nothing is written for one that is not critical. -/
def Extension.toElement (extension : Extension) : Element :=
  .holding Der.sequenceTag
    (identifierElement extension.identifier ::
      ((if extension.critical then [⟨0x01, [255]⟩] else []) ++ [⟨0x04, extension.value⟩]))

def isContextBelow (number : Nat) (element : Element) : Bool :=
  element.tag.toNat / 64 == 2 && element.tag.toNat % 32 < number

def isContext (number : Nat) (element : Element) : Bool :=
  element.tag.toNat / 64 == 2 && element.tag.toNat % 32 == number

/-- Takes an optional part with a number from the front, skipping elements of lower numbers. -/
def takeContext {α : Type} (number : Nat) (read : Element → Option α) (elements : List Element) :
    Option (Option α × List Element) :=
  match elements.dropWhile (isContextBelow number) with
  | [] => some (none, [])
  | element :: rest =>
    if isContext number element then do return (some (← read element), rest)
    else some (none, element :: rest)

def only? (tag : UInt8) (element : Element) : Option Element := do
  match ← element.inside? tag with
  | [element] => return element
  | _ => none

/-- The version inside its wrapper: the numbers 0 to 2 stand for the versions 1 to 3. -/
def version? (element : Element) : Option Nat := do
  let inner ← only? 0xA0 element
  if inner.tag ≠ Der.integerTag then none else
  match inner.content with
  | [value] => if value.toNat ≤ 2 then return value.toNat else none
  | _ => none

def serial? (element : Element) : Option Bytes :=
  if element.tag = Der.integerTag ∧ Der.isInteger element.content ∧ element.content.length ≤ 21 then
    some element.content
  else none

def validity? (element : Element) : Option (Element × Element) := do
  match ← element.inside? Der.sequenceTag with
  | [notBefore, notAfter] =>
    if Der.isTime notBefore && Der.isTime notAfter then return (notBefore, notAfter) else none
  | _ => none

def extensions? (element : Element) : Option (List Extension) := do
  let inner ← only? 0xA3 element
  (← inner.inside? Der.sequenceTag).mapM Extension.ofElement?

def Content.ofElement? (element : Element) : Option Content := do
  let elements ← element.inside? Der.sequenceTag
  let (version, elements) ← takeContext 0 version? elements
  match elements with
  | serial :: algorithm :: issuer :: validity :: subject :: publicKey :: rest =>
    let (notBefore, notAfter) ← validity? validity
    let (issuerId, rest) ← takeContext 1 (bitString? 0x81) rest
    let (subjectId, rest) ← takeContext 2 (bitString? 0x82) rest
    let (extensions, rest) ← takeContext 3 extensions? rest
    if !rest.isEmpty then none else
    return ⟨version.getD 0, ← serial? serial, ← Algorithm.ofElement? algorithm, ← name? issuer,
      notBefore, notAfter, ← name? subject, ← PublicKey.ofElement? publicKey, issuerId, subjectId,
      extensions⟩
  | _ => none

def Content.toElement (content : Content) : Element :=
  .holding Der.sequenceTag
    ((if content.version = 0 then []
      else [.holding 0xA0 [⟨Der.integerTag, [UInt8.ofNat content.version]⟩]]) ++
      [⟨Der.integerTag, content.serial⟩, content.algorithm.toElement, nameElement content.issuer,
        .holding Der.sequenceTag [content.notBefore, content.notAfter],
        nameElement content.subject, content.publicKey.toElement] ++
      (content.issuerId.toList.map fun bits => ⟨0x81, bits.content⟩) ++
      (content.subjectId.toList.map fun bits => ⟨0x82, bits.content⟩) ++
      (content.extensions.toList.map fun extensions =>
        .holding 0xA3 [.holding Der.sequenceTag (extensions.map Extension.toElement)]))

def Certificate.read (octets : Bytes) : Option Certificate := do
  match ← (← Element.readWhole octets).inside? Der.sequenceTag with
  | [content, algorithm, signature] =>
    return ⟨← Content.ofElement? content, ← Algorithm.ofElement? algorithm,
      ← bitString? Der.bitStringTag signature⟩
  | _ => none

def Certificate.signedOctets (certificate : Certificate) : Bytes :=
  certificate.content.toElement.write

def Certificate.subjectKey (certificate : Certificate) : Bytes :=
  certificate.content.publicKey.key.octets

end EnclaveRegistry.X509
