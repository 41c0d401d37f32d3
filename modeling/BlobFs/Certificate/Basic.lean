import BlobFs.Certificate.Der
import BlobFs.Certificate.Pem
import BlobFs.Codec.Sha1
import BlobFs.Error

/-!
# Client certificates

A service principal may prove who it is with a certificate and the private RSA key that belongs to
it.  Both stand in one PEM text, in any order.  Of the certificate only its thumbprint is used, the
digest of its bytes, so the bytes need not be a certificate at all; of the key it is checked here
that it is an RSA key, in either of the two usual wrappings.  Whether its numbers fit together shows
only when something is signed with it.
-/

set_option autoImplicit false

namespace BlobFs

/-- A private RSA key, as the DER of its numbers. -/
structure RsaKey where
  der : Bytes
  deriving DecidableEq

namespace RsaKey

/-- The algorithms that a wrapped key may be for. -/
inductive Algorithm where
  | rsa
  | ellipticCurve
  | edwardsCurve
  deriving DecidableEq

/-- The algorithm that an object identifier names. -/
def Algorithm.ofItem? : DerItem → Option Algorithm
  | .objectId [1, 2, 840, 113549, 1, 1, 1] => some .rsa
  | .objectId [1, 2, 840, 10045, 2, 1] => some .ellipticCurve
  | .objectId [1, 3, 101, 112] => some .edwardsCurve
  | _ => none

/-- The bytes of an item that wraps others. -/
def wrapped? : DerItem → Option Bytes
  | .bitString bytes => some bytes
  | .octetString bytes => some bytes
  | _ => none

/-- What is said of a key in any other format. -/
def unknownFormat : String := "InvalidKeyFormat"

/-- What is said of a wrapping with no key in it. -/
def nothingWrapped : String := "InvalidEcdsaKey"

/-- The key in a section that names its algorithm and wraps the key. -/
def ofWrapped (sectionText : List Char) : Except String RsaKey :=
  match (Pem.strictContents? sectionText).bind DerItem.readAll? with
  | none => .error unknownFormat
  | some items =>
    match DerItem.findFirst Algorithm.ofItem? items with
    | some .rsa =>
      match DerItem.findFirst wrapped? items with
      | some der => .ok { der }
      | none => .error nothingWrapped
    | _ => .error unknownFormat

/-- The key in a section that holds nothing but an RSA key. -/
def ofPlain (sectionText : List Char) : Except String RsaKey :=
  match Pem.strictContents? sectionText with
  | none => .error unknownFormat
  | some der => if (DerItem.readAll? der).isSome then .ok { der } else .error unknownFormat

/-- The first key in a PEM text; a wrapped one comes before a plain one. -/
def ofPem (pem : List Char) : Except CertificateProblem RsaKey :=
  match Pem.section? "PRIVATE KEY" pem, Pem.section? "RSA PRIVATE KEY" pem with
  | some sectionText, _ => (ofWrapped sectionText).mapError .badPrivateKey
  | none, some sectionText => (ofPlain sectionText).mapError .badPrivateKey
  | none, none => .error .noPrivateKey

end RsaKey

/-- What a service principal needs of a certificate. -/
structure ClientCertificate where
  /-- The digest of the certificate's bytes in base64 for URLs. -/
  thumbprint : String
  key : RsaKey
  deriving DecidableEq

namespace ClientCertificate

/-- The thumbprint of a certificate's bytes. -/
def thumbprintOf (der : Bytes) : String :=
  String.ofList (Base64.encodeForUrl (Sha1.digest der))

/-- The certificate and the key in a PEM text. -/
def ofPem (pem : List Char) : Except CertificateProblem ClientCertificate :=
  match Pem.section? "CERTIFICATE" pem with
  | none => .error .noCertificate
  | some sectionText =>
    match Base64.decode (Pem.looseContents sectionText) with
    | .error problem => .error (.badBase64 problem.describe)
    | .ok der =>
      match RsaKey.ofPem pem with
      | .error problem => .error problem
      | .ok key => .ok { thumbprint := thumbprintOf der, key }

end ClientCertificate

end BlobFs
