import BlobFs.Certificate.Der
import BlobFs.Certificate.Pem

/-!
# Bundles of certificate authorities

A bundle is a PEM text of the certificates that are trusted.  Sections of other kinds may stand
between them, but every certificate that is begun must be ended and must be one.
-/

set_option autoImplicit false

namespace BlobFs.Bundle

/-- Whether the bytes have the outer form of a certificate: what is certified, how it is signed and
the signature. -/
def isCertificate (der : Bytes) : Bool :=
  match DerItem.readAll? der with
  | some [.sequence [.sequence _, .sequence _, .bitString _]] => true
  | _ => false

/-- The sections of certificates in a text, none if one of them is not ended.  Each takes at least
one character off the text, so its length bounds their number. -/
def bodies? : Nat → List Char → Option (List (List Char))
  | 0, _ => some []
  | count + 1, text =>
    match Text.cutAt (Pem.beginMarker "CERTIFICATE") text with
    | none => some []
    | some (_, after) =>
      match Text.cutAt (Pem.endMarker "CERTIFICATE") after with
      | none => none
      | some (body, rest) => (bodies? count rest).map (body :: ·)

/-- What is wrong with a bundle, if anything is. -/
def problem? (text : String) : Option String :=
  match bodies? text.length text.toList with
  | none => some "missing section end marker"
  | some bodies =>
    match bodies.mapM fun body ↦ (Base64.decode (Pem.looseContents body)).toOption with
    | none => some "invalid certificate encoding"
    | some ders => if ders.all isCertificate then none else some "invalid certificate encoding"

end BlobFs.Bundle
