import InstallAudit.Digest.Blake3
import InstallAudit.Manifest

/-!
# The digest of a manifest

Two manifests have the same digest when they have the same entries: the digest is the BLAKE3 hash
of the written form, in hexadecimal.
-/

namespace InstallAudit

/-- The two hexadecimal digits of a byte. -/
def hexByte (b : UInt8) : Text :=
  [Nat.digitChar (b.toNat / 16), Nat.digitChar (b.toNat % 16)]

/-- The bytes that the digest of a manifest is taken of: each entry in UTF-8 and a line feed. -/
def Manifest.bytes (m : Manifest) : Bytes :=
  Text.encode m.text

/-- The digest of a manifest. -/
def Manifest.digest (m : Manifest) : Text :=
  (Blake3.digest m.bytes).flatMap hexByte

end InstallAudit
