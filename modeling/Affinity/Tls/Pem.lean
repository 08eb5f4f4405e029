/-!
PEM material as certificate and key checks see it.

A PEM file is read as a sequence of sections. A section holds a certificate or a private key,
whose DER body is either well formed over some key pair or malformed; a section whose body is
not valid base64 cannot be read at all. Text around sections, and sections of other kinds,
are not represented: reading skips them.

* `certificates` collects every certificate, failing at the first unreadable section.
* `firstKey` returns the first private key, failing if an unreadable section comes first.
-/

namespace Affinity.Pem

/-- The DER body of a certificate or key. -/
inductive Der where
  /-- Well formed; `pair` names the key pair the certificate or key belongs to. -/
  | wellFormed (pair : Nat)
  /-- Bytes that do not parse as what the section claims. -/
  | malformed
  deriving DecidableEq, Repr

/-- A section of a PEM file. -/
inductive Section where
  | certificate (der : Der)
  | privateKey (der : Der)
  /-- A section whose body is not valid base64. -/
  | unreadable
  deriving DecidableEq, Repr

/-- Every certificate of a file in order, or nothing if a section cannot be read. -/
def certificates : List Section → Option (List Der)
  | [] => some []
  | .certificate d :: r => (certificates r).map (d :: ·)
  | .privateKey _ :: r => certificates r
  | .unreadable :: _ => none

/-- The first private key of a file: `some none` when there is none, `none` when a section
    before it cannot be read. -/
def firstKey : List Section → Option (Option Der)
  | [] => some none
  | .privateKey d :: _ => some (some d)
  | .certificate _ :: r => firstKey r
  | .unreadable :: _ => none

end Affinity.Pem
