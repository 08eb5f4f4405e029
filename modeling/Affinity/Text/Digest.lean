/-!
Digests of byte strings: 64-bit FNV-1a.

`fnv1a` starts from the offset basis `0xcbf29ce484222325` and, for each byte, takes the
exclusive or with the byte and multiplies by the prime `0x100000001b3`, modulo 2^64.
`hex16` writes a word as sixteen lowercase hexadecimal digits.
-/

namespace Affinity.Text

/-- The 64-bit FNV-1a digest of a byte string. -/
def fnv1a (bytes : ByteArray) : UInt64 :=
  bytes.foldl (fun h b => (h ^^^ b.toUInt64) * 0x100000001b3) 0xcbf29ce484222325

/-- A word as sixteen lowercase hexadecimal digits. -/
def hex16 (w : UInt64) : String :=
  let ds := Nat.toDigits 16 w.toNat
  String.ofList (List.replicate (16 - ds.length) '0' ++ ds)

end Affinity.Text
