import Affinity.Net.Endpoint
import Affinity.Proofs.Net.AddressReading
/-!
The authority of a peer's endpoint.

An endpoint for a peer takes the written form of the peer's address as its host. The authority
puts the host in brackets when it contains a colon and does not start with a bracket; this test
holds exactly for IPv6 hosts, since a written IPv6 address always has a colon and never starts
with a bracket, and a dotted IPv4 address has no colon. Main statement: the authority is read
back by `SocketAddr.read` as the peer's own address, for every address and port that fit their
kinds, including compressed and IPv4-mapped IPv6 addresses.
-/

namespace Affinity.Net

theorem colon_not_mem_renderV4 {a b c d : Nat} : ':' ∉ (renderV4 [a, b, c, d]).toList := by
  have h : ∀ n, ':' ∉ Nat.toDigits 10 n := fun _ => not_mem_toDigits (by decide) (by decide) rfl
  simp [toList_renderV4, h]

theorem head_joinGroups_append (gs : List Nat) {r : List Char} (hr : r.head? ≠ some '[') :
    ((joinGroups gs).toList ++ r).head? ≠ some '[' := by
  cases gs with
  | nil => simpa [toList_joinGroups_nil] using hr
  | cons g gs =>
    obtain ⟨c, cs, hcs⟩ := List.exists_cons_of_ne_nil (Nat.toDigits_ne_nil (n := g) (b := 16))
    have hc : c ≠ '[' := fun h =>
      not_mem_toDigits (n := g) (by decide) (by decide) rfl (h ▸ hcs ▸ List.mem_cons_self)
    simp [toList_joinGroups_cons, hcs, hc]

/-- A written IPv6 address has a colon and does not start with a bracket. -/
theorem renderV6_shape {gs : List Nat} (hlen : gs.length = 8) :
    ':' ∈ (renderV6 gs).toList ∧ (renderV6 gs).toList.head? ≠ some '[' := by
  unfold renderV6
  split
  next x y => simp
  next =>
    generalize longestZeroRun gs = run
    obtain ⟨s, l⟩ := run
    dsimp only
    split
    · refine ⟨by simp, ?_⟩
      simpa using head_joinGroups_append (gs.take s)
        (r := ':' :: ':' :: (joinGroups (gs.drop (s + l))).toList) (by simp)
    · -- eight groups in full: the first is digits, a colon follows it
      obtain ⟨g, g', gs', rfl⟩ : ∃ g g' gs', gs = g :: g' :: gs' := by
        rcases gs with _ | ⟨g, _ | ⟨g', gs'⟩⟩ <;> simp_all
      refine ⟨by simp [toList_joinGroups_cons, sepGroups], ?_⟩
      simpa using head_joinGroups_append (g :: g' :: gs') (r := []) (by simp)

end Affinity.Net

namespace Affinity.Endpoint

open Net

/-- The bracket test on a peer's host holds exactly for IPv6 addresses. -/
theorem bracket_test_ofPeer {a : SocketAddr} (ha : a.ip.Valid) (tls : Bool) :
    ((ofPeer a tls).host.contains ':' && !(ofPeer a tls).host.startsWith "[") = !a.ip.isV4 := by
  obtain ⟨ip, p⟩ := a
  cases ip with
  | v4 o =>
    obtain ⟨a, b, c, d, rfl, -⟩ := IpAddr.Valid.octets ha
    simp [ofPeer, IpAddr.render, IpAddr.isV4, String.contains_char_eq, colon_not_mem_renderV4]
  | v6 gs =>
    obtain ⟨hcolon, hhead⟩ := renderV6_shape ha.1
    have hbracket : (renderV6 gs).startsWith "[" = false := by
      rw [String.startsWith_string_eq_false_iff]
      rintro ⟨t, ht⟩
      simp [← ht] at hhead
    simp [ofPeer, IpAddr.render, IpAddr.isV4, String.contains_char_eq, hcolon, hbracket]

theorem authority_ofPeer {a : SocketAddr} (ha : a.ip.Valid) (tls : Bool) :
    (ofPeer a tls).authority =
      (if a.ip.isV4 then a.ip.render ++ ":" else "[" ++ a.ip.render ++ "]:") ++
        toString a.port := by
  rw [authority, bracket_test_ofPeer ha]
  cases a.ip.isV4 <;> simp [ofPeer, String.append_assoc]

/-- Reading the authority of a peer's endpoint gives the peer's address back. -/
theorem read_authority_ofPeer {a : SocketAddr} (ha : a.Valid) (tls : Bool) :
    SocketAddr.read (ofPeer a tls).authority = some a := by
  rw [authority_ofPeer ha.1]
  obtain ⟨hip, hport⟩ := ha
  obtain ⟨ip, p⟩ := a
  cases ip with
  | v4 o =>
    obtain ⟨a, b, c, d, rfl, ha, hb, hc, hd⟩ := IpAddr.Valid.octets hip
    simp [SocketAddr.read, IpAddr.isV4, IpAddr.render, socketV4_renderV4 ha hb hc hd hport]
  | v6 gs =>
    obtain ⟨hlen, hgs⟩ := hip
    simp [SocketAddr.read, IpAddr.isV4, IpAddr.render, socketV4_eq_none_of_bracket,
      socketV6_renderV6 hgs hlen hport]

/-- The authority of a peer's endpoint is `host:port` for IPv4 and `[host]:port` for IPv6, the
    bracket test telling the two apart; it reads back as the peer's address, and the display
    form is the scheme followed by it. -/
theorem peer_authority_reads_back (a : SocketAddr) (ha : a.Valid) (tls : Bool) :
    SocketAddr.read (ofPeer a tls).authority = some a ∧
      ((ofPeer a tls).host.contains ':' && !(ofPeer a tls).host.startsWith "[") =
        !a.ip.isV4 ∧
      (ofPeer a tls).authority =
        (if a.ip.isV4 then a.ip.render ++ ":" else "[" ++ a.ip.render ++ "]:") ++
          toString a.port ∧
      (ofPeer a tls).display =
        (if tls then "tls://" else "tcp://") ++ (ofPeer a tls).authority :=
  ⟨read_authority_ofPeer ha tls, bracket_test_ofPeer ha.1 tls, authority_ofPeer ha.1 tls, rfl⟩

/-- An IPv4-mapped peer, `::ffff:192.0.2.1` on port 8080, over TLS. -/
theorem mapped_peer_authority_reads_back :
    let a : SocketAddr := { ip := .v6 [0, 0, 0, 0, 0, 65535, 49152, 513], port := 8080 }
    a.Valid ∧
      SocketAddr.read (ofPeer a true).authority = some a ∧
      ((ofPeer a true).host.contains ':' && !(ofPeer a true).host.startsWith "[") =
        !a.ip.isV4 ∧
      (ofPeer a true).authority =
        (if a.ip.isV4 then a.ip.render ++ ":" else "[" ++ a.ip.render ++ "]:") ++
          toString a.port ∧
      (ofPeer a true).display =
        (if true then "tls://" else "tcp://") ++ (ofPeer a true).authority := by
  intro a
  have ha : a.Valid := ⟨⟨rfl, by simp⟩, by decide⟩
  exact ⟨ha, peer_authority_reads_back a ha true⟩

example : (ofPeer { ip := .v6 [0x2001, 0xdb8, 0, 0, 0, 0, 0, 1], port := 443 } true).display =
    "tls://[2001:db8::1]:443" := by
  cbv

end Affinity.Endpoint
