import Kahea.Plan.Session

/-!
# The Network Boundary

The address test of the executor and the search for the first answered
address it refuses.

The planner has a list of special-purpose ranges of its own,
`isUnsafeAddress`. Everything on it is on the executor's list too
(`unsafeAddress_of_isUnsafeAddress`); `unsafeIpv4` and `unsafeIpv6` name what the
executor has in addition. Neither list looks inside an IPv4-mapped address, so
none of these is refused, whatever it maps (`unsafeAddress_mapped`).

## Main definitions

* `unsafeAddress`: The address test.
* `refusedAddress`: The first address without the grant it needs.

## Theorems

* `unsafeAddress_of_isUnsafeAddress`: The planner's list is the shorter one.
* `unsafeAddress_mapped`: IPv4-mapped addresses pass the test.
* `refusedAddress_eq_none`: When no address is refused.
-/

namespace Kahea

/-- The IPv4 half of `unsafe_address`. -/
def unsafeIpv4 (address : Ipv4Addr) : Bool :=
  address.isPrivate || address.isLinkLocal || address.a == 0 ||
    (address.a == 100 && 64 ≤ address.b && address.b ≤ 127) ||
    (address.a == 192 && address.b == 0) ||
    (address.a == 198 && (address.b == 18 || address.b == 19 || address.b == 51)) ||
    (address.a == 203 && address.b == 0 && address.c == 113) || 240 ≤ address.a

/-- The IPv6 half of `unsafe_address`. -/
def unsafeIpv6 (address : Ipv6Addr) : Bool :=
  address.isUniqueLocal || address.isUnicastLinkLocal ||
    (address.s0 == 0x2001 && address.s1 == 0x0db8) ||
    (address.s0 == 0x0100 && (address.segments.drop 1).all (· == 0))

def unsafeAddress (address : IpAddr) : Bool :=
  address.isLoopback || address.isUnspecified || address.isMulticast ||
    (match address with
      | .v4 address => unsafeIpv4 address
      | .v6 address => unsafeIpv6 address)

-- Private and link-local ranges are tested by both, and the first three
-- tests are the same.
/-- The planner's list is the shorter one. -/
theorem unsafeAddress_of_isUnsafeAddress {address : IpAddr}
    (h : isUnsafeAddress address = true) : unsafeAddress address = true := by
  cases address with
  | v4 x =>
      simp only [isUnsafeAddress, isPrivate, isLinkLocal, Bool.or_eq_true] at h
      simp only [unsafeAddress, unsafeIpv4, Bool.or_eq_true]
      tauto
  | v6 x =>
      simp only [isUnsafeAddress, isPrivate, isLinkLocal, Bool.or_eq_true] at h
      simp only [unsafeAddress, unsafeIpv6, Bool.or_eq_true]
      tauto

/-- The first segment of a mapped address is zero and the sixth is not. -/
theorem unsafeAddress_mapped (a : Ipv4Addr) : unsafeAddress (.v6 a.toIpv6Mapped) = false := by
  have hloopback : a.toIpv6Mapped.isLoopback = false := by
    simp [Ipv6Addr.isLoopback, Ipv4Addr.toIpv6Mapped, Ipv6Addr.ofSegments]
  have hunspecified : a.toIpv6Mapped.isUnspecified = false := by
    simp [Ipv6Addr.isUnspecified, Ipv4Addr.toIpv6Mapped, Ipv6Addr.ofSegments]
  have hranges : a.toIpv6Mapped.isMulticast = false ∧ unsafeIpv6 a.toIpv6Mapped = false := by
    -- Both look at the first segment, which is zero.
    have hfirst : a.toIpv6Mapped.s0 = 0 := rfl
    simp [Ipv6Addr.isMulticast, unsafeIpv6, Ipv6Addr.isUniqueLocal, Ipv6Addr.isUnicastLinkLocal,
      hfirst]
  simp only [unsafeAddress, IpAddr.isLoopback, IpAddr.isUnspecified, IpAddr.isMulticast, hloopback,
    hunspecified, hranges.1, hranges.2, Bool.or_self]

/-- The grant the first refused address would need. The test of both
    executors over the answer of a name server. -/
def refusedAddress (grants : List Str) (addresses : List SocketAddr) : Option Str :=
  (addresses.find? (fun address =>
    unsafeAddress address.ip && !(grants.contains (cidrGrant address.ip)))).map
    (fun address => cidrGrant address.ip)

/-- No address is refused exactly when each unsafe one is granted. -/
theorem refusedAddress_eq_none {grants : List Str} {addresses : List SocketAddr} :
    refusedAddress grants addresses = none ↔
      ∀ address ∈ addresses, unsafeAddress address.ip = true → cidrGrant address.ip ∈ grants := by
  simp only [refusedAddress, Option.map_eq_none_iff, List.find?_eq_none, Bool.and_eq_true,
    Bool.not_eq_true', List.contains_eq_mem, decide_eq_false_iff_not, not_and, not_not]

/-- For one address the answer depends on that address only. -/
theorem refusedAddress_singleton {grants : List Str} {address : SocketAddr} :
    refusedAddress grants [address] = none ↔
      (unsafeAddress address.ip = true → cidrGrant address.ip ∈ grants) := by
  rw [refusedAddress_eq_none]
  simp only [List.mem_singleton, forall_eq]

end Kahea
