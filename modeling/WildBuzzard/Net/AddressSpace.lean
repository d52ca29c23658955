import Mathlib.Tactic.NormNum
import Mathlib.Tactic.SplitIfs

/-!
# Address spaces

Which part of the network an address belongs to, and which transitions between the parts need a
permission. `classifyIpAddressSpace` follows the tests of the source on octets and segments.

* `classifyIpAddressSpace_eq`: **the classification is that of the blocks of addresses**
  (`Blocks.space`), an IPv4 address that is mapped into IPv6 included.
* `depth_le_of_authorize`, `local_of_authorize`: what the transitions that need no permission, or no
  permission for local targets, can lead to.
-/

namespace WildBuzzard.Net

open List

/-! ## Addresses -/

/-- Source: `std::net::Ipv4Addr`, by its octets. -/
structure Ipv4Addr where
  first : UInt8
  second : UInt8
  third : UInt8
  fourth : UInt8
  deriving DecidableEq, Repr

/-- Source: `std::net::Ipv6Addr`, by its segments. -/
structure Ipv6Addr where
  s0 : UInt16
  s1 : UInt16
  s2 : UInt16
  s3 : UInt16
  s4 : UInt16
  s5 : UInt16
  s6 : UInt16
  s7 : UInt16
  deriving DecidableEq, Repr

/-- Source: `std::net::IpAddr`. -/
inductive IpAddr where
  | v4 (address : Ipv4Addr)
  | v6 (address : Ipv6Addr)
  deriving DecidableEq, Repr

/-- Source: `std::net::SocketAddr`, without the flow label and scope that the client leaves 0. -/
structure SocketAddr where
  ip : IpAddr
  port : UInt16
  deriving DecidableEq, Repr

/-- Source: `Ipv4Addr::is_loopback`. -/
def Ipv4Addr.isLoopback (address : Ipv4Addr) : Bool := address.first = 127

/-- Source: `Ipv4Addr::is_unspecified`. -/
def Ipv4Addr.isUnspecified (address : Ipv4Addr) : Bool := address = ⟨0, 0, 0, 0⟩

/-- Source: `Ipv6Addr::is_loopback`. -/
def Ipv6Addr.isLoopback (address : Ipv6Addr) : Bool := address = ⟨0, 0, 0, 0, 0, 0, 0, 1⟩

/-- Source: `Ipv6Addr::is_unspecified`. -/
def Ipv6Addr.isUnspecified (address : Ipv6Addr) : Bool := address = ⟨0, 0, 0, 0, 0, 0, 0, 0⟩

/-- Source: `Ipv6Addr::to_ipv4_mapped`. -/
def Ipv6Addr.toIpv4Mapped (address : Ipv6Addr) : Option Ipv4Addr :=
  if address.s0 = 0 ∧ address.s1 = 0 ∧ address.s2 = 0 ∧ address.s3 = 0 ∧ address.s4 = 0 ∧
      address.s5 = 0xffff then
    some ⟨(address.s6 >>> 8).toUInt8, address.s6.toUInt8, (address.s7 >>> 8).toUInt8,
      address.s7.toUInt8⟩
  else none

/-! ## Classification -/

/-- Source: `IpAddressSpace`. -/
inductive IpAddressSpace where
  | unknown
  | publicSpace
  | privateSpace
  | localSpace
  deriving DecidableEq, Repr

/-- Source: `classify_ipv4_address_space`. -/
def classifyIpv4AddressSpace (address : Ipv4Addr) : IpAddressSpace :=
  let ⟨first, second, _, _⟩ := address
  if address.isLoopback || address.isUnspecified then .localSpace
  else if first = 0 ∨ first = 10 ∨ (first = 172 ∧ second ≥ 16 ∧ second ≤ 31) ∨
      (first = 192 ∧ second = 168) ∨ (first = 100 ∧ second ≥ 64 ∧ second ≤ 127) ∨
      (first = 169 ∧ second = 254) then .privateSpace
  else .publicSpace

/-- Source: `classify_ipv6_address_space`. -/
def classifyIpv6AddressSpace (address : Ipv6Addr) : IpAddressSpace :=
  let first := address.s0
  if address.isLoopback || address.isUnspecified then .localSpace
  else if first &&& 0xfe00 = 0xfc00 ∨ first &&& 0xffc0 = 0xfe80 then .privateSpace
  else .publicSpace

/-- Source: `classify_ip_address_space`. -/
def classifyIpAddressSpace : IpAddr → IpAddressSpace
  | .v4 address => classifyIpv4AddressSpace address
  | .v6 address =>
    match address.toIpv4Mapped with
    | none => classifyIpv6AddressSpace address
    | some address => classifyIpv4AddressSpace address

/-! ## Blocks of addresses -/

/-- The address as a number of 32 bits. -/
def Ipv4Addr.value (address : Ipv4Addr) : Nat :=
  ((address.first.toNat * 256 + address.second.toNat) * 256 + address.third.toNat) * 256 +
    address.fourth.toNat

/-- The address as a number of 128 bits. -/
def Ipv6Addr.value (address : Ipv6Addr) : Nat :=
  ((((((address.s0.toNat * 65536 + address.s1.toNat) * 65536 + address.s2.toNat) * 65536 +
    address.s3.toNat) * 65536 + address.s4.toNat) * 65536 + address.s5.toNat) * 65536 +
      address.s6.toNat) * 65536 + address.s7.toNat

/-- The addresses of `width` bits that start with the same `length` bits, and their space. -/
structure Block where
  base : Nat
  length : Nat
  space : IpAddressSpace

namespace Blocks

/-- The address is in the block. -/
def Contains (width : Nat) (block : Block) (value : Nat) : Prop :=
  value / 2 ^ (width - block.length) = block.base / 2 ^ (width - block.length)

instance (width : Nat) (block : Block) (value : Nat) : Decidable (Contains width block value) :=
  inferInstanceAs (Decidable (_ = _))

/-- The space of the first block that contains the address; what is in none is public. -/
def spaceOf (width : Nat) : List Block → Nat → IpAddressSpace
  | [], _ => .publicSpace
  | block :: rest, value =>
    if Contains width block value then block.space else spaceOf width rest value

/-- 127.0.0.0/8 and 0.0.0.0/32 are local; 0.0.0.0/8, 10.0.0.0/8, 172.16.0.0/12, 192.168.0.0/16,
100.64.0.0/10 and 169.254.0.0/16 are private. -/
def ipv4 : List Block :=
  [⟨0x7f000000, 8, .localSpace⟩, ⟨0, 32, .localSpace⟩, ⟨0, 8, .privateSpace⟩,
    ⟨0x0a000000, 8, .privateSpace⟩, ⟨0xac100000, 12, .privateSpace⟩,
    ⟨0xc0a80000, 16, .privateSpace⟩, ⟨0x64400000, 10, .privateSpace⟩,
    ⟨0xa9fe0000, 16, .privateSpace⟩]

/-- ::1/128 and ::/128 are local; fc00::/7 and fe80::/10 are private. -/
def ipv6 : List Block :=
  [⟨1, 128, .localSpace⟩, ⟨0, 128, .localSpace⟩, ⟨0xfc00 * 2 ^ 112, 7, .privateSpace⟩,
    ⟨0xfe80 * 2 ^ 112, 10, .privateSpace⟩]

/-- The space of an address: an address in ::ffff:0:0/96 is an IPv4 address. -/
def space : IpAddr → IpAddressSpace
  | .v4 address => spaceOf 32 ipv4 address.value
  | .v6 address =>
    if address.value / 2 ^ 32 = 0xffff then spaceOf 32 ipv4 (address.value % 2 ^ 32)
    else spaceOf 128 ipv6 address.value

end Blocks

variable (address : Ipv6Addr)

/-- What the first bits of an IPv4 address say about its octets. -/
lemma Ipv4Addr.value_div (address : Ipv4Addr) :
    address.value / 2 ^ 24 = address.first.toNat ∧
      address.value / 2 ^ 22 = address.first.toNat * 4 + address.second.toNat / 64 ∧
      address.value / 2 ^ 20 = address.first.toNat * 16 + address.second.toNat / 16 ∧
      address.value / 2 ^ 16 = address.first.toNat * 256 + address.second.toNat := by
  have h2 := address.second.toNat_lt
  have h3 := address.third.toNat_lt
  have h4 := address.fourth.toNat_lt
  unfold Ipv4Addr.value
  refine ⟨?_, ?_, ?_, ?_⟩ <;> omega

lemma Ipv4Addr.value_eq_zero (address : Ipv4Addr) :
    address.value = 0 ↔ address.isUnspecified = true := by
  obtain ⟨first, second, third, fourth⟩ := address
  simp only [Ipv4Addr.isUnspecified, Ipv4Addr.value, decide_eq_true_eq, Ipv4Addr.mk.injEq,
    ← UInt8.toNat_inj, UInt8.reduceToNat]
  omega

/-- Which octets the blocks with more than eight bits stand for. -/
lemma octets_of_bits (first : Nat) {second : Nat} (h : second < 2 ^ 8) :
    (first * 16 + second / 16 = 0xac1 ↔ first = 172 ∧ 16 ≤ second ∧ second ≤ 31) ∧
      (first * 256 + second = 0xc0a8 ↔ first = 192 ∧ second = 168) ∧
      (first * 4 + second / 64 = 0x191 ↔ first = 100 ∧ 64 ≤ second ∧ second ≤ 127) ∧
      (first * 256 + second = 0xa9fe ↔ first = 169 ∧ second = 254) := by
  refine ⟨?_, ?_, ?_, ?_⟩ <;> omega

lemma classifyIpv4AddressSpace_eq (address : Ipv4Addr) :
    classifyIpv4AddressSpace address = Blocks.spaceOf 32 Blocks.ipv4 address.value := by
  obtain ⟨h24, h22, h20, h16⟩ := address.value_div
  obtain ⟨h172, h192, h100, h169⟩ := octets_of_bits address.first.toNat
    address.second.toNat_lt
  have hloopback : address.isLoopback = true ↔ address.first.toNat = 127 := by
    simp only [Ipv4Addr.isLoopback, decide_eq_true_eq, ← UInt8.toNat_inj, UInt8.reduceToNat]
  simp only [Blocks.spaceOf, Blocks.ipv4, Blocks.Contains, Nat.reduceSub, Nat.reducePow,
    Nat.reduceDiv] at h24 h22 h20 h16 ⊢
  simp only [h24, h22, h20, h16, h172, h192, h100, h169, Nat.div_one, address.value_eq_zero,
    classifyIpv4AddressSpace, Bool.or_eq_true, hloopback, ← UInt8.toNat_inj, UInt8.reduceToNat,
    ge_iff_le, UInt8.le_iff_toNat_le, ite_or]

/-- A mask for the bits from `k` on. -/
lemma and_high_bits {x : Nat} (mask k : Nat) (hx : x < 2 ^ 16)
    (hmask : ∀ i < 16, mask.testBit i = decide (k ≤ i)) : x &&& mask = x / 2 ^ k * 2 ^ k := by
  rw [← Nat.shiftRight_eq_div_pow, ← Nat.shiftLeft_eq]
  apply Nat.eq_of_testBit_eq
  intro i
  rw [Nat.testBit_and, Nat.testBit_shiftLeft, Nat.testBit_shiftRight]
  by_cases hi : i < 16
  · rw [hmask i hi]
    by_cases hk : k ≤ i
    · have hback : k + (i - k) = i := by omega
      simp [hk, hback]
    · simp [hk]
  · have hzero : ∀ j, i ≤ j → x.testBit j = false := fun j hj =>
      Nat.testBit_lt_two_pow (lt_of_lt_of_le hx (Nat.pow_le_pow_right Nat.two_pos (by omega)))
    rw [hzero i (le_refl i), hzero (k + (i - k)) (by omega)]
    simp

lemma uniqueLocal_iff (x : UInt16) : x &&& 0xfe00 = 0xfc00 ↔ x.toNat / 2 ^ 9 = 0x7e := by
  have hmask := and_high_bits 0xfe00 9 x.toNat_lt (by decide)
  simp only [← UInt16.toNat_inj, UInt16.toNat_and, UInt16.reduceToNat, hmask]
  omega

lemma linkLocal_iff (x : UInt16) : x &&& 0xffc0 = 0xfe80 ↔ x.toNat / 2 ^ 6 = 0x3fa := by
  have hmask := and_high_bits 0xffc0 6 x.toNat_lt (by decide)
  simp only [← UInt16.toNat_inj, UInt16.toNat_and, UInt16.reduceToNat, hmask]
  omega

/-- What the first bits of an IPv6 address say about its segments. -/
lemma Ipv6Addr.value_div :
    address.value / 2 ^ 121 = address.s0.toNat / 2 ^ 9 ∧
      address.value / 2 ^ 118 = address.s0.toNat / 2 ^ 6 := by
  have h1 := address.s1.toNat_lt
  have h2 := address.s2.toNat_lt
  have h3 := address.s3.toNat_lt
  have h4 := address.s4.toNat_lt
  have h5 := address.s5.toNat_lt
  have h6 := address.s6.toNat_lt
  have h7 := address.s7.toNat_lt
  unfold Ipv6Addr.value
  constructor <;> omega

lemma Ipv6Addr.value_small :
    (address.value = 1 ↔ address.isLoopback = true) ∧
      (address.value = 0 ↔ address.isUnspecified = true) := by
  obtain ⟨s0, s1, s2, s3, s4, s5, s6, s7⟩ := address
  simp only [Ipv6Addr.isLoopback, Ipv6Addr.isUnspecified, Ipv6Addr.value, decide_eq_true_eq,
    Ipv6Addr.mk.injEq, ← UInt16.toNat_inj, UInt16.reduceToNat]
  constructor <;> omega

lemma classifyIpv6AddressSpace_eq :
    classifyIpv6AddressSpace address = Blocks.spaceOf 128 Blocks.ipv6 address.value := by
  obtain ⟨h121, h118⟩ := address.value_div
  obtain ⟨hone, hzero⟩ := address.value_small
  simp only [Blocks.spaceOf, Blocks.ipv6, Blocks.Contains, Nat.reduceSub, pow_zero, Nat.div_one,
    h121, h118, hone, hzero, classifyIpv6AddressSpace, Bool.or_eq_true, uniqueLocal_iff,
    linkLocal_iff, ite_or]
  norm_num

lemma Ipv6Addr.mapped_iff :
    address.value / 2 ^ 32 = 0xffff ↔ address.s0 = 0 ∧ address.s1 = 0 ∧ address.s2 = 0 ∧
      address.s3 = 0 ∧ address.s4 = 0 ∧ address.s5 = 0xffff := by
  have h6 := address.s6.toNat_lt
  have h7 := address.s7.toNat_lt
  simp only [Ipv6Addr.value, ← UInt16.toNat_inj, UInt16.reduceToNat]
  omega

/-- A mapped address is given by the last 32 bits. -/
lemma Ipv6Addr.toIpv4Mapped_of_value {address : Ipv6Addr} (h : address.value / 2 ^ 32 = 0xffff) :
    ∃ mapped, address.toIpv4Mapped = some mapped ∧ mapped.value = address.value % 2 ^ 32 := by
  have h7 := address.s7.toNat_lt
  refine ⟨_, if_pos (address.mapped_iff.mp h), ?_⟩
  simp only [Ipv4Addr.value, Ipv6Addr.value, UInt16.toNat_toUInt8, UInt16.toNat_shiftRight,
    UInt16.reduceToNat, Nat.shiftRight_eq_div_pow, Nat.reduceMod, Nat.reducePow]
  omega

/-- **The source's tests are the blocks.** -/
theorem classifyIpAddressSpace_eq (address : IpAddr) :
    classifyIpAddressSpace address = Blocks.space address := by
  cases address with
  | v4 address => exact classifyIpv4AddressSpace_eq address
  | v6 address =>
    simp only [classifyIpAddressSpace, Blocks.space]
    by_cases hvalue : address.value / 2 ^ 32 = 0xffff
    · obtain ⟨mapped, hsome, hlow⟩ := Ipv6Addr.toIpv4Mapped_of_value hvalue
      rw [hsome, if_pos hvalue, ← hlow]
      exact classifyIpv4AddressSpace_eq mapped
    · have hnone : address.toIpv4Mapped = none :=
        if_neg fun hmapped => hvalue (address.mapped_iff.mpr hmapped)
      rw [hnone, if_neg hvalue]
      exact classifyIpv6AddressSpace_eq address

/-! ## Transitions -/

/-- Source: `LocalNetworkPermission`. -/
inductive LocalNetworkPermission where
  | unknown
  | pending
  | denied
  | granted
  deriving DecidableEq, Repr

/-- Source: `LocalNetworkAccessPermissions`. -/
structure LocalNetworkAccessPermissions where
  forLocal : LocalNetworkPermission
  forPrivate : LocalNetworkPermission
  deriving DecidableEq, Repr

/-- Source: `LocalNetworkTarget`. -/
inductive LocalNetworkTarget where
  | localTarget
  | privateTarget
  deriving DecidableEq, Repr

/-- Source: `GeneralWebPolicyError`. -/
inductive GeneralWebPolicyError where
  | restrictedPort
  | invalidInitiatorEvidence
  | localNetworkAccessDenied (parent target : IpAddressSpace) (required : LocalNetworkTarget)
      (permission : LocalNetworkPermission)
  deriving DecidableEq, Repr

/-- The permission that a transition needs. Source: `authorize_address_space_transition`. -/
def requiredPermission (parent target : IpAddressSpace)
    (permissions : LocalNetworkAccessPermissions) :
    Option (LocalNetworkTarget × LocalNetworkPermission) :=
  match parent, target with
  | .publicSpace, .localSpace => some (.localTarget, permissions.forLocal)
  | .privateSpace, .localSpace => some (.localTarget, permissions.forLocal)
  | .publicSpace, .privateSpace => some (.privateTarget, permissions.forPrivate)
  | _, _ => none

/-- Source: `authorize_address_space_transition`. -/
def authorizeAddressSpaceTransition (parent target : IpAddressSpace)
    (permissions : LocalNetworkAccessPermissions) : Except GeneralWebPolicyError Unit :=
  if parent = .unknown ∨ target = .unknown then .error .invalidInitiatorEvidence
  else
    match requiredPermission parent target permissions with
    | none => .ok ()
    | some (required, permission) =>
      if permission = .granted then .ok ()
      else .error (.localNetworkAccessDenied parent target required permission)

/-- Spaces from the outside in: the fewer peers share it, the more private. -/
def IpAddressSpace.depth : IpAddressSpace → Nat
  | .unknown => 0
  | .publicSpace => 0
  | .privateSpace => 1
  | .localSpace => 2

variable {parent target : IpAddressSpace} {permissions : LocalNetworkAccessPermissions}

section

variable (h : authorizeAddressSpaceTransition parent target permissions = .ok ())
include h

/-- **Without a permission no transition leads further in.** -/
theorem depth_le_of_authorize (hlocal : permissions.forLocal ≠ .granted)
    (hprivate : permissions.forPrivate ≠ .granted) : target.depth ≤ parent.depth := by
  unfold authorizeAddressSpaceTransition requiredPermission at h
  cases parent <;> cases target <;> simp_all [IpAddressSpace.depth]

/-- Nothing of an unknown space is reached. -/
lemma known_of_authorize : target ≠ .unknown := by
  rintro rfl
  simp [authorizeAddressSpaceTransition] at h

end

/-- Without the permission for local targets only a local initiator reaches one. -/
lemma local_of_authorize {parent : IpAddressSpace}
    (h : authorizeAddressSpaceTransition parent .localSpace permissions = .ok ())
    (hlocal : permissions.forLocal ≠ .granted) : parent = .localSpace := by
  unfold authorizeAddressSpaceTransition requiredPermission at h
  cases parent <;> simp_all

/-! ## Ports -/

/-- Source: `RESTRICTED_WEB_PORTS`. -/
def restrictedWebPorts : List UInt16 :=
  [1, 7, 9, 11, 13, 15, 17, 19, 20, 21, 22, 23, 25, 37, 42, 43, 53, 69, 77, 79, 87, 95, 101, 102,
    103, 104, 109, 110, 111, 113, 115, 117, 119, 123, 135, 137, 139, 143, 161, 179, 389, 427, 465,
    512, 513, 514, 515, 526, 530, 531, 532, 540, 548, 554, 556, 563, 587, 601, 636, 989, 990, 993,
    995, 1719, 1720, 1723, 2049, 3659, 4045, 4190, 5060, 5061, 6000, 6566, 6665, 6666, 6667, 6668,
    6669, 6679, 6697, 10080]

/-- Whether a binary search finds the port; every round halves the slice.
Source: `slice::binary_search`. -/
def binarySearch (port : UInt16) : Nat → List UInt16 → Bool
  | 0, _ => false
  | fuel + 1, ports =>
    match ports.drop (ports.length / 2) with
    | [] => false
    | middle :: after =>
      if middle = port then true
      else if middle < port then binarySearch port fuel after
      else binarySearch port fuel (ports.take (ports.length / 2))

/-- Source: `is_restricted_web_port`. -/
def isRestrictedWebPort (port : UInt16) : Bool :=
  binarySearch port restrictedWebPorts.length restrictedWebPorts

/-- In a sorted slice a binary search finds what is there. -/
lemma binarySearch_iff {port : UInt16} {fuel : Nat} {ports : List UInt16}
    (hsorted : ports.Pairwise (· < ·)) (hfuel : ports.length ≤ fuel) :
    binarySearch port fuel ports = true ↔ port ∈ ports := by
  induction fuel generalizing ports with
  | zero =>
    obtain rfl := length_eq_zero_iff.mp (Nat.le_zero.mp hfuel)
    simp [binarySearch]
  | succ fuel ih =>
    have hsplit := take_append_drop (ports.length / 2) ports
    unfold binarySearch
    cases hdrop : ports.drop (ports.length / 2) with
    | nil =>
      have hempty : ports.length = 0 := by
        have := drop_eq_nil_iff.mp hdrop
        omega
      simp [length_eq_zero_iff.mp hempty]
    | cons middle after =>
      rw [hdrop] at hsplit
      generalize htake : ports.take (ports.length / 2) = before at hsplit
      subst hsplit
      obtain ⟨hbefore, hmiddle, hacross⟩ := pairwise_append.mp hsorted
      obtain ⟨hless, hafter⟩ := pairwise_cons.mp hmiddle
      rw [length_append, length_cons] at hfuel
      dsimp only
      split_ifs with heq hlt
      · simp [heq]
      · -- nothing before the middle is as large as the port
        rw [ih hafter (by omega)]
        have hnot : port ∉ before := fun hmem =>
          absurd (hacross port hmem middle (by simp)) (UInt16.lt_asymm hlt)
        simp [hnot, Ne.symm heq]
      · rw [ih hbefore (by omega)]
        have hnot : port ∉ after := fun hmem => hlt (hless port hmem)
        simp [hnot, Ne.symm heq]

/-- **The table is sorted, so that every port in it is found.** -/
theorem isRestrictedWebPort_iff (port : UInt16) :
    isRestrictedWebPort port = true ↔ port ∈ restrictedWebPorts :=
  binarySearch_iff (by decide +kernel) le_rfl

end WildBuzzard.Net
