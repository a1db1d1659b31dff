import NetSrvMgr.IpSettings
import NetSrvMgr.PrefixMask

namespace NetSrvMgr.Ip
open CString Inet PrefixMask
set_option autoImplicit true

theorem validIpv4Netmask_eq_true_iff (mask : BitVec 32) :
    validIpv4Netmask mask = true ↔
      mask ≠ 0#32 ∧ ~~~mask &&& (~~~mask + 1#32) = 0#32 := by
  rw [validIpv4Netmask]
  split
  · next hzero => exact iff_of_false Bool.false_ne_true (fun h => h.1 hzero)
  · next hzero => exact decide_eq_true_iff.trans (and_iff_right hzero).symm

/-- The valid masks are ones followed by zeros, with at least one of the ones; there need be no
zeros. -/
theorem validIpv4Netmask_iff (mask : BitVec 32) :
    validIpv4Netmask mask = true ↔ ∃ k, 1 ≤ k ∧ k ≤ 32 ∧ HighOnes mask k := by
  rw [validIpv4Netmask_eq_true_iff]
  exact ne_zero_and_not_and_not_add_one_iff mask

example : validIpv4Netmask 0#32 = false ∧ validIpv4Netmask 0xffffffff#32 = true ∧
    HighOnes 0xffffff00#32 24 := by decide

end NetSrvMgr.Ip
