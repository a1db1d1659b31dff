import NetSrvMgr.ActiveInterface
import Mathlib.Data.List.Perm.Subperm

namespace NetSrvMgr.Active
open CString DevFile
set_option autoImplicit true

/-- An element of what `getifaddrs` lists. -/
structure IfAddr where
  hasAddr : Bool
  name : CStr

/-- The loop of `getAllNetworkInterface`: the list and the count, or `none` where a name does not
fit into `tempInterface[10]`. -/
def Host.allLoop (h : Host) : List IfAddr → CStr → Bool → Nat → Option (CStr × Nat)
  | [], device, _, count => some (device, count)
  | a :: rest, device, firstInterface, count =>
    if a.hasAddr && !notDevice a.name then
      if a.name.length < 10 then
        match h.readDevFile a.name with
        | (true, tempInterface) =>
          if gStrrstr device tempInterface then h.allLoop rest device firstInterface count
          else
            h.allLoop rest (device ++ (if firstInterface then [','] else []) ++ tempInterface) true
              (count + 1)
        | (false, _) => h.allLoop rest device firstInterface count
      else none
    else h.allLoop rest device firstInterface count

/-- The list is stored into `INTERFACE_LIST` characters. -/
def Host.getAllNetworkInterface (h : Host) (ifAddrs : List IfAddr) : Option (CStr × Nat) :=
  match h.allLoop ifAddrs [] false 0 with
  | none => none
  | some (device, count) => if device.length < 50 then some (device, count) else none

/-- The interface that the address is one of. -/
def Host.addrIface (h : Host) (a : IfAddr) : Option Iface :=
  if a.hasAddr && !notDevice a.name then h.iface a.name else none

def listed (types : List Iface) : CStr := [','].intercalate (types.map Iface.networkName)

theorem Iface.eq_of_infix {i j : Iface} (h : i.networkName <:+: j.networkName) : i = j := by
  revert h
  cases i <;> cases j <;> decide

theorem listed_append (types : List Iface) (i : Iface) :
    listed (types ++ [i]) =
      listed types ++ (if types.isEmpty then [] else [',']) ++ i.networkName := by
  induction types with
  | nil => cases i <;> rfl
  | cons j types ih =>
    cases types with
    | nil => cases i <;> cases j <;> rfl
    | cons k types =>
      have hcons : ∀ (x y : CStr) (l : List CStr),
          [','].intercalate (x :: y :: l) = x ++ ',' :: [','].intercalate (y :: l) := by
        intro x y l
        rfl
      rw [listed, List.cons_append, List.cons_append, List.map_cons, List.map_cons, hcons]
      rw [listed, List.cons_append, List.map_cons] at ih
      rw [ih]
      simp [listed, hcons]

theorem networkName_plain (i : Iface) : ',' ∉ i.networkName := by
  cases i <;> decide

theorem networkName_ne_nil (i : Iface) : i.networkName ≠ [] := by
  cases i <;> decide

/-- A name is found in the list exactly when it is one of those listed. -/
theorem gStrrstr_listed (types : List Iface) (i : Iface) :
    gStrrstr (listed types) i.networkName = decide (i ∈ types) := by
  rw [gStrrstr]
  apply decide_eq_decide.2
  induction types using List.reverseRecOn with
  | nil =>
    rw [iff_false_right List.not_mem_nil]
    intro h
    exact networkName_ne_nil i (List.eq_nil_of_infix_nil h)
  | append_singleton types j ih =>
    rw [listed_append, List.mem_append, List.mem_singleton, ← ih]
    apply Iff.intro
    · intro h
      cases types with
      | nil => exact Or.inr (Iface.eq_of_infix h)
      | cons k types =>
        rw [List.append_assoc] at h
        rcases infix_append_cons (networkName_plain i) h with h | h
        · exact Or.inl h
        · exact Or.inr (Iface.eq_of_infix h)
    · intro h'
      rcases h' with h | rfl
      · rw [List.append_assoc]
        exact h.trans (List.prefix_append _ _).isInfix
      · exact (List.suffix_append _ _).isInfix

theorem Host.GoodProperties.allLoop {h : Host} (hgood : h.GoodProperties) (addrs : List IfAddr)
    (hshort : ∀ a ∈ addrs, a.name.length < 10) (types : List Iface) :
    h.allLoop addrs (listed types) (!types.isEmpty) types.length =
      some (listed (types ++ ((addrs.filterMap h.addrIface).filter (· ∉ types)).eraseDups),
        (types ++ ((addrs.filterMap h.addrIface).filter (· ∉ types)).eraseDups).length) := by
  induction addrs generalizing types with
  | nil => simp [Host.allLoop]
  | cons a rest ih =>
    have hrest := ih fun b hb => hshort b (List.mem_cons_of_mem a hb)
    have ha := hshort a List.mem_cons_self
    rw [Host.allLoop]
    by_cases hlooked : (a.hasAddr && !notDevice a.name) = true
    · have hiface : h.addrIface a = h.iface a.name := if_pos hlooked
      rw [if_pos hlooked, if_pos ha, hgood.readDevFile, Host.networkType]
      cases hi : h.iface a.name with
      | none =>
        rw [List.filterMap_cons_none (hiface.trans hi)]
        exact hrest types
      | some i =>
        rw [List.filterMap_cons_some (hiface.trans hi)]
        dsimp only [Option.map_some]
        rw [gStrrstr_listed]
        by_cases hmem : i ∈ types
        · rw [if_pos (decide_eq_true hmem), List.filter_cons_of_neg (by simpa using hmem)]
          exact hrest types
        · have hadd := hrest (types ++ [i])
          have hnew : (rest.filterMap h.addrIface).filter (· ∉ types ++ [i]) =
              ((rest.filterMap h.addrIface).filter (· ∉ types)).filter (fun j => !j == i) := by
            rw [List.filter_filter]
            congr 1
            funext j
            by_cases hji : j = i <;> simp [hji]
          rw [if_neg (by simpa using hmem), List.filter_cons_of_pos (by simpa using hmem),
            List.eraseDups_cons, ← hnew]
          simp only [List.append_assoc, List.singleton_append] at hadd
          rw [← hadd, List.append_assoc, listed_append]
          congr 1
          · cases types <;> simp
          · simp
          · simp
    · have hiface : h.addrIface a = none := if_neg hlooked
      rw [if_neg hlooked, List.filterMap_cons_none hiface]
      exact hrest types

theorem nodup_eraseDups (types : List Iface) : types.eraseDups.Nodup := by
  induction hn : types.length using Nat.strong_induction_on generalizing types with
  | _ n ih =>
    cases types with
    | nil => exact List.nodup_nil
    | cons i types =>
      have hlength : (types.filter fun j => !j == i).length < n := by
        rw [← hn, List.length_cons]
        exact Nat.lt_succ_of_le (List.length_filter_le _ types)
      rw [List.eraseDups_cons, List.nodup_cons]
      apply And.intro
      · intro hi
        have hne := (List.mem_filter.1 (List.mem_eraseDups.1 hi)).2
        simp at hne
      · exact ih _ hlength _ rfl

theorem length_eraseDups (types : List Iface) : types.eraseDups.length ≤ 3 := by
  have hall : types.eraseDups ⊆ ifaces := by
    intro i _
    cases i <;> decide
  exact (List.subperm_of_subset (nodup_eraseDups types) hall).length_le

theorem length_listed (types : List Iface) : (listed types).length ≤ 9 * types.length := by
  induction types using List.reverseRecOn with
  | nil => exact Nat.le_refl 0
  | append_singleton types i ih =>
    have hname : i.networkName.length ≤ 8 := by cases i <;> decide
    have hcomma : (if types.isEmpty then ([] : CStr) else [',']).length ≤ 1 := by
      cases types with
      | nil => exact Nat.zero_le 1
      | cons j types => exact Nat.le_refl 1
    rw [listed_append, List.length_append, List.length_append, List.length_append,
      List.length_singleton]
    omega

/-- The network types of the interfaces that have an address are listed, each once, in the order in
which they come first, and counted. -/
theorem getAllNetworkInterface_lists {h : Host} (hgood : h.GoodProperties)
    (addrs : List IfAddr) (hshort : ∀ a ∈ addrs, a.name.length < 10) :
    h.getAllNetworkInterface addrs =
      some (listed (addrs.filterMap h.addrIface).eraseDups,
        (addrs.filterMap h.addrIface).eraseDups.length) := by
  have hloop := hgood.allLoop addrs hshort []
  have hall : (addrs.filterMap h.addrIface).filter (· ∉ ([] : List Iface)) =
      addrs.filterMap h.addrIface :=
    List.filter_eq_self.2 fun i _ => decide_eq_true List.not_mem_nil
  have htypes := length_eraseDups (addrs.filterMap h.addrIface)
  have hlength := length_listed (addrs.filterMap h.addrIface).eraseDups
  rw [hall, List.nil_append] at hloop
  have hstart : h.allLoop addrs [] false 0 = _ := hloop
  rw [Host.getAllNetworkInterface, hstart]
  exact if_pos (by omega)

theorem getAllNetworkInterface_lists_moca :
    mocaHost.getAllNetworkInterface [⟨true, "lo".toList⟩, ⟨true, "wlan0".toList⟩,
      ⟨true, "eth1".toList⟩, ⟨true, "wlan0".toList⟩, ⟨true, "eth2".toList⟩] =
      some ("WIFI,MOCA".toList, 2) :=
  (getAllNetworkInterface_lists mocaHost_good _ (by decide)).trans (by decide +kernel)

end NetSrvMgr.Active
