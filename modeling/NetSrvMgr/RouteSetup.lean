import NetSrvMgr.RouteEntries

namespace NetSrvMgr.Route
open CString
set_option autoImplicit true

section
variable [DecidableEq κ] (kind : α → κ)

/-- The first element of each kind, in the order of the list. -/
def firstOfEachKind : List α → List α
  | [] => []
  | x :: l => x :: (firstOfEachKind l).filter fun y => kind y ≠ kind x

theorem firstOfEachKind_sublist (l : List α) : (firstOfEachKind kind l).Sublist l := by
  induction l with
  | nil => exact List.Sublist.refl _
  | cons x l ih => exact (List.filter_sublist.trans ih).cons_cons x

theorem countP_firstOfEachKind (l : List α) (k : κ) :
    (firstOfEachKind kind l).countP (fun x => kind x = k) ≤ 1 := by
  induction l with
  | nil => exact Nat.zero_le 1
  | cons x l ih =>
    rw [firstOfEachKind, List.countP_cons, List.countP_filter]
    by_cases hx : kind x = k
    · simp [hx]
    · have hle : (firstOfEachKind kind l).countP
          (fun y => decide (kind y = k) && decide (kind y ≠ kind x)) ≤
          (firstOfEachKind kind l).countP fun y => decide (kind y = k) := by
        apply List.countP_mono_left
        intro y _ hy
        exact (Bool.and_eq_true_iff.1 hy).1
      simp only [hx]
      exact hle.trans ih

theorem firstOfEachKind_eq_self_iff (l : List α) :
    firstOfEachKind kind l = l ↔ ∀ k, l.countP (fun x => kind x = k) ≤ 1 := by
  apply Iff.intro
  · intro h k
    rw [← h]
    exact countP_firstOfEachKind kind l k
  · intro h
    induction l with
    | nil => rfl
    | cons x l ih =>
      have htail : ∀ k, l.countP (fun y => kind y = k) ≤ 1 := by
        intro k
        have hk := h k
        rw [List.countP_cons] at hk
        omega
      have hnone : l.countP (fun y => kind y = kind x) = 0 := by
        have hx := h (kind x)
        rw [List.countP_cons, if_pos (decide_eq_true rfl)] at hx
        omega
      rw [firstOfEachKind, ih htail, List.filter_eq_self.2]
      intro y hy
      have hne := List.countP_eq_zero.1 hnone y hy
      simpa using hne

end

/-- The script calls that a call of `setRoute` is to make. -/
def wantedSetups (h : Host) (a : Announcement) (s : RouteState) : List SystemCall :=
  if a.mocaHasIPv4 || a.wifiHasIPv4 then
    (firstOfEachKind GwyDeviceData.isXG2 s.gwList).map
      (GwyDeviceData.gwSetup (getRouteInterface h a s).routeIf)
  else []

/-- There is at most one gateway of type XG2 and at most one of other types, and none where
neither interface has an IPv4 address. -/
def SetupsPlain (a : Announcement) (s : RouteState) : Prop :=
  (∀ xg2 : Bool, s.gwList.countP (fun gw => gw.isXG2 = xg2) ≤ 1) ∧
    ((a.mocaHasIPv4 || a.wifiHasIPv4) = true ∨ s.gwList = [])

/-- `setRoute` runs the script as wanted exactly where running it for every gateway is. -/
theorem setRoute_wantedSetups_iff (h : Host) (a : Announcement) (s : RouteState) :
    (setRoute h a s).1.commands = s.commands ++ wantedSetups h a s ↔ SetupsPlain a s := by
  obtain ⟨_, hcmd, _⟩ := setRoute_spec h a s
  rw [hcmd, List.append_cancel_left_eq, wantedSetups, SetupsPlain,
    ← firstOfEachKind_eq_self_iff GwyDeviceData.isXG2]
  by_cases hip : (a.mocaHasIPv4 || a.wifiHasIPv4) = true
  · rw [if_pos hip]
    apply Iff.intro
    · intro heq
      have hlen := congrArg List.length heq
      rw [List.length_map, List.length_map] at hlen
      have hsub := firstOfEachKind_sublist GwyDeviceData.isXG2 s.gwList
      exact ⟨hsub.eq_of_length hlen.symm, Or.inl hip⟩
    · intro hplain
      rw [hplain.1]
  · rw [if_neg hip, List.map_eq_nil_iff]
    apply Iff.intro
    · intro hnil
      rw [hnil]
      exact ⟨rfl, Or.inr rfl⟩
    · intro hplain
      exact hplain.2.resolve_left hip

/-- Two gateways of one type, found while an interface has an address. -/
def twoOfOneKind : RouteState :=
  { RouteState.init with
    gwList := (Announcement.ofGateways [.gateway "169.254.1.1" "" "" "XG1",
      .gateway "169.254.1.2" "" "" "XB3"] (fun _ => 23)).gateways threeGateways }

theorem twoOfOneKind_setups : ¬∀ (h : Host) (a : Announcement) (s : RouteState),
    (setRoute h a s).1.commands = s.commands ++ wantedSetups h a s := by
  intro hall
  have hlen := congrArg List.length
    (hall threeGateways (.ofGateways [] fun _ => 23) twoOfOneKind)
  exact absurd hlen (by decide)

end NetSrvMgr.Route
