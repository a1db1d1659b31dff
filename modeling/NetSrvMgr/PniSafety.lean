import NetSrvMgr.PniOutcome

namespace NetSrvMgr.Pni
open CString Script Durable
set_option autoImplicit true

/-- On one of the interfaces, at least, no IPv4 configuration was asked for that was not taken away
again. -/
def AtMostOne (n : Names) (s : Asked) : Prop := Idle n.ethernet s ∨ Idle n.wifi s

theorem AtMostOne.of_other {n : Names} (h : Idle (n.other dev) s) : AtMostOne n s := by
  rcases n.other_mem dev with hdev | hdev
  · rw [hdev] at h
    exact .inl h
  · rw [hdev] at h
    exact .inr h

theorem AtMostOne.note {n : Names} (hs : AtMostOne n s) (hc : ∀ dev, ¬c.configures dev) :
    AtMostOne n (s.note c) := by
  rcases hs with hs | hs
  · exact .inl (hs.note (hc _))
  · exact .inr (hs.note (hc _))

section

variable (n : Names) (e : Setup)

theorem setWifiState_spares (up : Bool) :
    ∀ c ∈ setWifiState n up, ∀ d, ¬c.configures d := by
  simp [setWifiState, setInterfaceState, wpaSupplicantEnable, Command.configures]

theorem ipv4DeconfigureInterface_spares (dev : CStr) :
    ∀ c ∈ ipv4DeconfigureInterface n e dev, ∀ d, ¬c.configures d := by
  simp [ipv4DeconfigureInterface, ipv4DeconfigureDhcpip, flushRoutesAndAddresses,
    Command.configures]

theorem prelude_spares (dev : CStr) : ∀ c ∈ prelude n e dev, ∀ d, ¬c.configures d := by
  intro c hc
  rw [prelude] at hc
  split at hc
  · simp only [deconfigureInterface, List.mem_append] at hc
    rcases hc with (hc | hc) | (hc | hc)
    · revert c
      simp [Command.configures]
    · revert c
      simp [setInterfaceState, Command.configures]
    · exact ipv4DeconfigureInterface_spares n e _ c hc
    · revert c
      simp [ipv6DeconfigureInterface, Command.configures]
  · simp only [deconfigureInterface, List.mem_append] at hc
    rcases hc with (hc | hc) | (hc | hc)
    · revert c
      simp [Command.configures]
    · exact setWifiState_spares n true c hc
    · exact ipv4DeconfigureInterface_spares n e _ c hc
    · revert c
      simp [ipv6DeconfigureInterface, Command.configures]

theorem issue_triple {cs : List Command} (hcs : ∀ c ∈ cs, ∀ d, ¬c.configures d) :
    Triple Asked.note (fun _ => AtMostOne n) (AtMostOne n) (issue cs : Script Command Shell Unit)
      (fun _ _ => AtMostOne n) :=
  (Issues.issue hcs).triple fun _ _ hc hs => hs.note hc

theorem configureInterface_triple (pniEnabled : Bool) (hd : dev ≠ d) :
    Triple Asked.note (fun _ => Idle d) (Idle d) (configureInterface n e pniEnabled dev)
      (fun _ _ => Idle d) := by
  have hissues : Issues (fun c => ¬c.configures d) (configureInterface n e pniEnabled dev) := by
    intro sh c hc
    obtain ⟨v, hv⟩ := configureInterface_apply n e pniEnabled dev sh
    rw [hv] at hc
    exact not_configures_of_mem n e hd c hc
  exact hissues.triple fun s c hc hs => hs.note hc

/-- One interface is deconfigured before the other is configured. -/
theorem tryInterface_triple (pniEnabled : Bool) (hdev : dev = n.ethernet ∨ dev = n.wifi) :
    Triple Asked.note (fun _ => AtMostOne n) (AtMostOne n) (tryInterface n e pniEnabled dev)
      (fun _ _ => AtMostOne n) := by
  have hprelude : Triple Asked.note (fun _ => AtMostOne n) (AtMostOne n)
      (issue (prelude n e dev) : Script Command Shell Unit) (fun _ _ => Idle (n.other dev)) := by
    apply Triple.issue
    · intro r s hs k
      apply foldl_invariant (P := AtMostOne n) _ hs
      intro s c hc hs
      exact hs.note (prelude_spares n e dev c (List.mem_of_mem_take hc))
    · exact fun r s _ => (prelude_state n e hdev s).otherIdle
  have hconfigure : Triple Asked.note (fun _ => Idle (n.other dev)) (AtMostOne n)
      (configureInterface n e pniEnabled dev) (fun _ _ => AtMostOne n) :=
    (configureInterface_triple n e pniEnabled (n.other_ne hdev).symm).mono
      (fun _ => AtMostOne.of_other) (fun _ _ _ => AtMostOne.of_other)
  rw [tryInterface]
  rw [prelude] at hprelude
  split
  · rename_i heth
    subst heth
    rw [if_pos rfl] at hprelude
    apply hprelude.bind
    intro _
    apply hconfigure.bind
    intro passed
    apply Triple.ite
    · intro _
      apply (issue_triple n _).bind
      · exact fun _ => Triple.pure (fun _ _ => id) fun _ _ => id
      · intro c hc
        split at hc
        · cases hc
        · exact setWifiState_spares n false c hc
    · exact fun _ => Triple.pure (fun _ _ => id) fun _ _ => id
  · rename_i hne
    rcases hdev with rfl | rfl
    · exact absurd rfl hne
    · rw [if_neg hne] at hprelude
      exact hprelude.bind fun _ => hconfigure

theorem pniLoop_triple (hpni : pni = n.ethernet ∨ pni = n.wifi)
    (hnonpni : nonpni = n.ethernet ∨ nonpni = n.wifi) (rounds : Nat) :
    Triple Asked.note (fun _ => AtMostOne n) (AtMostOne n) (pniLoop n e pni nonpni rounds)
      (fun _ _ => AtMostOne n) := by
  have hpure : Triple Asked.note (fun _ => AtMostOne n) (AtMostOne n)
      (pure () : Script Command Shell Unit) (fun _ _ => AtMostOne n) :=
    Triple.pure (fun _ _ => id) fun _ _ => id
  induction rounds with
  | zero => exact Triple.blocked fun _ _ => id
  | succ rounds ih =>
    rw [pniLoop]
    apply (tryInterface_triple n e true hpni).bind
    intro passed
    apply Triple.ite (fun _ => hpure)
    intro _
    apply (tryInterface_triple n e true hnonpni).bind
    intro passed
    apply Triple.ite (fun _ => hpure)
    intro _
    apply (issue_triple n _).bind fun _ => ih
    simp [Command.configures]

theorem runPniLoop_triple (hpni : pni = n.ethernet ∨ pni = n.wifi)
    (hnonpni : nonpni = n.ethernet ∨ nonpni = n.wifi) :
    Triple Asked.note (fun _ => AtMostOne n) (AtMostOne n) (runPniLoop n e pni nonpni)
      (fun _ _ => AtMostOne n) :=
  fun sh => pniLoop_triple n e hpni hnonpni (sh.tests.length + 1) sh

theorem tryOnce_triple (hdev : dev = n.ethernet ∨ dev = n.wifi) :
    Triple Asked.note (fun _ => AtMostOne n) (AtMostOne n)
      (do let _ ← tryInterface n e false dev : Script Command Shell Unit)
      (fun _ _ => AtMostOne n) :=
  (tryInterface_triple n e false hdev).bind fun _ => Triple.pure (fun _ _ => id) fun _ _ => id

/-- Wherever the script is cut off, one of the interfaces is idle. -/
theorem controller_triple (files : Iface.Files) :
    Triple Asked.note (fun _ => AtMostOne n) (AtMostOne n) (controller n e files)
      (fun _ _ => AtMostOne n) := by
  have hdown (dev : CStr) (up : Bool) :
      ∀ c ∈ setInterfaceState dev up, ∀ d, ¬c.configures d := by
    simp [setInterfaceState, Command.configures]
  have hethernet : n.ethernet = n.ethernet ∨ n.ethernet = n.wifi := .inl rfl
  have hwifi : n.wifi = n.ethernet ∨ n.wifi = n.wifi := .inr rfl
  rw [controller]
  apply Triple.ite
  · intro _
    apply issue_triple
    intro c hc
    rcases List.mem_append.1 hc with hc | hc
    · exact hdown _ _ c hc
    · exact setWifiState_spares n false c hc
  intro _
  apply Triple.bind (Q := fun _ _ => AtMostOne n)
  · apply Triple.ite
    · intro _
      exact (issue_triple n (setWifiState_spares n false)).bind fun _ =>
        tryOnce_triple n e hethernet
    intro _
    apply Triple.ite
    · intro _
      exact (issue_triple n (hdown _ _)).bind fun _ => tryOnce_triple n e hwifi
    intro _
    apply Triple.ite
    · exact fun _ => tryOnce_triple n e hwifi
    intro _
    apply Triple.ite
    · intro _
      apply (issue_triple n _).bind fun _ => tryOnce_triple n e hethernet
      intro c hc
      simp only [List.mem_append] at hc
      rcases hc with hc | hc | hc
      · split at hc
        · cases List.mem_singleton.1 hc
          exact fun _ => id
        · cases hc
      · split at hc
        · cases List.mem_singleton.1 hc
          exact fun _ => id
        · cases hc
      · exact setWifiState_spares n true c hc
    intro _
    apply Triple.ite
    · exact fun _ => runPniLoop_triple n e hwifi hethernet
    intro _
    apply (issue_triple n _).bind fun _ => runPniLoop_triple n e hethernet hwifi
    intro c hc
    split at hc
    · cases hc
    · exact setWifiState_spares n true c hc
  · intro _
    apply issue_triple
    simp [Command.configures]

/-- The command changes whether a marker exists. -/
def Command.touches (m : Iface.Marker) : Command → Prop
  | .rmTmp filename => filename = m.filename
  | .touchTmp filename => filename = m.filename
  | .rmPersistent filename => filename = m.filename
  | _ => False

theorem tryInterface_touches (pniEnabled : Bool) (hdev : dev = n.ethernet ∨ dev = n.wifi)
    (m : Iface.Marker) :
    Issues (fun c => ¬c.touches m) (tryInterface n e pniEnabled dev) := by
  intro sh c hc
  obtain ⟨v, hv⟩ := tryInterface_apply n e pniEnabled hdev sh
  rw [hv] at hc
  have hani : "ani_wifi".toList ≠ m.filename := by cases m <;> decide
  have hon : "wifi-on".toList ≠ m.filename := by cases m <;> decide
  simp only [attemptCommands, List.mem_append] at hc
  rcases hc with hc | hc | hc
  · revert c
    rw [prelude]
    split <;> simp [setWifiState, setInterfaceState, wpaSupplicantEnable, deconfigureInterface,
      ipv4DeconfigureInterface, ipv4DeconfigureDhcpip, flushRoutesAndAddresses,
      ipv6DeconfigureInterface, Command.touches] <;>
      exact ⟨hani, hon⟩
  · revert c
    rw [configureCommands]
    split_ifs <;> simp [ipv6ConfigureInterface, applyManualip, ipv4DeconfigureDhcpip,
      ipv4ConfigureDhcpip, Command.touches]
  · revert c
    rw [postlude_eq]
    split <;> simp [setWifiState, setInterfaceState, wpaSupplicantEnable, Command.touches]

theorem runPniLoop_touches (hpni : pni = n.ethernet ∨ pni = n.wifi)
    (hnonpni : nonpni = n.ethernet ∨ nonpni = n.wifi) (m : Iface.Marker) :
    Issues (fun c => ¬c.touches m) (runPniLoop n e pni nonpni) := by
  have hloop (rounds : Nat) :
      Issues (fun c => ¬c.touches m) (pniLoop n e pni nonpni rounds) := by
    induction rounds with
    | zero => exact Issues.blocked
    | succ rounds ih =>
      rw [pniLoop]
      apply (tryInterface_touches n e true hpni m).bind
      intro passed
      apply Issues.ite
      · exact Issues.pure ()
      apply (tryInterface_touches n e true hnonpni m).bind
      intro passed
      apply Issues.ite
      · exact Issues.pure ()
      apply Issues.bind _ fun _ => ih
      exact Issues.issue (by simp [Command.touches])
  exact fun sh => hloop (sh.tests.length + 1) sh

theorem controller_touches (files : Iface.Files) (hm : m ≠ Iface.Marker.pni_wifi) :
    Issues (fun c => ¬c.touches m) (controller n e files) := by
  have hwifi (up : Bool) : ∀ c ∈ setWifiState n up, ¬c.touches m := by
    simp [setWifiState, setInterfaceState, wpaSupplicantEnable, Command.touches]
  have hlink (dev : CStr) (up : Bool) : ∀ c ∈ setInterfaceState dev up, ¬c.touches m := by
    simp [setInterfaceState, Command.touches]
  have honce {dev : CStr} (hdev : dev = n.ethernet ∨ dev = n.wifi) :
      Issues (fun c => ¬c.touches m)
        (do let _ ← tryInterface n e false dev : Script Command Shell Unit) :=
    (tryInterface_touches n e false hdev m).bind fun _ => Issues.pure ()
  rw [controller]
  apply Issues.ite
  · apply Issues.issue
    intro c hc
    rcases List.mem_append.1 hc with hc | hc
    · exact hlink _ _ c hc
    · exact hwifi false c hc
  apply Issues.bind
  · apply Issues.ite
    · exact (Issues.issue (hwifi false)).bind fun _ => honce (.inl rfl)
    apply Issues.ite
    · exact (Issues.issue (hlink _ _)).bind fun _ => honce (.inr rfl)
    apply Issues.ite (honce (.inr rfl))
    apply Issues.ite
    · apply Issues.bind _ fun _ => honce (.inl rfl)
      apply Issues.issue
      intro c hc
      have hpni : Iface.Marker.pni_wifi.filename ≠ m.filename := by
        rw [ne_eq, Iface.Marker.filename_inj]
        exact hm.symm
      simp only [List.mem_append] at hc
      rcases hc with hc | hc | hc
      · split at hc
        · cases List.mem_singleton.1 hc
          exact hpni
        · cases hc
      · split at hc
        · cases List.mem_singleton.1 hc
          exact hpni
        · cases hc
      · exact hwifi true c hc
    apply Issues.ite (runPniLoop_touches n e (.inr rfl) (.inl rfl) m)
    apply Issues.bind _ fun _ => runPniLoop_touches n e (.inl rfl) (.inr rfl) m
    apply Issues.issue
    intro c hc
    split at hc
    · cases hc
    · exact hwifi true c hc
  · intro _
    exact Issues.issue (by simp [Command.touches])

end

end NetSrvMgr.Pni
