import NetSrvMgr.CString

namespace NetSrvMgr.NetApp
open CString
set_option autoImplicit true

/-- A parsed object: its members, each with its `valuestring`. -/
abbrev CJson := List (CStr × Option CStr)

def cJSONGetObjectItem (object : CJson) (name : CStr) : Option (Option CStr) :=
  (object.find? fun member => strcaseeq member.1 name).map Prod.snd

/-- The string of a member, empty where the object has none; `none` for a null `valuestring`. -/
def valueString (rootJson : CJson) (name : CStr) : Option CStr :=
  match cJSONGetObjectItem rootJson name with
  | none => some []
  | some json => json

structure ApInfo where
  ssid : CStr
  bssid : CStr
  password : CStr
  security : CStr

def apInfo (rootJson : CJson) : Option ApInfo := do
  let ssid ← valueString rootJson "SSID".toList
  let bssid ← valueString rootJson "BSSID".toList
  let password ← valueString rootJson "Password".toList
  let security ← valueString rootJson "Security".toList
  return { ssid, bssid, password, security }

def securityModeMap : List (CStr × CStr) :=
  [("Open".toList, "NONE".toList), ("Wep".toList, "NONE".toList),
    ("WpaPskAes".toList, "WPA-PSK".toList), ("WpaPskTkip".toList, "WPA-PSK".toList),
    ("Wpa2PskAes".toList, "WPA-PSK".toList), ("Wpa2PskTkip".toList, "WPA-PSK".toList),
    ("WpaEnterprise".toList, "WPA-EAP".toList), ("Wpa2Enterprise".toList, "WPA-EAP".toList),
    ("SAE".toList, "SAE".toList)]

def wpaSecurityMode (security : CStr) : CStr :=
  match securityModeMap.find? fun mode => strcaseeq security mode.1 with
  | none => []
  | some mode => mode.2

def networkLine : CStr := "network=\x7b".toList

def confLines (info : ApInfo) : List CStr :=
  ["ctrl_interface=/var/run/wpa_supplicant".toList,
    "update_config=1".toList,
    [],
    networkLine,
    "    ssid=\"".toList ++ info.ssid ++ "\"".toList,
    "    scan_ssid=1".toList,
    "    bssid=".toList ++ info.bssid,
    "    psk=\"".toList ++ info.password ++ "\"".toList,
    "    key_mgmt=".toList ++ wpaSecurityMode info.security,
    "    auth_alg=OPEN".toList,
    "    \x7d".toList]

def confText (info : ApInfo) : CStr := (confLines info).flatMap (· ++ ['\n'])

/-- The contents of `wpa_supplicant.conf` and of `NetApp.db`, where they exist. -/
structure WifiFiles where
  conf : Option CStr
  db : Option CStr
  deriving DecidableEq

/-- What the database, the JSON parser and the file system do. -/
structure NetAppEnv where
  opens : Bool
  prepares : Bool
  row : Bool
  columnText : Option CStr
  cJSONParse : CStr → Option CJson
  confWritable : Bool
  removable : Bool

/-- The object that the conversion gets to write from, the file being created. -/
def openedJson (e : NetAppEnv) (db : Option CStr) : Option CJson :=
  if !(db.isSome && e.opens) then none
  else if !e.prepares then none
  else if !e.row then none
  else
    match e.columnText with
    | none => none
    | some value =>
      match e.cJSONParse value with
      | none => none
      | some rootJson => if !e.confWritable then none else some rootJson

/-- The files and the result; `none` where a null string is read. -/
def createWpaSupplicantConfFromNetappDb (e : NetAppEnv) (files : WifiFiles) :
    Option (WifiFiles × Nat) :=
  let db := if e.removable then none else files.db
  match files.conf with
  | some conf => some (⟨some conf, db⟩, 1)
  | none =>
    match openedJson e files.db with
    | none => some (⟨none, db⟩, 1)
    | some rootJson => (apInfo rootJson).map fun info => (⟨some (confText info), db⟩, 0)

/-- A configuration with a network block. -/
def HasNetwork (conf : CStr) : Prop := networkLine ∈ (conf.splitOn '\n').map gStrstrip

instance (conf : CStr) : Decidable (HasNetwork conf) :=
  inferInstanceAs (Decidable (networkLine ∈ (conf.splitOn '\n').map gStrstrip))

/-- After the call one of the two files still has the credentials, and a conversion that failed
leaves the database as it was. -/
def KeepsCredentials (e : NetAppEnv) (files : WifiFiles) : Prop :=
  ∃ files' ret, createWpaSupplicantConfFromNetappDb e files = some (files', ret) ∧
    ((∃ conf, files'.conf = some conf ∧ HasNetwork conf) ∨ files'.db = files.db) ∧
    (files.conf = none → ret = 1 → files'.db = files.db)

/-- Every step up to the creation of the file succeeds. -/
structure Converts (e : NetAppEnv) (files : WifiFiles) (rootJson : CJson) : Prop where
  absent : files.conf = none
  stored : files.db.isSome = true
  opens : e.opens = true
  prepares : e.prepares = true
  row : e.row = true
  parses : ∃ value, e.columnText = some value ∧ e.cJSONParse value = some rootJson
  writable : e.confWritable = true

theorem confText_hasNetwork (info : ApInfo) : HasNetwork (confText info) := by
  have hline : networkLine ∈ confLines info := by
    simp only [confLines, List.mem_cons, true_or, or_true]
  have hstrip : gStrstrip networkLine = networkLine := by decide
  rw [HasNetwork, ← hstrip]
  exact List.mem_map_of_mem (mem_splitOn_lines hline (by decide))

theorem openedJson_eq_some_iff (habsent : files.conf = none) :
    openedJson e files.db = some rootJson ↔ Converts e files rootJson := by
  apply Iff.intro
  · intro h
    rw [openedJson] at h
    split at h
    · cases h
    · next hopens =>
      split at h
      · cases h
      · next hprepares =>
        split at h
        · cases h
        · next hrow =>
          split at h
          · cases h
          · next value hvalue =>
            split at h
            · cases h
            · next json hparse =>
              split at h
              · cases h
              · next hwritable =>
                cases h
                simp only [Bool.not_eq_true, Bool.not_eq_false', Bool.and_eq_true] at hopens
                simp only [Bool.not_eq_true, Bool.not_eq_false'] at hprepares hrow hwritable
                exact ⟨habsent, hopens.1, hopens.2, hprepares, hrow, ⟨value, hvalue, hparse⟩,
                  hwritable⟩
  · intro h
    obtain ⟨value, hvalue, hparse⟩ := h.parses
    simp only [openedJson, h.stored, h.opens, h.prepares, h.row, hvalue, hparse, h.writable,
      Bool.and_self, Bool.not_true, Bool.false_eq_true, if_false]

/-- What becomes of the database in any case. -/
def NetAppEnv.cleanUp (e : NetAppEnv) (db : Option CStr) : Option CStr :=
  if e.removable then none else db

theorem cleanUp_eq_iff (e : NetAppEnv) (db : Option CStr) :
    e.cleanUp db = db ↔ db = none ∨ e.removable = false := by
  rw [NetAppEnv.cleanUp]
  cases e.removable with
  | false => exact iff_of_true rfl (Or.inr rfl)
  | true =>
    rw [if_pos rfl]
    apply Iff.intro
    · intro h
      exact Or.inl h.symm
    · rintro (h | h)
      · exact h.symm
      · cases h

theorem keeps_present (hconf : files.conf = some conf) :
    KeepsCredentials e files ↔ HasNetwork conf ∨ files.db = none ∨ e.removable = false := by
  have hcreate : createWpaSupplicantConfFromNetappDb e files =
      some (⟨some conf, e.cleanUp files.db⟩, 1) := by
    rw [createWpaSupplicantConfFromNetappDb, hconf]
    rfl
  rw [KeepsCredentials, hcreate, ← cleanUp_eq_iff]
  apply Iff.intro
  · rintro ⟨files', ret, h, hkept, _⟩
    cases h
    rcases hkept with ⟨conf', hconf', hnet⟩ | hdb
    · cases hconf'
      exact Or.inl hnet
    · exact Or.inr hdb
  · intro h
    refine ⟨_, _, rfl, ?_, ?_⟩
    · rcases h with hnet | hdb
      · exact Or.inl ⟨conf, rfl, hnet⟩
      · exact Or.inr hdb
    · intro habsent
      rw [hconf] at habsent
      cases habsent

theorem keeps_failed (habsent : files.conf = none) (hopened : openedJson e files.db = none) :
    KeepsCredentials e files ↔ files.db = none ∨ e.removable = false := by
  have hcreate : createWpaSupplicantConfFromNetappDb e files =
      some (⟨none, e.cleanUp files.db⟩, 1) := by
    rw [createWpaSupplicantConfFromNetappDb, habsent]
    dsimp only
    rw [hopened]
    rfl
  rw [KeepsCredentials, hcreate, ← cleanUp_eq_iff]
  apply Iff.intro
  · rintro ⟨files', ret, h, _, hunchanged⟩
    cases h
    exact hunchanged habsent rfl
  · intro hdb
    exact ⟨_, _, rfl, Or.inr hdb, fun _ _ => hdb⟩

theorem keeps_converted (habsent : files.conf = none)
    (hopened : openedJson e files.db = some rootJson) :
    KeepsCredentials e files ↔ (apInfo rootJson).isSome = true := by
  have hcreate : createWpaSupplicantConfFromNetappDb e files =
      (apInfo rootJson).map fun info => (⟨some (confText info), e.cleanUp files.db⟩, 0) := by
    rw [createWpaSupplicantConfFromNetappDb, habsent]
    dsimp only
    rw [hopened]
    rfl
  rw [KeepsCredentials, hcreate]
  cases apInfo rootJson with
  | none =>
    apply iff_of_false _ Bool.false_ne_true
    rintro ⟨files', ret, h, _⟩
    cases h
  | some info =>
    apply iff_of_true _ rfl
    refine ⟨_, _, rfl, Or.inl ⟨confText info, rfl, confText_hasNetwork info⟩, ?_⟩
    intro _ hret
    cases hret

/-- The credentials are kept exactly when nothing is removed, the configuration has them already or
the conversion succeeds. -/
theorem credentials_kept_iff (e : NetAppEnv) (files : WifiFiles) :
    KeepsCredentials e files ↔
      (∀ rootJson, Converts e files rootJson → (apInfo rootJson).isSome = true) ∧
        (files.db = none ∨ e.removable = false ∨
          (∃ conf, files.conf = some conf ∧ HasNetwork conf) ∨
          ∃ rootJson, Converts e files rootJson) := by
  cases hconf : files.conf with
  | some conf =>
    have hnot : ∀ rootJson, ¬ Converts e files rootJson := by
      intro rootJson h
      have habsent := h.absent
      rw [hconf] at habsent
      cases habsent
    rw [keeps_present hconf]
    apply Iff.intro
    · intro hkept
      apply And.intro (fun json h => absurd h (hnot json))
      rcases hkept with hnet | hdb | hkeep
      · exact Or.inr (Or.inr (Or.inl ⟨conf, rfl, hnet⟩))
      · exact Or.inl hdb
      · exact Or.inr (Or.inl hkeep)
    · rintro ⟨_, hdb | hkeep | ⟨conf', hconf', hnet⟩ | ⟨json, h⟩⟩
      · exact Or.inr (Or.inl hdb)
      · exact Or.inr (Or.inr hkeep)
      · cases hconf'
        exact Or.inl hnet
      · exact absurd h (hnot json)
  | none =>
    cases hopened : openedJson e files.db with
    | none =>
      have hnot : ∀ rootJson, ¬ Converts e files rootJson := by
        intro rootJson h
        rw [(openedJson_eq_some_iff hconf).2 h] at hopened
        cases hopened
      rw [keeps_failed hconf hopened]
      apply Iff.intro
      · intro hkept
        apply And.intro (fun json h => absurd h (hnot json))
        rcases hkept with hdb | hkeep
        · exact Or.inl hdb
        · exact Or.inr (Or.inl hkeep)
      · rintro ⟨_, hdb | hkeep | ⟨conf', hconf', _⟩ | ⟨json, h⟩⟩
        · exact Or.inl hdb
        · exact Or.inr hkeep
        · cases hconf'
        · exact absurd h (hnot json)
    | some rootJson =>
      have hconverts := (openedJson_eq_some_iff hconf).1 hopened
      rw [keeps_converted hconf hopened]
      apply Iff.intro
      · intro hread
        apply And.intro
        · intro json h
          rw [(openedJson_eq_some_iff hconf).2 h] at hopened
          cases hopened
          exact hread
        · exact Or.inr (Or.inr (Or.inr ⟨rootJson, hconverts⟩))
      · rintro ⟨hread, _⟩
        exact hread rootJson hconverts

/-- A database with credentials and no room for the configuration. -/
def fullDisk : NetAppEnv where
  opens := true
  prepares := true
  row := true
  columnText := some "\x7b\"SSID\":\"home\",\"Password\":\"secret\"\x7d".toList
  cJSONParse := fun value =>
    if value = "\x7b\"SSID\":\"home\",\"Password\":\"secret\"\x7d".toList then
      some [("SSID".toList, some "home".toList), ("Password".toList, some "secret".toList)]
    else none
  confWritable := false
  removable := true

theorem fullDisk_loses_credentials : ¬ ∀ e files, KeepsCredentials e files := by
  intro h
  obtain ⟨files', ret, hcreate, hkept, _⟩ := h fullDisk ⟨none, some "NETAPP".toList⟩
  have hgone : createWpaSupplicantConfFromNetappDb fullDisk ⟨none, some "NETAPP".toList⟩ =
      some (⟨none, none⟩, 1) := by
    decide
  rw [hgone] at hcreate
  cases hcreate
  rcases hkept with ⟨conf, hconf, _⟩ | hdb
  · cases hconf
  · cases hdb

end NetSrvMgr.NetApp
