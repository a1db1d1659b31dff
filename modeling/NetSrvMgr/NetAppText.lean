import NetSrvMgr.NetAppDb

namespace NetSrvMgr.NetApp
open CString
set_option autoImplicit true

/-- The strings of the JSON text, which may have a NUL in them. -/
structure Credentials where
  ssid : CStr
  bssid : CStr
  password : CStr
  deriving DecidableEq

def Credentials.fields (t : Credentials) : List CStr := [t.ssid, t.bssid, t.password]

/-- What the parser hands over of the strings. -/
def Credentials.info (t : Credentials) (security : CStr) : ApInfo where
  ssid := cstr t.ssid
  bssid := cstr t.bssid
  password := cstr t.password
  security := security

def Credentials.Plain (t : Credentials) : Prop := ∀ s ∈ t.fields, '\n' ∉ s ∧ '\x00' ∉ s

instance (t : Credentials) : Decidable t.Plain :=
  inferInstanceAs (Decidable (∀ s ∈ t.fields, '\n' ∉ s ∧ '\x00' ∉ s))

def blockEnd : CStr := "\x7d".toList

/-- The lines of each network block, with those of the block that is open. -/
def readBlocks : Option (List CStr) → List CStr → List (List CStr)
  | _, [] => []
  | none, line :: lines =>
    if gStrstrip line = networkLine then readBlocks (some []) lines else readBlocks none lines
  | some block, line :: lines =>
    if gStrstrip line = blockEnd then block :: readBlocks none lines
    else readBlocks (some (block ++ [line])) lines

def networkBlocks (conf : CStr) : List (List CStr) := readBlocks none (conf.splitOn '\n')

/-- The six lines that the comment on the conversion lists. -/
def documentedBlock (t : Credentials) (security : CStr) : List CStr :=
  ["    ssid=\"".toList ++ t.ssid ++ "\"".toList,
    "    scan_ssid=1".toList,
    "    bssid=".toList ++ t.bssid,
    "    psk=\"".toList ++ t.password ++ "\"".toList,
    "    key_mgmt=".toList ++ wpaSecurityMode security,
    "    auth_alg=OPEN".toList]

/-- Some conversion of a database that has the credentials leaves this text. -/
def Credentials.WrittenAs (t : Credentials) (security conf : CStr) : Prop :=
  ∃ e files rootJson db, Converts e files rootJson ∧
    apInfo rootJson = some (t.info security) ∧
    createWpaSupplicantConfFromNetappDb e files = some (⟨some conf, db⟩, 0)

def Credentials.Documented (t : Credentials) : Prop :=
  ∀ security conf, t.WrittenAs security conf →
    networkBlocks conf = [documentedBlock t security]

/-- A database that holds one object, and nothing in its way. -/
def NetAppEnv.holding (rootJson : CJson) : NetAppEnv where
  opens := true
  prepares := true
  row := true
  columnText := some []
  cJSONParse := fun _ => some rootJson
  confWritable := true
  removable := true

def Credentials.json (t : Credentials) (security : CStr) : CJson :=
  [("SSID".toList, some (cstr t.ssid)), ("BSSID".toList, some (cstr t.bssid)),
    ("Password".toList, some (cstr t.password)), ("Security".toList, some security)]

theorem createWpaSupplicantConf_of_converts (h : Converts e files rootJson)
    (hinfo : apInfo rootJson = some info) :
    createWpaSupplicantConfFromNetappDb e files =
      some (⟨some (confText info), if e.removable then none else files.db⟩, 0) := by
  rw [createWpaSupplicantConfFromNetappDb, h.absent]
  dsimp only
  rw [(openedJson_eq_some_iff h.absent).2 h]
  dsimp only
  rw [hinfo]
  rfl

theorem Credentials.writtenAs_iff (t : Credentials) (security conf : CStr) :
    t.WrittenAs security conf ↔ conf = confText (t.info security) := by
  apply Iff.intro
  · rintro ⟨e, files, rootJson, db, hconverts, hinfo, hcreate⟩
    rw [createWpaSupplicantConf_of_converts hconverts hinfo] at hcreate
    cases hcreate
    rfl
  · intro hconf
    have hconverts : Converts (.holding (t.json security)) ⟨none, some []⟩ (t.json security) :=
      ⟨rfl, rfl, rfl, rfl, rfl, ⟨[], rfl, rfl⟩, rfl⟩
    have hinfo : apInfo (t.json security) = some (t.info security) := rfl
    refine ⟨_, _, _, none, hconverts, hinfo, ?_⟩
    rw [createWpaSupplicantConf_of_converts hconverts hinfo, hconf]
    rfl

theorem mem_of_mem_readBlocks {opened : Option (List CStr)} (h : block ∈ readBlocks opened lines)
    (hline : line ∈ block) : line ∈ opened.getD [] ∨ line ∈ lines := by
  induction lines generalizing opened with
  | nil =>
    cases opened with
    | none => cases h
    | some b => cases h
  | cons l lines ih =>
    cases opened with
    | none =>
      rw [readBlocks] at h
      split at h
      · rcases ih h with hopen | hrest
        · cases hopen
        · exact Or.inr (List.mem_cons_of_mem l hrest)
      · rcases ih h with hopen | hrest
        · cases hopen
        · exact Or.inr (List.mem_cons_of_mem l hrest)
    | some b =>
      rw [readBlocks] at h
      split at h
      · rcases List.mem_cons.1 h with rfl | h
        · exact Or.inl hline
        · rcases ih h with hopen | hrest
          · cases hopen
          · exact Or.inr (List.mem_cons_of_mem l hrest)
      · rcases ih h with hopen | hrest
        · rcases List.mem_append.1 hopen with hopen | hl
          · exact Or.inl hopen
          · rw [List.mem_singleton.1 hl]
            exact Or.inr List.mem_cons_self
        · exact Or.inr (List.mem_cons_of_mem l hrest)

theorem gStrstrip_indented_ne (hc : isSpace c = false) (hne : c ≠ '\x7d') (rest : CStr) :
    gStrstrip (' ' :: ' ' :: ' ' :: ' ' :: c :: rest) ≠ blockEnd := by
  have hchug : gStrchug (' ' :: ' ' :: ' ' :: ' ' :: c :: rest) = c :: rest := by
    have hstop : gStrchug (c :: rest) = c :: rest :=
      List.dropWhile_cons_of_neg (by rw [hc]; exact Bool.false_ne_true)
    exact hstop
  have hpre : gStrstrip (' ' :: ' ' :: ' ' :: ' ' :: c :: rest) <+: c :: rest := by
    rw [gStrstrip, hchug]
    exact List.rdropWhile_prefix isSpace _
  intro hend
  rw [hend, blockEnd] at hpre
  have hhead := List.cons_prefix_cons.1 hpre
  exact hne hhead.1.symm

theorem documentedBlock_open (t : Credentials) (security : CStr) :
    ∀ line ∈ documentedBlock t security, gStrstrip line ≠ blockEnd := by
  intro line hline
  simp only [documentedBlock, List.mem_cons, List.not_mem_nil, or_false] at hline
  rcases hline with rfl | rfl | rfl | rfl | rfl | rfl
  · exact gStrstrip_indented_ne (c := 's') rfl (by decide) _
  · exact gStrstrip_indented_ne (c := 's') rfl (by decide) _
  · exact gStrstrip_indented_ne (c := 'b') rfl (by decide) _
  · exact gStrstrip_indented_ne (c := 'p') rfl (by decide) _
  · exact gStrstrip_indented_ne (c := 'k') rfl (by decide) _
  · exact gStrstrip_indented_ne (c := 'a') rfl (by decide) _

theorem readBlocks_append (hopen : ∀ line ∈ lines, gStrstrip line ≠ blockEnd)
    (hend : gStrstrip last = blockEnd) (block rest : List CStr) :
    readBlocks (some block) (lines ++ last :: rest) =
      (block ++ lines) :: readBlocks none rest := by
  induction lines generalizing block with
  | nil => rw [List.nil_append, readBlocks, if_pos hend, List.append_nil]
  | cons line lines ih =>
    obtain ⟨hline, hlines⟩ := List.forall_mem_cons.1 hopen
    rw [List.cons_append, readBlocks, if_neg hline, ih hlines, List.append_assoc]
    rfl

theorem wpaSecurityMode_mem (security : CStr) :
    wpaSecurityMode security ∈ [] :: securityModeMap.map Prod.snd := by
  rw [wpaSecurityMode]
  split
  · exact List.mem_cons_self
  · next mode hmode =>
    exact List.mem_cons_of_mem _ (List.mem_map_of_mem (List.mem_of_find?_eq_some hmode))

theorem wpaSecurityMode_plain (security : CStr) :
    '\n' ∉ wpaSecurityMode security ∧ '\x00' ∉ wpaSecurityMode security := by
  have hall : ∀ mode ∈ [] :: securityModeMap.map Prod.snd, '\n' ∉ mode ∧ '\x00' ∉ mode := by
    decide
  exact hall _ (wpaSecurityMode_mem security)

/-- A character that no field has and no line has without the fields. -/
theorem not_mem_confLines {info : ApInfo}
    (hempty : ∀ line ∈ confLines ⟨[], [], [], []⟩, c ∉ line) (hssid : c ∉ info.ssid)
    (hbssid : c ∉ info.bssid) (hpassword : c ∉ info.password)
    (hsecurity : c ∉ wpaSecurityMode info.security) : ∀ line ∈ confLines info, c ∉ line := by
  simp only [confLines, List.forall_mem_cons, List.mem_append, not_or] at hempty ⊢
  obtain ⟨h₁, h₂, h₃, h₄, ⟨⟨h₅, _⟩, h₅'⟩, h₆, ⟨h₇, _⟩, ⟨⟨h₈, _⟩, h₈'⟩, ⟨h₉, _⟩, hlast⟩ := hempty
  exact ⟨h₁, h₂, h₃, h₄, ⟨⟨h₅, hssid⟩, h₅'⟩, h₆, ⟨h₇, hbssid⟩, ⟨⟨h₈, hpassword⟩, h₈'⟩,
    ⟨h₉, hsecurity⟩, hlast⟩

theorem nul_not_mem_confText (t : Credentials) (security : CStr) :
    '\x00' ∉ confText (t.info security) := by
  have hlines : ∀ line ∈ confLines (t.info security), '\x00' ∉ line :=
    not_mem_confLines (by decide) (nul_not_mem_cstr _) (nul_not_mem_cstr _) (nul_not_mem_cstr _)
      (wpaSecurityMode_plain security).2
  intro hnul
  obtain ⟨line, hline, hc⟩ := List.mem_flatMap.1 hnul
  rcases List.mem_append.1 hc with hc | hc
  · exact hlines line hline hc
  · exact absurd hc (by decide)

theorem Credentials.Plain.info {t : Credentials} (h : t.Plain) (security : CStr) :
    t.info security = ⟨t.ssid, t.bssid, t.password, security⟩ := by
  simp only [Plain, fields, List.forall_mem_cons] at h
  rw [Credentials.info, cstr_eq_self h.1.2, cstr_eq_self h.2.1.2, cstr_eq_self h.2.2.1.2]

theorem Credentials.Plain.documented {t : Credentials} (h : t.Plain) : t.Documented := by
  intro security conf hwritten
  have hfields := h
  simp only [Plain, fields, List.forall_mem_cons] at hfields
  have hlines : ∀ line ∈ confLines ⟨t.ssid, t.bssid, t.password, security⟩, '\n' ∉ line :=
    not_mem_confLines (by decide) hfields.1.1 hfields.2.1.1 hfields.2.2.1.1
      (wpaSecurityMode_plain security).1
  have hheader : ∀ rest, readBlocks none (confLines ⟨t.ssid, t.bssid, t.password, security⟩ ++
      rest) = readBlocks (some []) (documentedBlock t security ++ "    \x7d".toList :: rest) := by
    intro rest
    rfl
  rw [t.writtenAs_iff security conf, h.info] at hwritten
  rw [hwritten, networkBlocks, confText, splitOn_lines hlines, hheader,
    readBlocks_append (documentedBlock_open t security) (by decide)]
  rfl

theorem Credentials.plain_of_block
    (h : ∀ line ∈ documentedBlock t security, '\n' ∉ line ∧ '\x00' ∉ line) : t.Plain := by
  simp only [documentedBlock, List.forall_mem_cons, List.mem_append, not_or] at h
  simp only [Plain, fields, List.forall_mem_cons]
  exact ⟨⟨h.1.1.1.2, h.1.2.1.2⟩, ⟨h.2.2.1.1.2, h.2.2.1.2.2⟩,
    ⟨h.2.2.2.1.1.1.2, h.2.2.2.1.2.1.2⟩, fun _ hs => absurd hs List.not_mem_nil⟩

theorem Credentials.Documented.plain {t : Credentials} (h : t.Documented) : t.Plain := by
  have hblocks := h [] _ ((t.writtenAs_iff [] _).2 rfl)
  have hblock : documentedBlock t [] ∈ networkBlocks (confText (t.info [])) := by
    rw [hblocks]
    exact List.mem_singleton_self _
  apply Credentials.plain_of_block
  intro line hline
  have hmem : line ∈ (confText (t.info [])).splitOn '\n' := by
    rcases mem_of_mem_readBlocks hblock hline with hopen | hmem
    · cases hopen
    · exact hmem
  rw [List.splitOn_eq_splitOnP] at hmem
  obtain ⟨hpart, hfree⟩ := mem_splitOnP hmem
  apply And.intro
  · intro hnl
    exact absurd (hfree _ hnl) (by decide)
  · intro hnul
    exact nul_not_mem_confText t [] (hpart.subset hnul)

theorem documentedBlock_inj (h : documentedBlock t security = documentedBlock t' security') :
    t = t' := by
  simp only [documentedBlock, List.cons.injEq, List.append_cancel_left_eq,
    List.append_cancel_right_eq, true_and] at h
  obtain ⟨ssid, bssid, password⟩ := t
  obtain ⟨ssid', bssid', password'⟩ := t'
  rw [Credentials.mk.injEq]
  exact ⟨h.1, h.2.1, h.2.2.1⟩

/-- The files are as documented, and differ where the credentials do, exactly for strings without
newlines and NULs. -/
theorem credentials_file_iff (t t' : Credentials) :
    (t.Documented ∧ t'.Documented ∧ ∀ security security' conf,
      t.WrittenAs security conf → t'.WrittenAs security' conf → t = t') ↔
    t.Plain ∧ t'.Plain := by
  apply Iff.intro
  · rintro ⟨hdoc, hdoc', _⟩
    exact ⟨hdoc.plain, hdoc'.plain⟩
  · rintro ⟨hplain, hplain'⟩
    refine ⟨hplain.documented, hplain'.documented, ?_⟩
    intro security security' conf hwritten hwritten'
    have hblocks := hplain.documented security conf hwritten
    rw [hplain'.documented security' conf hwritten', List.cons.injEq] at hblocks
    exact (documentedBlock_inj hblocks.1).symm

/-- Two passwords and addresses that share a file, which has a line for a key of its own. -/
theorem credentials_file_collision :
    (¬∀ t : Credentials, t.Documented) ∧
    ¬∀ (t t' : Credentials) security security' conf,
      t.WrittenAs security conf → t'.WrittenAs security' conf → t = t' := by
  apply And.intro
  · intro h
    have hplain := (h ⟨"home".toList, "b\n    psk=\"c\"".toList, "d".toList⟩).plain
    exact absurd hplain (by decide)
  · intro h
    have hwritten := (Credentials.writtenAs_iff
      ⟨"home".toList, "b\n    psk=\"c\"".toList, "d".toList⟩ [] _).2 rfl
    have hsame : confText ((Credentials.mk "home".toList "b\n    psk=\"c\"".toList
        "d".toList).info []) =
      confText ((Credentials.mk "home".toList "b".toList
        "c\"\n    psk=\"d".toList).info []) := rfl
    have heq := h _ _ [] [] _ hwritten ((Credentials.writtenAs_iff _ [] _).2 hsame)
    exact absurd heq (by decide)

end NetSrvMgr.NetApp
