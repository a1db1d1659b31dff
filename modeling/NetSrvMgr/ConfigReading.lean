import NetSrvMgr.ConfigProps

namespace NetSrvMgr.Config
open CString LastWrite
set_option autoImplicit true

/-- A string from the file hits every name that it starts, in any case. -/
theorem hits_iff : hits name s = true ↔ s.map Char.toLower <+: name.map Char.toLower := by
  have hlen : (s.map Char.toLower).take s.length = s.map Char.toLower :=
    List.take_of_length_le (Nat.le_of_eq (List.length_map _))
  rw [hits, strncaseeq, decide_eq_true_eq, hlen, List.prefix_iff_eq_take, List.length_map]
  exact eq_comm

theorem hits_of_strcaseeq (h : strcaseeq name s = true) : hits name s = true := by
  rw [hits_iff, ← of_decide_eq_true h]

theorem strcaseeq_trans (h : strcaseeq s u = true) (h' : strcaseeq t u = true) :
    strcaseeq s t = true :=
  decide_eq_true ((of_decide_eq_true h).trans (of_decide_eq_true h').symm)

theorem stunFields_key_inj :
    ∀ f ∈ stunFields, ∀ f' ∈ stunFields, strcaseeq f.key f'.key = true → f = f' := by decide

theorem mem_stunFields : f ∈ stunFields ↔ f ∉ wifiFields := by
  cases f <;> decide

theorem Field.group_wifi {f : Field} (h : f ∈ wifiFields) : f.group = wifiConfig := if_pos h

theorem Field.group_stun {f : Field} (h : f ∉ wifiFields) : f.group = stunConfig := if_neg h

section
variable (env : ConfigEnv)

@[simp] theorem ReadState.set_overrun (s : ReadState) (f : Field) (value : CStr) :
    (s.set env f value).overrun = (s.overrun || (!env.safec && !f.type.fits value)) := rfl

theorem ReadState.set_props_self (s : ReadState) (f : Field) (value : CStr) :
    (s.set env f value).props f = f.type.read value := Function.update_self f _ _

theorem ReadState.set_props_ne (s : ReadState) (value : CStr) (h : f' ≠ f) :
    (s.set env f value).props f' = s.props f' := Function.update_of_ne h _ _

def isStunGroup (group : KeyFileGroup) : Bool :=
  !hits wifiConfig group.name && hits stunConfig group.name

/-- The entry is one that the code stores in the field. -/
def Field.takes (f : Field) (group : KeyFileGroup) (entry : KeyFileEntry) : Bool :=
  if f ∈ wifiFields then
    hits wifiConfig group.name && (hits f.key entry.key && f.enabled env)
  else
    isStunGroup group && (stunFields.find? fun f => hits f.key entry.key) = some f

def Field.write (f : Field) (e : KeyFileGroup × KeyFileEntry) : Option f.type.Val :=
  if f.takes env e.1 e.2 then some (f.type.read e.2.value) else none

def readEntry (group : KeyFileGroup) (s : ReadState) (entry : KeyFileEntry) : ReadState :=
  if hits wifiConfig group.name then readWifiEntry env s entry
  else if hits stunConfig group.name then readStunEntry env s entry
  else s

variable {env}

theorem foldl_set_props (fields : List Field) (c : Field → Bool) (value : CStr) (s : ReadState)
    (f : Field) :
    (fields.foldl (fun s f => if c f then s.set env f value else s) s).props f =
      if f ∈ fields ∧ c f = true then f.type.read value else s.props f := by
  induction fields generalizing s with
  | nil => exact (if_neg fun h => absurd h.1 List.not_mem_nil).symm
  | cons f' fields ih =>
    rw [List.foldl_cons, ih]
    by_cases hin : f ∈ fields ∧ c f = true
    · rw [if_pos hin, if_pos ⟨List.mem_cons_of_mem f' hin.1, hin.2⟩]
    · rw [if_neg hin]
      by_cases heq : f = f'
      · subst heq
        cases hc : c f with
        | true =>
          rw [if_pos rfl, if_pos ⟨List.mem_cons_self, rfl⟩, s.set_props_self]
        | false => rw [if_neg Bool.false_ne_true, if_neg fun h => Bool.false_ne_true h.2]
      · have hcons : ¬(f ∈ f' :: fields ∧ c f = true) := by
          intro h
          rcases List.mem_cons.1 h.1 with h' | h'
          · exact heq h'
          · exact hin ⟨h', h.2⟩
        rw [if_neg hcons]
        split
        · exact s.set_props_ne env value heq
        · rfl

theorem foldl_set_overrun (fields : List Field) (c : Field → Bool) (value : CStr) (s : ReadState)
    (h : ∀ f ∈ fields, c f = true → f.type.fits value = true) :
    (fields.foldl (fun s f => if c f then s.set env f value else s) s).overrun = s.overrun := by
  induction fields generalizing s with
  | nil => rfl
  | cons f fields ih =>
    obtain ⟨hf, hfields⟩ := List.forall_mem_cons.1 h
    rw [List.foldl_cons, ih _ hfields]
    split
    · next hc => rw [s.set_overrun, hf hc, Bool.not_true, Bool.and_false, Bool.or_false]
    · rfl

theorem readEntry_props (env : ConfigEnv) (group : KeyFileGroup) (s : ReadState)
    (entry : KeyFileEntry) (f : Field) :
    (readEntry env group s entry).props f = (f.write env (group, entry)).getD (s.props f) := by
  rw [readEntry, Field.write, Field.takes, isStunGroup]
  cases hw : hits wifiConfig group.name with
  | true =>
    rw [if_pos rfl, readWifiEntry, foldl_set_props]
    by_cases hf : f ∈ wifiFields
    · rw [if_pos hf, Bool.true_and]
      cases hits f.key entry.key && f.enabled env with
      | true => rw [if_pos ⟨hf, rfl⟩, if_pos rfl, Option.getD_some]
      | false =>
        rw [if_neg (fun h => Bool.false_ne_true h.2), if_neg Bool.false_ne_true, Option.getD_none]
    · rw [if_neg (fun h => hf h.1), if_neg hf]
      rfl
  | false =>
    rw [if_neg Bool.false_ne_true]
    cases hs : hits stunConfig group.name with
    | false =>
      rw [if_neg Bool.false_ne_true]
      split
      · rfl
      · rfl
    | true =>
      rw [if_pos rfl, readStunEntry]
      by_cases hf : f ∈ wifiFields
      · rw [if_pos hf, Bool.false_and, if_neg Bool.false_ne_true, Option.getD_none]
        split
        · rfl
        · next f' hfind =>
          have hf' : f' ∉ wifiFields := mem_stunFields.1 (List.mem_of_find?_eq_some hfind)
          exact s.set_props_ne env entry.value fun h => hf' (h ▸ hf)
      · rw [if_neg hf, Bool.not_false, Bool.true_and, Bool.true_and]
        split
        · next hfind =>
          rw [hfind, decide_eq_false (by simp), if_neg Bool.false_ne_true, Option.getD_none]
        · next f' hfind =>
          rw [hfind]
          by_cases heq : f = f'
          · subst heq
            rw [decide_eq_true rfl, if_pos rfl, Option.getD_some, s.set_props_self]
          · have hne : ¬some f' = some f := fun h => heq (Option.some.inj h).symm
            rw [decide_eq_false hne, if_neg Bool.false_ne_true, Option.getD_none,
              s.set_props_ne env entry.value heq]

theorem readEntry_overrun (group : KeyFileGroup) (s : ReadState) (entry : KeyFileEntry)
    (h : ∀ f : Field, f.takes env group entry = true → f.type.fits entry.value = true) :
    (readEntry env group s entry).overrun = s.overrun := by
  rw [readEntry]
  split
  · next hw =>
    apply foldl_set_overrun
    intro f hf hc
    apply h f
    rw [Field.takes, if_pos hf, hw, hc]
    rfl
  · next hw =>
    split
    · next hs =>
      rw [readStunEntry]
      split
      · rfl
      · next f hfind =>
        have hf : f ∉ wifiFields := mem_stunFields.1 (List.mem_of_find?_eq_some hfind)
        have htakes : f.takes env group entry = true := by
          rw [Field.takes, if_neg hf, isStunGroup, eq_false_of_ne_true hw, hs, hfind,
            decide_eq_true rfl]
          rfl
        rw [s.set_overrun, h f htakes, Bool.not_true, Bool.and_false, Bool.or_false]
    · rfl

theorem ConfProps.setBindTimeout_bindTimeout (props : ConfProps) (n : UInt16) :
    (props.setBindTimeout n).bindTimeout = n :=
  @Function.update_self Field (fun f => f.type.Val) _ .bindTimeout n props

theorem ConfProps.setBindTimeout_ne (props : ConfProps) (n : UInt16) (h : f ≠ .bindTimeout) :
    props.setBindTimeout n f = props f := Function.update_of_ne h _ _

theorem ConfProps.setCacheTimeout_default {props : ConfProps} (h : props.cacheTimeout = 0) :
    props.setCacheTimeout stunDefaultCacheTimeout = props := by
  have hdefault : stunDefaultCacheTimeout = props.cacheTimeout := h.symm
  rw [setCacheTimeout, hdefault]
  exact Function.update_eq_self _ _

theorem ReadState.stunDefaults_eq (s : ReadState) :
    s.stunDefaults = { s with props :=
      if s.props.bindTimeout = 0 then s.props.setBindTimeout stunDefaultBindTimeout
      else s.props } := by
  rw [ReadState.stunDefaults]
  generalize (if s.props.bindTimeout = 0 then _ else s.props) = props
  split
  · next hzero => rw [ConfProps.setCacheTimeout_default hzero]
  · rfl

theorem ReadState.stunDefaults_props (s : ReadState) (h : f ≠ .bindTimeout) :
    s.stunDefaults.props f = s.props f := by
  rw [ReadState.stunDefaults_eq]
  dsimp only
  split
  · exact s.props.setBindTimeout_ne _ h
  · rfl

theorem ReadState.stunDefaults_bindTimeout (s : ReadState) :
    s.stunDefaults.props.bindTimeout = orDefault s.props.bindTimeout := by
  rw [ReadState.stunDefaults_eq, orDefault]
  dsimp only
  split
  · exact s.props.setBindTimeout_bindTimeout _
  · rfl

theorem readGroup_eq (s : ReadState) (group : KeyFileGroup) :
    readGroup env s group =
      if isStunGroup group then (group.entries.foldl (readEntry env group) s).stunDefaults
      else group.entries.foldl (readEntry env group) s := by
  have hentry : ∀ c : Bool, hits wifiConfig group.name = c → readEntry env group =
      if c then readWifiEntry env else if hits stunConfig group.name then readStunEntry env
      else fun s _ => s := by
    intro c hc
    funext s entry
    rw [readEntry, hc]
    cases c with
    | true => rfl
    | false =>
      cases hits stunConfig group.name with
      | true => rfl
      | false => rfl
  rw [readGroup, isStunGroup]
  cases hw : hits wifiConfig group.name with
  | true =>
    rw [hentry true hw]
    rfl
  | false =>
    rw [hentry false hw]
    cases hits stunConfig group.name with
    | true => rfl
    | false =>
      have hkeep : group.entries.foldl (fun s _ => s) s = s := by
        induction group.entries with
        | nil => rfl
        | cons entry entries ih => exact ih
      exact hkeep.symm

theorem foldl_readEntry_props (env : ConfigEnv) (group : KeyFileGroup) (s : ReadState)
    (f : Field) :
    (group.entries.foldl (readEntry env group) s).props f =
      lastWrite (f.write env) (groupEntries group) (s.props f) := by
  have hlast := foldl_eq_lastWrite (fun s : ReadState => s.props f)
    (fun s entry => readEntry_props env group s entry f) group.entries s
  rw [groupEntries, lastWrite_map]
  exact hlast

theorem foldl_readGroup_props (env : ConfigEnv) (groups : List KeyFileGroup) (s : ReadState)
    (h : f ≠ .bindTimeout) :
    (groups.foldl (readGroup env) s).props f =
      lastWrite (f.write env) (fileEntries groups) (s.props f) := by
  induction groups generalizing s with
  | nil => rfl
  | cons group groups ih =>
    have hgroup : (readGroup env s group).props f =
        lastWrite (f.write env) (groupEntries group) (s.props f) := by
      rw [readGroup_eq]
      split
      · rw [ReadState.stunDefaults_props _ h, foldl_readEntry_props]
      · rw [foldl_readEntry_props]
    rw [List.foldl_cons, ih, hgroup, fileEntries, fileEntries, List.flatMap_cons,
      lastWrite_append]

/-- What was stored in `bindTimeout` last. -/
def storedBindTimeout (env : ConfigEnv) (entries : List (KeyFileGroup × KeyFileEntry))
    (old : UInt16) : UInt16 :=
  lastWrite (Field.bindTimeout.write env) entries old

theorem readGroup_bindTimeout (s : ReadState) (group : KeyFileGroup) :
    (readGroup env s group).props.bindTimeout =
      if isStunGroup group then
        orDefault (storedBindTimeout env (groupEntries group) s.props.bindTimeout)
      else storedBindTimeout env (groupEntries group) s.props.bindTimeout := by
  have hentries := foldl_readEntry_props env group s .bindTimeout
  rw [readGroup_eq]
  split
  · rw [ReadState.stunDefaults_bindTimeout]
    exact congrArg orDefault hentries
  · exact hentries

theorem isStunGroup_of_takes {f : Field} (hf : f ∉ wifiFields)
    (h : f.takes env group entry = true) : isStunGroup group = true := by
  rw [Field.takes, if_neg hf, Bool.and_eq_true] at h
  exact h.1

theorem isStunGroup_of_write (h : (Field.bindTimeout.write env e).isSome = true) :
    isStunGroup e.1 = true := by
  rw [Field.write] at h
  split at h
  · next htakes => exact isStunGroup_of_takes (by decide) htakes
  · cases h

theorem orDefault_ne_zero (n : UInt16) : orDefault n ≠ 0 := by
  rw [orDefault]
  split
  · decide
  · next hn => exact hn

theorem any_isStunGroup_of_write (he : e ∈ fileEntries groups)
    (h : (Field.bindTimeout.write env e).isSome = true) : groups.any isStunGroup = true := by
  obtain ⟨group, hgroup, he⟩ := List.mem_flatMap.1 he
  obtain ⟨entry, _, rfl⟩ := List.mem_map.1 he
  exact List.any_eq_true.2 ⟨group, hgroup, isStunGroup_of_write h⟩

/-- The default is put in once for all: a zero that a later group leaves is replaced in that
group. -/
theorem foldl_readGroup_bindTimeout (env : ConfigEnv) (groups : List KeyFileGroup)
    (s : ReadState) :
    (groups.foldl (readGroup env) s).props.bindTimeout =
      if groups.any isStunGroup then
        orDefault (storedBindTimeout env (fileEntries groups) s.props.bindTimeout)
      else storedBindTimeout env (fileEntries groups) s.props.bindTimeout := by
  induction groups generalizing s with
  | nil => rfl
  | cons group groups ih =>
    have hentries : ∀ old, storedBindTimeout env (fileEntries (group :: groups)) old =
        storedBindTimeout env (fileEntries groups)
          (storedBindTimeout env (groupEntries group) old) := by
      intro old
      exact lastWrite_append (groupEntries group) (fileEntries groups) old
    rw [List.foldl_cons, ih, readGroup_bindTimeout, hentries, List.any_cons]
    cases hstun : isStunGroup group with
    | false => rw [if_neg Bool.false_ne_true, Bool.false_or]
    | true =>
      have hcases := @lastWrite_cases _ _ (Field.bindTimeout.write env) (fileEntries groups)
      rw [if_pos rfl, Bool.true_or, if_pos rfl]
      rcases hcases with hkeep | ⟨⟨e, he, hwrite⟩, n, hn⟩
      · have hstored : ∀ old, storedBindTimeout env (fileEntries groups) old = old := hkeep
        rw [hstored, hstored]
        split
        · exact if_neg (orDefault_ne_zero _)
        · rfl
      · have hstored : ∀ old, storedBindTimeout env (fileEntries groups) old = n := hn
        rw [hstored, hstored]
        exact if_pos (any_isStunGroup_of_write he hwrite)

theorem foldl_readGroup_overrun (groups : List KeyFileGroup) (s : ReadState)
    (h : ∀ e ∈ fileEntries groups, ∀ f : Field, f.takes env e.1 e.2 = true →
      f.type.fits e.2.value = true) :
    (groups.foldl (readGroup env) s).overrun = s.overrun := by
  induction groups generalizing s with
  | nil => rfl
  | cons group groups ih =>
    have hentries : ∀ (entries : List KeyFileEntry) (s : ReadState),
        (∀ entry ∈ entries, ∀ f : Field, f.takes env group entry = true →
          f.type.fits entry.value = true) →
        (entries.foldl (readEntry env group) s).overrun = s.overrun := by
      intro entries
      induction entries with
      | nil =>
        intro s _
        rfl
      | cons entry entries ihe =>
        intro s hfits
        obtain ⟨hentry, hrest⟩ := List.forall_mem_cons.1 hfits
        rw [List.foldl_cons, ihe _ hrest, readEntry_overrun group s entry hentry]
    have hgroup : (group.entries.foldl (readEntry env group) s).overrun = s.overrun := by
      apply hentries
      intro entry hentry f htakes
      have hmem : (group, entry) ∈ fileEntries (group :: groups) := by
        rw [fileEntries, List.flatMap_cons]
        exact List.mem_append_left _ (List.mem_map_of_mem hentry)
      exact h (group, entry) hmem f htakes
    have hrest : ∀ e ∈ fileEntries groups, ∀ f : Field, f.takes env e.1 e.2 = true →
        f.type.fits e.2.value = true := by
      intro e he
      apply h e
      rw [fileEntries, List.flatMap_cons]
      exact List.mem_append_right _ he
    have hread : (readGroup env s group).overrun = s.overrun := by
      rw [readGroup_eq]
      split
      · exact hgroup
      · exact hgroup
    rw [List.foldl_cons, ih _ hrest, hread]

end

section
variable {groups : List KeyFileGroup} {group : KeyFileGroup} {entry : KeyFileEntry}

theorem NamesWhole.hits_group (h : NamesWhole groups) (hgroup : group ∈ groups) (f : Field) :
    hits f.group group.name = strcaseeq f.group group.name := by
  rw [Bool.eq_iff_iff]
  exact ⟨fun hhit => (h group hgroup f hhit).1, hits_of_strcaseeq⟩

theorem NamesWhole.hits_key (h : NamesWhole groups) (hgroup : group ∈ groups)
    (hentry : entry ∈ group.entries) {f : Field} (hf : strcaseeq f.group group.name = true) :
    hits f.key entry.key = strcaseeq f.key entry.key := by
  rw [Bool.eq_iff_iff]
  exact ⟨(h group hgroup f (hits_of_strcaseeq hf)).2 entry hentry, hits_of_strcaseeq⟩

theorem find_stunFields_iff {key : CStr}
    (hkey : ∀ f ∈ stunFields, hits f.key key = strcaseeq f.key key) {f : Field}
    (hf : f ∈ stunFields) :
    (stunFields.find? fun f => hits f.key key) = some f ↔ strcaseeq f.key key = true := by
  apply Iff.intro
  · intro hfind
    rw [← hkey f hf]
    exact List.find?_some (p := fun f : Field => hits f.key key) hfind
  · intro hsame
    obtain ⟨f', hfind⟩ : ∃ f', (stunFields.find? fun f => hits f.key key) = some f' := by
      rw [← Option.isSome_iff_exists, List.find?_isSome]
      exact ⟨f, hf, by rw [hkey f hf, hsame]⟩
    have hf' := List.mem_of_find?_eq_some hfind
    have hhit : hits f'.key key = true :=
      List.find?_some (p := fun f : Field => hits f.key key) hfind
    rw [hkey f' hf'] at hhit
    rw [hfind, stunFields_key_inj f' hf' f hf (strcaseeq_trans hhit hsame)]

theorem NamesWhole.isStunGroup_eq (h : NamesWhole groups) (hgroup : group ∈ groups) :
    isStunGroup group = strcaseeq stunConfig group.name := by
  have hwifi : hits wifiConfig group.name = strcaseeq wifiConfig group.name :=
    h.hits_group hgroup .maxTimeout
  have hstun : hits stunConfig group.name = strcaseeq stunConfig group.name :=
    h.hits_group hgroup .server
  rw [isStunGroup, hwifi, hstun]
  cases hg : strcaseeq stunConfig group.name with
  | false => exact Bool.and_false _
  | true =>
    cases hw : strcaseeq wifiConfig group.name with
    | false => rfl
    | true => exact absurd (strcaseeq_trans hw hg) (by decide)

theorem NamesWhole.takes_eq (h : NamesWhole groups) (hgroup : group ∈ groups)
    (hentry : entry ∈ group.entries) (env : ConfigEnv) (f : Field) :
    f.takes env group entry = (f.isEntry group entry && f.enabled env) := by
  rw [Field.takes, Field.isEntry]
  by_cases hf : f ∈ wifiFields
  · have hwifi : hits wifiConfig group.name = strcaseeq wifiConfig group.name :=
      h.hits_group hgroup .maxTimeout
    rw [if_pos hf, f.group_wifi hf, hwifi]
    cases hg : strcaseeq wifiConfig group.name with
    | false => rfl
    | true =>
      rw [h.hits_key hgroup hentry (by rw [f.group_wifi hf, hg])]
      rfl
  · have henabled : f.enabled env = true := by
      have hne : f ≠ .bEnableLostFound := fun he => hf (he ▸ by decide)
      rw [Field.enabled, decide_eq_false hne]
      rfl
    rw [if_neg hf, f.group_stun hf, h.isStunGroup_eq hgroup, henabled, Bool.and_true]
    cases hg : strcaseeq stunConfig group.name with
    | false => rw [Bool.false_and, Bool.false_and]
    | true =>
      have hkey : ∀ f' ∈ stunFields, hits f'.key entry.key = strcaseeq f'.key entry.key := by
        intro f' hf'
        exact h.hits_key hgroup hentry (by rw [f'.group_stun (mem_stunFields.1 hf'), hg])
      rw [Bool.true_and, Bool.true_and, Bool.eq_iff_iff, decide_eq_true_eq]
      exact find_stunFields_iff hkey (mem_stunFields.2 hf)

theorem mem_fileEntries {e : KeyFileGroup × KeyFileEntry} :
    e ∈ fileEntries groups ↔ e.1 ∈ groups ∧ e.2 ∈ e.1.entries := by
  rw [fileEntries, List.mem_flatMap]
  apply Iff.intro
  · rintro ⟨g, hg, he⟩
    obtain ⟨entry, hentry, rfl⟩ := List.mem_map.1 he
    exact ⟨hg, hentry⟩
  · rintro ⟨hg, he⟩
    exact ⟨e.1, hg, List.mem_map_of_mem he⟩

theorem NamesWhole.stored_eq (h : NamesWhole groups) {env : ConfigEnv} {f : Field}
    (henabled : f.enabled env = true) (old : f.type.Val) :
    lastWrite (f.write env) (fileEntries groups) old =
      lastWrite (fun e => if f.isEntry e.1 e.2 then some (f.type.read e.2.value) else none)
        (fileEntries groups) old := by
  apply lastWrite_congr
  intro e he
  obtain ⟨hgroup, hentry⟩ := mem_fileEntries.1 he
  rw [Field.write, h.takes_eq hgroup hentry, henabled, Bool.and_true]

theorem Field.enabled_of_ne {f : Field} (h : f ≠ .bEnableLostFound) (env : ConfigEnv) :
    f.enabled env = true := by
  rw [Field.enabled, decide_eq_false h]
  rfl

/-- In a file whose names are whole and whose values fit, the last entry for each field is what
counts, but for the two fields that the code treats in its own way. -/
theorem readConfigProps_setsDesigned (env : ConfigEnv) (groups : List KeyFileGroup)
    (confProp : ConfProps) (hnames : NamesWhole groups) (hfit : ValuesFit groups) :
    SetsDesigned env groups confProp := by
  constructor
  · rfl
  · apply foldl_readGroup_overrun
    intro e he f htakes
    obtain ⟨hgroup, hentry⟩ := mem_fileEntries.1 he
    rw [hnames.takes_eq hgroup hentry, Bool.and_eq_true] at htakes
    exact hfit e he f htakes.1
  · intro f hlost hbind
    have hprops := foldl_readGroup_props env groups ⟨confProp, false⟩ hbind
    exact hprops.trans (hnames.stored_eq (f.enabled_of_ne hlost env) (confProp f))
  · have hprops := foldl_readGroup_props (f := .bEnableLostFound) env groups
      ⟨confProp, false⟩ (by decide)
    cases hactive : env.interfaceActive with
    | false =>
      have henabled : Field.bEnableLostFound.enabled env = true := by
        rw [Field.enabled, hactive]
        rfl
      exact hprops.trans (hnames.stored_eq henabled (confProp .bEnableLostFound))
    | true =>
      have hdisabled : Field.bEnableLostFound.enabled env = false := by
        rw [Field.enabled, hactive]
        rfl
      apply hprops.trans
      apply lastWrite_of_none
      intro e he
      obtain ⟨hgroup, hentry⟩ := mem_fileEntries.1 he
      rw [Field.write, hnames.takes_eq hgroup hentry, hdisabled, Bool.and_false]
      rfl
  · have hany : (groups.any fun group => strcaseeq stunConfig group.name) =
        groups.any isStunGroup := by
      rw [Bool.eq_iff_iff, List.any_eq_true, List.any_eq_true]
      apply exists_congr
      intro group
      apply and_congr_right
      intro hgroup
      rw [hnames.isStunGroup_eq hgroup]
    have hstored : storedBindTimeout env (fileEntries groups) confProp.bindTimeout =
        Field.bindTimeout.configured groups confProp :=
      hnames.stored_eq (Field.enabled_of_ne (f := .bindTimeout) (by decide) env)
        (confProp .bindTimeout)
    have hprops := foldl_readGroup_bindTimeout env groups ⟨confProp, false⟩
    rw [← hstored, defaultedIn, hany]
    exact hprops

end

def allFields : List Field := wifiFields ++ stunFields

theorem mem_allFields (f : Field) : f ∈ allFields := by
  cases f <;> decide

def ConfProps.zeros : ConfProps := fun f => f.type.zero

/-- A file with one entry. -/
def oneEntry (group key value : String) : List KeyFileGroup :=
  [⟨group.toList, [⟨key.toList, value.toList⟩]⟩]

/-- Both groups, each with a key that comes twice in different cases. -/
def twoGroups : List KeyFileGroup :=
  [⟨"WiFiMgr_Config".toList,
      [⟨"lfat_version".toList, "1.0".toList⟩, ⟨"MAX_TIMEOUT_ON_DISCONNECT".toList, "30".toList⟩,
        ⟨"LFAT_Version".toList, "2.1".toList⟩]⟩,
    ⟨"stun_config".toList,
      [⟨"STUN_SERVER".toList, "stun.net".toList⟩, ⟨"Stun_Port".toList, "3478".toList⟩,
        ⟨"STUN_PORT".toList, "3479".toList⟩]⟩]

theorem readConfigProps_twoGroups : SetsDesigned ⟨false, true⟩ twoGroups ConfProps.zeros := by
  apply readConfigProps_setsDesigned
  · have hall : ∀ group ∈ twoGroups, ∀ f ∈ allFields, hits f.group group.name = true →
        strcaseeq f.group group.name = true ∧ ∀ entry ∈ group.entries,
          hits f.key entry.key = true → strcaseeq f.key entry.key = true := by decide
    intro group hgroup f
    exact hall group hgroup f (mem_allFields f)
  · have hall : ∀ e ∈ fileEntries twoGroups, ∀ f ∈ allFields,
        f.isEntry e.1 e.2 = true → f.type.fits e.2.value = true := by decide
    intro e he f
    exact hall e he f (mem_allFields f)

/-- A key that is cut short sets every field whose key it starts; the switch for lost and found is
left while the interface is active; the time-out is not left zero; a long value has no room. -/
theorem readConfigProps_not_configured :
    ¬SetsConfigured ⟨false, false⟩ (oneEntry "WiFiMgr" "LFAT_T" "5") ConfProps.zeros ∧
    ¬SetsConfigured ⟨false, true⟩ (oneEntry "WiFiMgr_Config" "ENABLE_LOST_FOUND" "1")
      ConfProps.zeros ∧
    ¬SetsConfigured ⟨false, false⟩ (oneEntry "Stun_Config" "STUN_PORT" "3478") ConfProps.zeros ∧
    ¬SetsConfigured ⟨false, false⟩ (oneEntry "Stun_Config" "STUN_INTERFACE" "0123456789abcdef")
      ConfProps.zeros := by
  refine ⟨?_, ?_, ?_, ?_⟩
  · intro h
    exact absurd (h.2 .lfatTTL) (by decide)
  · intro h
    exact absurd (h.2 .bEnableLostFound) (by decide)
  · intro h
    exact absurd (h.2 .bindTimeout) (by decide)
  · intro h
    exact absurd h.1 (by decide)

end NetSrvMgr.Config
