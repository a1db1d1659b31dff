import NetSrvMgr.IpSettingsFailures
import NetSrvMgr.LastWrite

namespace NetSrvMgr.Ip
open CString LastWrite
set_option autoImplicit true

def lineValue (key line : CStr) : Option CStr :=
  if key ++ ['='] <+: line then some (line.drop (key.length + 1)) else none

def lastLine (key text : CStr) : Option CStr :=
  ((text.splitOn '\n').filterMap (lineValue key)).getLast?

/-- What a field takes of a value. -/
def fieldText (v : CStr) : CStr := (AddrArray.snprintf v).str

/-- Whatever the structure holds before, no null pointer is used, and each field holds, as far as
it fits, the value of the last line with its key, or is unchanged. -/
def ReadsLastLines (text : CStr) : Prop :=
  ∀ s, ∃ t, ipSettingsFileRead .working (some text) s = some (t, true) ∧
    ∀ key ∈ settingsKeys,
      t.field key = ((lastLine key text).map fieldText).getD (s.field key)

/-- The entry has a first token and, where that is a key, a second one. -/
def HasTokens (entry : CStr) : Prop :=
  ∃ key rest, strtok entryDelims (cstr entry) = some (key, rest) ∧
    (key ∈ settingsKeys → strtok entryDelims rest ≠ none)

/-- The second token of an entry with the key. -/
def entryToken (key entry : CStr) : Option CStr :=
  (strtok entryDelims (cstr entry)).bind fun r =>
    if r.1 = key then (strtok entryDelims r.2).map Prod.fst else none

def entriesOf (text : CStr) : List CStr := fgetsAll nameValueEntrySize text

def lastEntry (key text : CStr) : Option CStr :=
  ((entriesOf text).filterMap (entryToken key)).getLast?

/-- Every entry, as `fgets` cuts the file, has its tokens, and the last entry with a key agrees
with the last line with it. -/
structure EntriesAreLines (text : CStr) : Prop where
  tokens : ∀ entry ∈ entriesOf text, HasTokens entry
  agree : ∀ key ∈ settingsKeys,
    (lastEntry key text).map fieldText = (lastLine key text).map fieldText

theorem readEntry_none_iff (entry : CStr) (s : IfaceSettings) :
    readEntry entry s = none ↔ ¬ HasTokens entry := by
  cases htok : strtok entryDelims (cstr entry) with
  | none =>
    rw [readEntry, htok]
    apply iff_of_true rfl
    intro h
    obtain ⟨_, _, hsome, _⟩ := h
    rw [htok] at hsome
    cases hsome
  | some r =>
    obtain ⟨key, rest⟩ := r
    by_cases hkey : key ∈ settingsKeys
    · rw [readEntry_key hkey htok]
      cases hvalue : strtok entryDelims rest with
      | none =>
        apply iff_of_true rfl
        intro h
        obtain ⟨_, _, hsome, hrest⟩ := h
        rw [htok] at hsome
        cases hsome
        exact hrest hkey hvalue
      | some v =>
        apply iff_of_false (fun h => by cases h)
        apply not_not.mpr
        exact ⟨key, rest, htok, fun _ => by rw [hvalue]; exact Option.some_ne_none v⟩
    · rw [readEntry_other hkey htok]
      apply iff_of_false (Option.some_ne_none s)
      exact not_not.mpr ⟨key, rest, htok, fun h => absurd h hkey⟩

theorem field_setField_snprintf (hkey : key ∈ settingsKeys) (v : CStr) (s : IfaceSettings) :
    (setField key v s).field key = fieldText v := by
  simp only [settingsKeys, List.mem_cons, List.not_mem_nil, or_false] at hkey
  rcases hkey with rfl | rfl | rfl | rfl | rfl <;> rfl

theorem readEntry_field (hkey : key ∈ settingsKeys) (h : readEntry entry s = some t) :
    t.field key = ((entryToken key entry).map fieldText).getD (s.field key) := by
  rw [entryToken]
  cases htok : strtok entryDelims (cstr entry) with
  | none =>
    rw [readEntry, htok] at h
    cases h
  | some r =>
    obtain ⟨k, rest⟩ := r
    rw [Option.bind_some]
    by_cases hk : k ∈ settingsKeys
    · rw [readEntry_key hk htok] at h
      obtain ⟨v, hv, hset⟩ := Option.map_eq_some_iff.1 h
      cases hset
      by_cases heq : k = key
      · subst heq
        rw [if_pos rfl, hv]
        exact field_setField_snprintf hkey v s
      · rw [if_neg heq]
        exact field_setField_ne hk hkey (Ne.symm heq) v s
    · have heq : ¬ k = key := fun heq => hk (heq ▸ hkey)
      rw [readEntry_other hk htok] at h
      cases h
      rw [if_neg heq]
      rfl

theorem readEntries_field (hkey : key ∈ settingsKeys) (h : readEntries entries s = some t) :
    t.field key =
      (((entries.filterMap (entryToken key)).getLast?).map fieldText).getD (s.field key) := by
  have hlast : ∀ entries old, (((entries.filterMap (entryToken key)).getLast?).map fieldText).getD
      old = lastWrite (fun entry => (entryToken key entry).map fieldText) entries old := by
    intro entries old
    rw [lastWrite, ← List.getLast?_map, List.map_filterMap]
  rw [hlast]
  induction entries generalizing s with
  | nil =>
    cases h
    rfl
  | cons entry entries ih =>
    obtain ⟨u, hu, hrest⟩ := Option.bind_eq_some_iff.1 h
    rw [ih hrest, readEntry_field hkey hu, lastWrite_cons]

theorem readEntries_isSome_iff (entries : List CStr) (s : IfaceSettings) :
    (∃ t, readEntries entries s = some t) ↔ ∀ entry ∈ entries, HasTokens entry := by
  induction entries generalizing s with
  | nil => exact iff_of_true ⟨s, rfl⟩ (fun _ h => by cases h)
  | cons entry entries ih =>
    rw [List.forall_mem_cons, readEntries]
    cases hread : readEntry entry s with
    | none =>
      apply iff_of_false
      · intro h
        obtain ⟨t, ht⟩ := h
        cases ht
      · exact fun h => (readEntry_none_iff entry s).1 hread h.1
    | some u =>
      have htokens : HasTokens entry := by
        by_contra hnot
        rw [(readEntry_none_iff entry s).2 hnot] at hread
        cases hread
      rw [Option.bind_some, ih, and_iff_right htokens]

theorem exists_field_ne (hkey : key ∈ settingsKeys) (v : CStr) :
    ∃ s : IfaceSettings, s.field key ≠ v := by
  by_cases hv : v = []
  · refine ⟨setField key ['x'] .zero, ?_⟩
    rw [field_setField_snprintf hkey, hv]
    exact List.cons_ne_nil _ _
  · refine ⟨.zero, ?_⟩
    rw [field_zero]
    exact Ne.symm hv

/-- What holds for every old text of a field tells whether there is a new one, and which. -/
theorem getD_field_iff (hkey : key ∈ settingsKeys) (o p : Option CStr) :
    (∀ s : IfaceSettings, o.getD (s.field key) = p.getD (s.field key)) ↔ o = p := by
  apply Iff.intro
  · intro h
    cases o with
    | none =>
      cases p with
      | none => rfl
      | some w =>
        obtain ⟨s, hs⟩ := exists_field_ne hkey w
        exact absurd (h s) hs
    | some v =>
      cases p with
      | none =>
        obtain ⟨s, hs⟩ := exists_field_ne hkey v
        exact absurd (h s).symm hs
      | some w => exact congrArg some (h .zero)
  · intro h s
    rw [h]

theorem fileRead_eq (text : CStr) (s : IfaceSettings) :
    ipSettingsFileRead .working (some text) s =
      (readEntries (entriesOf text) s).map fun t => (t, true) := rfl

theorem readsLastLines_iff_entries (text : CStr) :
    ReadsLastLines text ↔ EntriesAreLines text := by
  apply Iff.intro
  · intro h
    have htokens : ∀ entry ∈ entriesOf text, HasTokens entry := by
      obtain ⟨t, hread, _⟩ := h .zero
      rw [fileRead_eq] at hread
      obtain ⟨u, hu, _⟩ := Option.map_eq_some_iff.1 hread
      exact (readEntries_isSome_iff (entriesOf text) .zero).1 ⟨u, hu⟩
    refine ⟨htokens, fun key hkey => (getD_field_iff hkey _ _).1 fun s => ?_⟩
    obtain ⟨t, hread, hlast⟩ := h s
    rw [fileRead_eq] at hread
    obtain ⟨u, hu, heq⟩ := Option.map_eq_some_iff.1 hread
    cases heq
    exact (readEntries_field hkey hu).symm.trans (hlast key hkey)
  · intro h s
    obtain ⟨t, ht⟩ := (readEntries_isSome_iff (entriesOf text) s).2 h.tokens
    refine ⟨t, by rw [fileRead_eq, ht]; rfl, fun key hkey => ?_⟩
    rw [← h.agree key hkey]
    exact readEntries_field hkey ht

/-- The lines of a file; what follows the last newline is one where it is not empty. -/
def fileLines (text : CStr) : List CStr :=
  let pieces := text.splitOn '\n'
  if pieces.getLast? = some [] then pieces.dropLast else pieces

/-- After any '=' the line begins with a word, which ends at a '=', a NUL or the end. -/
structure FirstWord (line word rest : CStr) : Prop where
  line_eq : ∃ n, line = List.replicate n '=' ++ (word ++ rest)
  word_ne : word ≠ []
  plain : ∀ c ∈ word, c ≠ '=' ∧ c ≠ '\x00'
  ends : ∀ c ∈ rest.head?, c = '=' ∨ c = '\x00'

/-- The first word of the line is the key. -/
def Begins (key line : CStr) : Prop := ∃ rest, FirstWord line key rest

/-- The line has a first word, and a second one if the first is a key. -/
def Readable (line : CStr) : Prop :=
  ∃ word rest, FirstWord line word rest ∧ (word ∈ settingsKeys → ∃ v w, FirstWord rest v w)

/-- The line is the key, '=' and a value that has neither '=' nor NUL as far as a field holds it. -/
def KeyValue (key line : CStr) : Prop :=
  ∃ v, line = key ++ '=' :: v ∧ v ≠ [] ∧ ∀ c ∈ v.take (inet6Addrstrlen - 1), c ≠ '=' ∧ c ≠ '\x00'

def ShortLines (text : CStr) : Prop :=
  ∀ line ∈ fileLines text, line.length < nameValueEntrySize - 1

/-- All lines are short and can be read, and the last line that begins with a key gives it a
value. -/
structure WellFormed (text : CStr) : Prop where
  short : ShortLines text
  readable : ∀ line ∈ fileLines text, Readable line
  last : ∀ key ∈ settingsKeys, ∀ before line after, fileLines text = before ++ line :: after →
    Begins key line → (∀ l ∈ after, ¬ Begins key l) → KeyValue key line

/-- No two lines begin with the same key. -/
def KeysOnce (text : CStr) : Prop :=
  ∀ key ∈ settingsKeys, (fileLines text).Pairwise fun l m => ¬ (Begins key l ∧ Begins key m)

def isWordChar (c : Char) : Bool := c ≠ '=' && c ≠ '\x00'

theorem isWordChar_iff (c : Char) : isWordChar c = true ↔ c ≠ '=' ∧ c ≠ '\x00' := by
  rw [isWordChar, Bool.and_eq_true, decide_eq_true_eq, decide_eq_true_eq]

theorem FirstWord.scan (h : FirstWord line word rest) :
    word = (line.dropWhile (· = '=')).takeWhile isWordChar ∧
      rest = (line.dropWhile (· = '=')).dropWhile isWordChar := by
  obtain ⟨⟨n, hline⟩, hne, hplain, hends⟩ := h
  have hword : ∀ c ∈ word, isWordChar c = true := fun c hc => (isWordChar_iff c).2 (hplain c hc)
  have hskip : line.dropWhile (· = '=') = word ++ rest := by
    rw [hline, List.dropWhile_append_of_pos]
    · cases word with
      | nil => exact absurd rfl hne
      | cons c word =>
        apply List.dropWhile_cons_of_neg
        simpa using (hplain c List.mem_cons_self).1
    · intro c hc
      exact decide_eq_true (List.eq_of_mem_replicate hc)
  have hstop : ∀ c ∈ rest.head?, isWordChar c = false := by
    intro c hc
    apply eq_false_of_ne_true
    intro hc'
    obtain ⟨heq, hnul⟩ := (isWordChar_iff c).1 hc'
    rcases hends c hc with h | h
    · exact heq h
    · exact hnul h
  rw [hskip, List.takeWhile_append_of_pos hword, List.dropWhile_append_of_pos hword]
  cases rest with
  | nil => exact ⟨(List.append_nil word).symm, rfl⟩
  | cons c rest =>
    have hc : ¬ isWordChar c = true := by
      rw [hstop c rfl]
      exact Bool.false_ne_true
    rw [List.takeWhile_cons_of_neg hc, List.dropWhile_cons_of_neg hc, List.append_nil]
    exact ⟨rfl, rfl⟩

theorem FirstWord.unique (h : FirstWord line word rest) (h' : FirstWord line word' rest') :
    word = word' ∧ rest = rest' := by
  obtain ⟨hword, hrest⟩ := h.scan
  obtain ⟨hword', hrest'⟩ := h'.scan
  exact ⟨hword.trans hword'.symm, hrest.trans hrest'.symm⟩

/-- A line has a first word, or nothing but '=' before any NUL. -/
theorem firstWord_or (line : CStr) :
    (∃ word rest, FirstWord line word rest) ∨ ∀ c ∈ cstr line, c = '=' := by
  induction line with
  | nil =>
    right
    intro c hc
    cases hc
  | cons a line ih =>
    by_cases heq : a = '='
    · subst heq
      rcases ih with h | h
      · obtain ⟨word, rest, ⟨n, hline⟩, hne, hplain, hends⟩ := h
        left
        refine ⟨word, rest, ⟨n + 1, ?_⟩, hne, hplain, hends⟩
        rw [hline]
        rfl
      · right
        intro c hc
        rcases List.mem_cons.1 hc with hc | hc
        · exact hc
        · exact h c hc
    · by_cases hnul : a = '\x00'
      · subst hnul
        right
        intro c hc
        cases hc
      · have ha : isWordChar a = true := (isWordChar_iff a).2 ⟨heq, hnul⟩
        left
        refine ⟨(a :: line).takeWhile isWordChar, (a :: line).dropWhile isWordChar, ⟨0, ?_⟩, ?_,
          ?_, ?_⟩
        · exact List.takeWhile_append_dropWhile.symm
        · rw [List.takeWhile_cons_of_pos ha]
          exact List.cons_ne_nil _ _
        · intro c hc
          exact (isWordChar_iff c).1 (List.mem_takeWhile_imp hc)
        · intro c hc
          have hstop := List.head?_dropWhile_not isWordChar (a :: line)
          rw [Option.mem_def.1 hc] at hstop
          by_contra hcon
          rw [not_or] at hcon
          have hword := (isWordChar_iff c).2 hcon
          dsimp only at hstop
          rw [hword] at hstop
          cases hstop

/-- What ends an entry: a newline, or nothing where the file ends without one. -/
def Ending (nl : CStr) : Prop := nl = [] ∨ nl = ['\n']

theorem cstr_append (h : ∀ c ∈ s, c ≠ '\x00') (t : CStr) : cstr (s ++ t) = s ++ cstr t :=
  List.takeWhile_append_of_pos fun c hc => decide_eq_true (h c hc)

theorem strtok_skip {delims s : CStr} (h : ∀ c ∈ s.head?, c ∈ delims) :
    strtok delims s.tail = strtok delims s := by
  cases s with
  | nil => rfl
  | cons c s =>
    have hc : (c :: s).dropWhile (· ∈ delims) = s.dropWhile (· ∈ delims) :=
      List.dropWhile_cons_of_pos (decide_eq_true (h c rfl))
    rw [strtok, strtok, hc]
    rfl

theorem cstr_rest_head (h : ∀ c ∈ rest.head?, c = '=' ∨ c = '\x00') (hend : Ending nl) :
    ∀ c ∈ (cstr (rest ++ nl)).head?, c ∈ entryDelims := by
  intro c hc
  cases rest with
  | nil =>
    rcases hend with rfl | rfl
    · cases hc
    · obtain rfl := Option.some_inj.1 hc
      decide
  | cons a rest =>
    rcases h a rfl with rfl | rfl
    · obtain rfl := Option.some_inj.1 hc
      decide
    · cases hc

theorem FirstWord.strtok_eq (h : FirstWord line word rest) (hnl : '\n' ∉ line)
    (hend : Ending nl) :
    strtok entryDelims (cstr (line ++ nl)) = some (word, (cstr (rest ++ nl)).tail) := by
  obtain ⟨⟨n, rfl⟩, hne, hplain, hends⟩ := h
  have hrep : ∀ c ∈ List.replicate n '=', c = '=' := fun c hc => List.eq_of_mem_replicate hc
  have hword : ∀ c ∈ word, c ∉ entryDelims := by
    intro c hc hd
    rcases List.mem_cons.1 hd with rfl | hd
    · exact (hplain _ hc).1 rfl
    · obtain rfl := List.mem_singleton.1 hd
      exact hnl (List.mem_append_right _ (List.mem_append_left _ hc))
  have hcstr : cstr (List.replicate n '=' ++ (word ++ rest) ++ nl) =
      List.replicate n '=' ++ (word ++ cstr (rest ++ nl)) := by
    rw [List.append_assoc, cstr_append, List.append_assoc, cstr_append]
    · exact fun c hc => (hplain c hc).2
    · intro c hc
      rw [hrep c hc]
      decide
  have hskip : (List.replicate n '=' ++ (word ++ cstr (rest ++ nl))).dropWhile
      (· ∈ entryDelims) = word ++ cstr (rest ++ nl) := by
    rw [List.dropWhile_append_of_pos]
    · cases word with
      | nil => exact absurd rfl hne
      | cons c word =>
        apply List.dropWhile_cons_of_neg
        simpa using hword c List.mem_cons_self
    · intro c hc
      rw [hrep c hc]
      decide
  have hhead := cstr_rest_head hends hend
  have hdelims : ∀ c ∈ word, decide (c ∉ entryDelims) = true :=
    fun c hc => decide_eq_true (hword c hc)
  rw [strtok, hcstr, hskip]
  cases hw : word ++ cstr (rest ++ nl) with
  | nil => exact absurd (List.append_eq_nil_iff.1 hw).1 hne
  | cons c tail =>
    dsimp only
    rw [← hw, List.takeWhile_append_of_pos hdelims, List.dropWhile_append_of_pos hdelims]
    cases hr : cstr (rest ++ nl) with
    | nil =>
      rw [List.takeWhile_nil, List.append_nil]
      rfl
    | cons d r =>
      rw [hr] at hhead
      have hd : d ∈ entryDelims := hhead d rfl
      have htake : (d :: r).takeWhile (· ∉ entryDelims) = [] :=
        List.takeWhile_cons_of_neg (by simpa using hd)
      have hdrop : (d :: r).dropWhile (· ∉ entryDelims) = d :: r :=
        List.dropWhile_cons_of_neg (by simpa using hd)
      rw [htake, hdrop, List.append_nil]

theorem strtok_none (h : ∀ c ∈ cstr line, c = '=') (hend : Ending nl) :
    strtok entryDelims (cstr (line ++ nl)) = none := by
  apply strtok_delims
  intro c hc
  rw [cstr, List.takeWhile_append] at hc
  have hequal : ∀ c ∈ cstr line, c ∈ entryDelims := by
    intro c hc
    rw [h c hc]
    decide
  split at hc
  · next hall =>
    rcases List.mem_append.1 hc with hc | hc
    · have hline : cstr line = line :=
        (List.takeWhile_prefix _).eq_of_length hall
      apply hequal c
      rw [hline]
      exact hc
    · have hmem := (List.takeWhile_sublist _).subset hc
      rcases hend with rfl | rfl
      · cases hmem
      · obtain rfl := List.mem_singleton.1 hmem
        decide
  · exact hequal c hc

theorem strtok_ne_none_iff (hnl : '\n' ∉ line) (hend : Ending nl) :
    strtok entryDelims (cstr (line ++ nl)) ≠ none ↔ ∃ word rest, FirstWord line word rest := by
  rcases firstWord_or line with ⟨word, rest, hfirst⟩ | hnone
  · rw [hfirst.strtok_eq hnl hend]
    exact iff_of_true (Option.some_ne_none _) ⟨word, rest, hfirst⟩
  · rw [strtok_none hnone hend]
    apply iff_of_false
    · exact fun h => h rfl
    · intro h
      obtain ⟨word, rest, hfirst⟩ := h
      have hfound := hfirst.strtok_eq hnl hend
      rw [strtok_none hnone hend] at hfound
      cases hfound

theorem FirstWord.newline_free (h : FirstWord line word rest) (hnl : '\n' ∉ line) :
    '\n' ∉ rest := by
  obtain ⟨n, rfl⟩ := h.line_eq
  exact fun hm => hnl (List.mem_append_right _ (List.mem_append_right _ hm))

theorem FirstWord.second (h : FirstWord line word rest) (hend : Ending nl) :
    strtok entryDelims (cstr (rest ++ nl)).tail = strtok entryDelims (cstr (rest ++ nl)) :=
  strtok_skip (cstr_rest_head h.ends hend)

theorem hasTokens_iff (hnl : '\n' ∉ line) (hend : Ending nl) :
    HasTokens (line ++ nl) ↔ Readable line := by
  constructor
  · intro h
    obtain ⟨key, r, hkey, hvalue⟩ := h
    have hsome : strtok entryDelims (cstr (line ++ nl)) ≠ none := by
      rw [hkey]
      exact Option.some_ne_none _
    obtain ⟨word, rest, hfirst⟩ := (strtok_ne_none_iff hnl hend).1 hsome
    rw [hfirst.strtok_eq hnl hend] at hkey
    cases hkey
    rw [hfirst.second hend, strtok_ne_none_iff (hfirst.newline_free hnl) hend] at hvalue
    exact ⟨key, rest, hfirst, hvalue⟩
  · intro h
    obtain ⟨word, rest, hfirst, hvalue⟩ := h
    refine ⟨word, _, hfirst.strtok_eq hnl hend, ?_⟩
    rw [hfirst.second hend, strtok_ne_none_iff (hfirst.newline_free hnl) hend]
    exact hvalue

theorem FirstWord.entryToken_eq (h : FirstWord line word rest) (h' : FirstWord rest v w)
    (hnl : '\n' ∉ line) (hend : Ending nl) : entryToken word (line ++ nl) = some v := by
  rw [entryToken, h.strtok_eq hnl hend, Option.bind_some, if_pos rfl, h.second hend,
    h'.strtok_eq (h.newline_free hnl) hend]
  rfl

theorem entryToken_not_begins (h : ¬ Begins key line) (hnl : '\n' ∉ line) (hend : Ending nl) :
    entryToken key (line ++ nl) = none := by
  rw [entryToken]
  rcases firstWord_or line with ⟨word, rest, hfirst⟩ | hnone
  · have hne : word ≠ key := by
      rintro rfl
      exact h ⟨rest, hfirst⟩
    rw [hfirst.strtok_eq hnl hend, Option.bind_some, if_neg hne]
  · rw [strtok_none hnone hend]
    rfl

theorem lineToken_not_begins (h : ¬ Begins key line) (hnl : '\n' ∉ line) :
    entryToken key line = none := by
  rw [← List.append_nil line]
  exact entryToken_not_begins h hnl (Or.inl rfl)

theorem firstWord_of_value (hkey : key ∈ settingsKeys) (v : CStr) :
    FirstWord (key ++ '=' :: v) key ('=' :: v) where
  line_eq := ⟨0, rfl⟩
  word_ne := (settingsKeys_plain hkey).1
  plain := by
    intro c hc
    obtain ⟨hdelim, hnul⟩ := (settingsKeys_plain hkey).2 c hc
    refine ⟨?_, hnul⟩
    rintro rfl
    exact hdelim (by decide)
  ends := by
    intro c hc
    exact Or.inl (Option.some_inj.1 hc).symm

theorem lineValue_eq_some_iff (key line v : CStr) :
    lineValue key line = some v ↔ line = key ++ '=' :: v := by
  rw [lineValue]
  constructor
  · intro h
    split at h
    · next hpre =>
      obtain ⟨rest, rfl⟩ := hpre
      rw [List.append_assoc, List.drop_length_add_append] at h
      obtain rfl := Option.some_inj.1 h
      exact List.append_assoc key ['='] rest
    · cases h
  · rintro rfl
    rw [if_pos ⟨v, List.append_assoc key ['='] v⟩, List.drop_length_add_append]
    rfl

theorem lineValue_not_begins (hkey : key ∈ settingsKeys) (h : ¬ Begins key line) :
    lineValue key line = none := by
  cases hv : lineValue key line with
  | none => rfl
  | some v =>
    rw [lineValue_eq_some_iff] at hv
    subst hv
    exact absurd ⟨_, firstWord_of_value hkey v⟩ h

/-- The second word is what a field takes of the value exactly where the value has neither '='
nor NUL so far. -/
theorem keyValue_iff (hkey : key ∈ settingsKeys) (h : FirstWord line key rest)
    (h' : FirstWord rest v w) :
    KeyValue key line ↔ ∃ u, lineValue key line = some u ∧ fieldText v = fieldText u := by
  have hscan : ∀ u, line = key ++ '=' :: u →
      v = (u.dropWhile (· = '=')).takeWhile isWordChar := by
    rintro u rfl
    obtain ⟨_, rfl⟩ := h.unique (firstWord_of_value hkey u)
    exact h'.scan.1
  constructor
  · intro hvalue
    obtain ⟨u, hline, hne, hplain⟩ := hvalue
    refine ⟨u, (lineValue_eq_some_iff key line u).2 hline, ?_⟩
    have hskip : u.dropWhile (· = '=') = u := by
      cases u with
      | nil => rfl
      | cons c u =>
        apply List.dropWhile_cons_of_neg
        simpa using (hplain c List.mem_cons_self).1
    have hword : (u.take (inet6Addrstrlen - 1)).takeWhile isWordChar =
        u.take (inet6Addrstrlen - 1) :=
      List.takeWhile_eq_self_iff.2 fun c hc => (isWordChar_iff c).2 (hplain c hc)
    have hv := hscan u hline
    rw [hskip] at hv
    calc fieldText v
        = (u.takeWhile isWordChar).take (inet6Addrstrlen - 1) := by rw [← hv]; rfl
      _ = (u.take (inet6Addrstrlen - 1)).takeWhile isWordChar := List.take_takeWhile
      _ = fieldText u := hword
  · intro hvalue
    obtain ⟨u, hline, htext⟩ := hvalue
    rw [lineValue_eq_some_iff] at hline
    have hv := hscan u hline
    have htake : v.take (inet6Addrstrlen - 1) = u.take (inet6Addrstrlen - 1) := htext
    refine ⟨u, hline, ?_, ?_⟩
    · rintro rfl
      exact h'.word_ne hv
    · intro c hc
      rw [← htake] at hc
      exact h'.plain c (List.mem_of_mem_take hc)

/-- The line that an entry is read from. -/
def EntryOf (line entry : CStr) : Prop := '\n' ∉ line ∧ ∃ nl, Ending nl ∧ entry = line ++ nl

theorem fileLines_piece (h : '\n' ∉ xs) : fileLines xs = if xs = [] then [] else [xs] := by
  rw [fileLines, List.splitOn_eq_singleton h]
  by_cases hxs : xs = []
  · subst hxs
    rfl
  · have hne : ¬ [xs].getLast? = some [] := by
      intro heq
      exact hxs (Option.some_inj.1 heq)
    rw [if_neg hxs]
    exact if_neg hne

theorem fileLines_cons (h : '\n' ∉ line) (rest : CStr) :
    fileLines (line ++ '\n' :: rest) = line :: fileLines rest := by
  have hsplit : (line ++ '\n' :: rest).splitOn '\n' = line :: rest.splitOn '\n' := by
    rw [List.splitOn_append_cons_self, List.splitOn_eq_singleton h]
    rfl
  rw [fileLines, fileLines, hsplit]
  cases hpieces : rest.splitOn '\n' with
  | nil => exact absurd hpieces (List.splitOn_ne_nil '\n' rest)
  | cons piece pieces =>
    rw [List.getLast?_cons_cons, List.dropLast_cons_cons]
    split
    · rfl
    · rfl

theorem newline_free_of_all {xs : CStr} (h : ∀ x ∈ xs, (x == '\n') = false) : '\n' ∉ xs := by
  intro hm
  have hne := h _ hm
  rw [beq_self_eq_true] at hne
  cases hne

theorem entriesOf_lines (text : CStr) (hshort : ShortLines text) :
    List.Forall₂ EntryOf (fileLines text) (entriesOf text) := by
  have hloop : ∀ fuel, text.length ≤ fuel → List.Forall₂ EntryOf (fileLines text)
      (fgetsLoop nameValueEntrySize fuel text) := by
    induction text using splitOnP_induction (· == '\n') with
    | piece xs hxs =>
      intro fuel hfuel
      have hnl := newline_free_of_all hxs
      rw [ShortLines, fileLines_piece hnl] at hshort
      rw [fileLines_piece hnl]
      by_cases hne : xs = []
      · rw [if_pos hne, hne, fgetsLoop_nil]
        exact List.Forall₂.nil
      · rw [if_neg hne] at hshort ⊢
        obtain ⟨fuel, rfl⟩ := Nat.exists_eq_succ_of_ne_zero
          (Nat.ne_of_gt (Nat.lt_of_lt_of_le (List.length_pos_iff.2 hne) hfuel))
        have hlen := hshort xs List.mem_cons_self
        rw [fgetsLoop_unterminated hne hnl (Nat.le_of_lt hlen)]
        exact List.Forall₂.cons ⟨hnl, [], Or.inl rfl, (List.append_nil xs).symm⟩ List.Forall₂.nil
    | step xs c rest hxs hc ih =>
      intro fuel hfuel
      have hnl := newline_free_of_all hxs
      obtain rfl := eq_of_beq hc
      rw [ShortLines, fileLines_cons hnl] at hshort
      rw [List.length_append, List.length_cons] at hfuel
      obtain ⟨fuel, rfl⟩ := Nat.exists_eq_succ_of_ne_zero (n := fuel) (by omega)
      rw [fileLines_cons hnl, fgetsLoop_append hnl (hshort xs List.mem_cons_self)]
      apply List.Forall₂.cons ⟨hnl, ['\n'], Or.inr rfl, rfl⟩
      apply ih (fun line hline => hshort line (List.mem_cons_of_mem xs hline))
      omega
  exact hloop text.length (Nat.le_refl _)

theorem lastLine_fileLines (hkey : key ∈ settingsKeys) (text : CStr) :
    lastLine key text = ((fileLines text).filterMap (lineValue key)).getLast? := by
  rw [lastLine, fileLines]
  split
  · next hlast =>
    have hnil : lineValue key [] = none := by
      apply lineValue_not_begins hkey
      intro h
      obtain ⟨rest, ⟨n, hline⟩, hne, _, _⟩ := h
      have hword := List.append_eq_nil_iff.1 (List.append_eq_nil_iff.1 hline.symm).2
      exact hne hword.1
    obtain ⟨pieces, hpieces⟩ := List.getLast?_eq_some_iff.1 hlast
    rw [hpieces, List.dropLast_concat, List.filterMap_append, List.filterMap_cons, hnil,
      List.filterMap_nil, List.append_nil]
  · rfl

theorem entries_readable_iff (h : List.Forall₂ EntryOf lines entries) :
    (∀ entry ∈ entries, HasTokens entry) ↔ ∀ line ∈ lines, Readable line := by
  induction h with
  | nil => exact iff_of_true (fun _ h => by cases h) (fun _ h => by cases h)
  | cons hentry _ ih =>
    obtain ⟨hnl, nl, hend, rfl⟩ := hentry
    rw [List.forall_mem_cons, List.forall_mem_cons, ih, hasTokens_iff hnl hend]

theorem entryToken_ending (h : Readable line) (hnl : '\n' ∉ line) (hend : Ending nl)
    (hkey : key ∈ settingsKeys) : entryToken key (line ++ nl) = entryToken key line := by
  by_cases hbegins : Begins key line
  · obtain ⟨rest, hfirst⟩ := hbegins
    obtain ⟨word, rest', hfirst', hsecond⟩ := h
    obtain ⟨rfl, rfl⟩ := hfirst.unique hfirst'
    obtain ⟨v, w, hv⟩ := hsecond hkey
    have hread := hfirst.entryToken_eq hv hnl (Or.inl rfl)
    rw [List.append_nil] at hread
    rw [hfirst.entryToken_eq hv hnl hend, hread]
  · rw [entryToken_not_begins hbegins hnl hend, lineToken_not_begins hbegins hnl]

theorem entries_tokens (h : List.Forall₂ EntryOf lines entries) (hkey : key ∈ settingsKeys)
    (hread : ∀ line ∈ lines, Readable line) :
    entries.filterMap (entryToken key) = lines.filterMap (entryToken key) := by
  induction h with
  | nil => rfl
  | cons hentry _ ih =>
    obtain ⟨hnl, nl, hend, rfl⟩ := hentry
    rw [List.forall_mem_cons] at hread
    rw [List.filterMap_cons, List.filterMap_cons, entryToken_ending hread.1 hnl hend hkey,
      ih hread.2]

theorem none_or_last (P : α → Prop) (l : List α) :
    (∀ x ∈ l, ¬ P x) ∨
      ∃ before x after, l = before ++ x :: after ∧ P x ∧ ∀ y ∈ after, ¬ P y := by
  induction l with
  | nil => exact Or.inl fun _ h => by cases h
  | cons a l ih =>
    rcases ih with hnone | ⟨before, x, after, rfl, hx, hafter⟩
    · by_cases ha : P a
      · exact Or.inr ⟨[], a, l, rfl, ha, hnone⟩
      · exact Or.inl (List.forall_mem_cons.2 ⟨ha, hnone⟩)
    · exact Or.inr ⟨a :: before, x, after, rfl, hx, hafter⟩

theorem filterMap_last {f : α → Option β} (hafter : ∀ y ∈ after, f y = none) (before : List α)
    (x : α) :
    ((before ++ x :: after).filterMap f).getLast? =
      (f x).or ((before.filterMap f).getLast?) := by
  have hnil : after.filterMap f = [] := List.filterMap_eq_nil_iff.2 hafter
  rw [List.filterMap_append, List.filterMap_cons, hnil]
  cases f x with
  | none => rw [List.append_nil, Option.none_or]
  | some y => rw [List.getLast?_append, List.getLast?_singleton, Option.some_or]

theorem Readable.token (h : Readable line) (hnl : '\n' ∉ line) (hkey : key ∈ settingsKeys)
    (hbegins : Begins key line) :
    ∃ v, entryToken key line = some v ∧
      (KeyValue key line ↔ ∃ u, lineValue key line = some u ∧ fieldText v = fieldText u) := by
  obtain ⟨rest, hfirst⟩ := hbegins
  obtain ⟨word, rest', hfirst', hsecond⟩ := h
  obtain ⟨rfl, rfl⟩ := hfirst.unique hfirst'
  obtain ⟨v, w, hv⟩ := hsecond hkey
  have hread := hfirst.entryToken_eq hv hnl (Or.inl rfl)
  rw [List.append_nil] at hread
  exact ⟨v, hread, keyValue_iff hkey hfirst hv⟩

theorem entryLines_newline_free (h : List.Forall₂ EntryOf lines entries) :
    ∀ line ∈ lines, '\n' ∉ line := by
  induction h with
  | nil => exact fun _ h => by cases h
  | cons hentry _ ih => exact List.forall_mem_cons.2 ⟨hentry.1, ih⟩

theorem WellFormed.entriesAreLines (h : WellFormed text) : EntriesAreLines text := by
  have hentries := entriesOf_lines text h.short
  have hfree := entryLines_newline_free hentries
  constructor
  · exact (entries_readable_iff hentries).2 h.readable
  · intro key hkey
    rw [lastEntry, entries_tokens hentries hkey h.readable, lastLine_fileLines hkey]
    rcases none_or_last (Begins key) (fileLines text) with hnone | hlast
    · have htokens : (fileLines text).filterMap (entryToken key) = [] :=
        List.filterMap_eq_nil_iff.2 fun line hline =>
          lineToken_not_begins (hnone line hline) (hfree line hline)
      have hvalues : (fileLines text).filterMap (lineValue key) = [] :=
        List.filterMap_eq_nil_iff.2 fun line hline =>
          lineValue_not_begins hkey (hnone line hline)
      rw [htokens, hvalues]
    · obtain ⟨before, line, after, hlines, hbegins, hafter⟩ := hlast
      have hvalue := h.last key hkey before line after hlines hbegins hafter
      have hreadable := h.readable
      rw [hlines] at hreadable hfree ⊢
      have hmem : line ∈ before ++ line :: after :=
        List.mem_append_right _ List.mem_cons_self
      obtain ⟨v, hv, hiff⟩ := (hreadable line hmem).token (hfree line hmem) hkey hbegins
      obtain ⟨u, hu, htext⟩ := hiff.1 hvalue
      have htokens : ∀ l ∈ after, entryToken key l = none := fun l hl =>
        lineToken_not_begins (hafter l hl)
          (hfree l (List.mem_append_right _ (List.mem_cons_of_mem line hl)))
      rw [filterMap_last htokens, filterMap_last fun l hl =>
        lineValue_not_begins hkey (hafter l hl), hv, hu, Option.some_or, Option.some_or,
        Option.map_some, Option.map_some, htext]

/-- Where no two lines begin with the same key, a line that is misread shows. -/
theorem EntriesAreLines.wellFormed (h : EntriesAreLines text) (hshort : ShortLines text)
    (honce : KeysOnce text) : WellFormed text := by
  have hentries := entriesOf_lines text hshort
  have hfree := entryLines_newline_free hentries
  have hreadable := (entries_readable_iff hentries).1 h.tokens
  refine ⟨hshort, hreadable, fun key hkey before line after hlines hbegins hafter => ?_⟩
  have hagree := h.agree key hkey
  have honce := honce key hkey
  rw [lastEntry, entries_tokens hentries hkey hreadable, lastLine_fileLines hkey] at hagree
  rw [hlines] at hagree honce hreadable hfree
  have hmem : line ∈ before ++ line :: after :=
    List.mem_append_right _ List.mem_cons_self
  obtain ⟨v, hv, hiff⟩ := (hreadable line hmem).token (hfree line hmem) hkey hbegins
  have htokens : ∀ l ∈ after, entryToken key l = none := fun l hl =>
    lineToken_not_begins (hafter l hl)
      (hfree l (List.mem_append_right _ (List.mem_cons_of_mem line hl)))
  have hbefore : before.filterMap (lineValue key) = [] := by
    apply List.filterMap_eq_nil_iff.2
    intro l hl
    apply lineValue_not_begins hkey
    intro hl'
    exact (List.pairwise_append.1 honce).2.2 l hl line List.mem_cons_self ⟨hl', hbegins⟩
  rw [filterMap_last htokens, filterMap_last fun l hl =>
    lineValue_not_begins hkey (hafter l hl), hv, hbefore, Option.some_or, Option.map_some,
    List.getLast?_nil, Option.or_none] at hagree
  obtain ⟨u, hu, htext⟩ := Option.map_eq_some_iff.1 hagree.symm
  exact hiff.2 ⟨u, hu, htext.symm⟩

/-- A well-formed file is read line by line. Of the files with short lines and no two lines for
one key, no other one is. -/
theorem ipSettingsFileRead_lastLines (text : CStr) :
    (WellFormed text → ReadsLastLines text) ∧
      (ShortLines text → KeysOnce text → ReadsLastLines text → WellFormed text) := by
  constructor
  · intro h
    exact (readsLastLines_iff_entries text).2 h.entriesAreLines
  · intro hshort honce h
    exact ((readsLastLines_iff_entries text).1 h).wellFormed hshort honce

/-- A blank line makes the reader use a null pointer. -/
theorem ipSettingsFileRead_blankLine : ¬ ∀ text, ReadsLastLines text := by
  intro h
  obtain ⟨t, hread, _⟩ := h "\n".toList .zero
  have hnull : ipSettingsFileRead .working (some "\n".toList) .zero = none := by decide
  rw [hnull] at hread
  cases hread

end NetSrvMgr.Ip
