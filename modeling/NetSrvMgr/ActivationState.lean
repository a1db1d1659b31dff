import NetSrvMgr.CString

namespace NetSrvMgr.Activation
open CString
set_option autoImplicit true

structure ActivationState where
  deviceID : CharArray 512
  partnerID : CharArray 128
  bDeviceActivated : Bool
  deriving DecidableEq

/-- What an attempt to get the answer meets: the script and what it writes, or, without a script,
what the service answers. -/
inductive Attempt where
  | script (output : CStr)
  | url (curlData : CStr)

/-- `netSrvMgrUtiles::getCommandOutput` with a buffer of 512 characters. -/
def getCommandOutput (output : CStr) : Option CStr :=
  if output.isEmpty then none else some (fgetsLine 511 output).1

/-- How the loop that fetches the answer ends. -/
inductive Fetched where
  | failed
  | read (deviceID : CharArray 512)

/-- The loop that fetches the answer, with so many attempts left behind the next one. -/
def fetchLoop (attempts : Nat → Attempt) : Nat → CharArray 512 → Option Fetched
  | left, deviceID =>
    if deviceID.str.isEmpty then
      match attempts (3 - left) with
      | .script output =>
        match getCommandOutput output with
        | none => some .failed
        | some scriptOutput => do
          let deviceID ← gStpcpy scriptOutput
          match left with
          | 0 => some (.read deviceID)
          | left + 1 => fetchLoop attempts left deviceID
      | .url curlData => do
        let deviceID ← gStpcpy curlData
        match left with
        | 0 => some (.read deviceID)
        | left + 1 => fetchLoop attempts left deviceID
    else some (.read deviceID)

def separators : CStr := "\x7b\x7d:,\"".toList

/-- A loop over the tokens: the third token after one with the word in it is stored. -/
def storeLoop (word : CStr) (store : σ → CStr → Option σ) : List CStr → σ → Option σ
  | [], s => some s
  | token :: rest, s =>
    match gStrrstr (gStrstrip token) word, rest[2]? with
    | true, some value => do
      let s ← store s (gStrstrip value)
      storeLoop word store rest s
    | _, _ => storeLoop word store rest s

def deviceIdWord : CStr := "deviceId".toList
def partnerIdWord : CStr := "partnerId".toList

def storeDeviceID (s : ActivationState) (value : CStr) : Option ActivationState := do
  let deviceID ← gStpcpy value
  some { s with
    deviceID := deviceID
    bDeviceActivated := if deviceID.str.isEmpty then s.bDeviceActivated else true }

def storePartnerID (s : ActivationState) (value : CStr) : Option ActivationState := do
  let partnerID ← gStpcpy value
  some { s with partnerID := partnerID }

/-- `getDeviceActivationState`; `none` when an array overflows. -/
def getDeviceActivationState (attempts : Nat → Attempt) (s : ActivationState) :
    Option (Bool × ActivationState) := do
  match ← fetchLoop attempts 3 s.deviceID with
  | .failed => some (s.bDeviceActivated, s)
  | .read deviceID =>
    let tokens := gStrsplitSet deviceID.str separators
    let s ← storeLoop deviceIdWord storeDeviceID tokens { s with deviceID := deviceID }
    let s ← storeLoop partnerIdWord storePartnerID tokens s
    some (s.bDeviceActivated, s)

/-- Blanks between the tokens of a JSON text. -/
structure Blank where
  text : CStr
  blank : ∀ c ∈ text, isSpace c = true

/-- A JSON string: the text between its quotes and the string that it denotes, which differ only
where the text has escapes. -/
structure JString where
  text : CStr
  value : CStr
  text_free : ∀ c ∈ text, c ∉ separators
  value_free : ∀ c ∈ value, c ∉ separators
  plain : '\\' ∉ text → value = text

structure Member where
  before : Blank
  name : JString
  afterName : Blank
  beforeValue : Blank
  value : JString
  after : Blank

def Member.text (m : Member) : CStr :=
  m.before.text ++ '"' :: (m.name.text ++ '"' :: (m.afterName.text ++ ':' ::
    (m.beforeValue.text ++ '"' :: (m.value.text ++ '"' :: m.after.text))))

/-- A flat object of string members; the inner blanks are those of an object without members. -/
structure Answer where
  lead : Blank
  members : List Member
  inner : Blank
  trail : Blank

def membersText : List Member → CStr
  | [] => []
  | [m] => m.text
  | m :: members => m.text ++ ',' :: membersText members

namespace Answer

def bodyText (a : Answer) : CStr :=
  if a.members.isEmpty then a.inner.text else membersText a.members

def text (a : Answer) : CStr :=
  a.lead.text ++ '\x7b' :: (a.bodyText ++ '\x7d' :: a.trail.text)

/-- The trimmed value of the member with the name, the last one if there are several. -/
def wanted (a : Answer) (name : CStr) : CStr :=
  match (a.members.filter fun m => m.name.value = name).getLast? with
  | none => []
  | some m => gStrstrip m.value.value

/-- The names and values, in the order of the text. -/
def words (a : Answer) : List CStr :=
  a.members.flatMap fun m => [m.name.text, m.value.text]

end Answer

/-- What follows the words that have the given one in them. -/
def followers (word : CStr) : List CStr → List CStr
  | [] => []
  | [_] => []
  | w :: next :: rest =>
    (if gStrrstr (gStrstrip w) word then [gStrstrip next] else []) ++ followers word (next :: rest)

/-- The texts three tokens behind those that have the word in them. -/
def tokenFollowers (word : CStr) : List CStr → List CStr
  | [] => []
  | token :: rest =>
    (if gStrrstr (gStrstrip token) word then (rest[2]?.map gStrstrip).toList else []) ++
      tokenFollowers word rest

inductive Channel where
  | script | url

namespace Channel

def attempt : Channel → CStr → Attempt
  | script, answer => .script answer
  | url, answer => .url answer

/-- As much of the answer as is read: the first line of what a script writes, or its first 511
characters. -/
def received : Channel → CStr → CStr
  | script, answer => (fgetsLine 511 answer).1
  | url, answer => answer

end Channel

/-- What the stores for a word take: of an answer that is read whole, what follows the names and
values with the word in them. -/
def stored (word : CStr) (channel : Channel) (a : Answer) : List CStr :=
  if channel.received a.text = a.text then followers word a.words
  else tokenFollowers word (gStrsplitSet (channel.received a.text) separators)

def initialState (bDeviceActivated : Bool) : ActivationState where
  deviceID := ⟨[], by decide⟩
  partnerID := ⟨[], by decide⟩
  bDeviceActivated := bDeviceActivated

/-- The two members are read, and the device counts as activated if it has an identity. -/
def ReadsAnswer (a : Answer) (channel : Channel) (activated : Bool) : Prop :=
  ∀ attempts, attempts 0 = channel.attempt a.text →
    ∃ returned s, getDeviceActivationState attempts (initialState activated) = some (returned, s) ∧
      s.deviceID.str = a.wanted deviceIdWord ∧ s.partnerID.str = a.wanted partnerIdWord ∧
        (returned = true ↔ a.wanted deviceIdWord ≠ [] ∨ activated = true)

/-- The answer fits, the last text stored for each word is that of its member, and a text that is
not empty is stored for the identity only if that is not. -/
structure ReadsRight (a : Answer) (channel : Channel) (activated : Bool) : Prop where
  arrives : (channel.received a.text).length < 512
  deviceID : (stored deviceIdWord channel a).getLast? = some (a.wanted deviceIdWord)
  activates : (∃ value ∈ stored deviceIdWord channel a, value ≠ []) →
    a.wanted deviceIdWord ≠ [] ∨ activated = true
  partnerID : (stored partnerIdWord channel a).getLastD [] = a.wanted partnerIdWord
  partnerFits : ∀ value ∈ stored partnerIdWord channel a, value.length < 128

theorem storeLoop_eq (word : CStr) (store : σ → CStr → Option σ) (tokens : List CStr) (s : σ) :
    storeLoop word store tokens s = (tokenFollowers word tokens).foldlM store s := by
  induction tokens generalizing s with
  | nil => rfl
  | cons token rest ih =>
    rw [storeLoop, tokenFollowers]
    cases gStrrstr (gStrstrip token) word with
    | false => exact ih s
    | true =>
      cases rest[2]? with
      | none => exact ih s
      | some value =>
        show (store s (gStrstrip value)).bind (storeLoop word store rest) =
          (store s (gStrstrip value)).bind fun s =>
            (tokenFollowers word rest).foldlM store s
        rw [funext ih]

theorem foldlM_store {store : σ → CStr → Option σ} {r : List CStr → σ → σ → Prop}
    (hnil : ∀ s, r [] s s)
    (hcons : ∀ s value values, value.length < size →
      ∃ s', store s value = some s' ∧ ∀ t, r values s' t → r (value :: values) s t)
    (values : List CStr) (hfits : ∀ value ∈ values, value.length < size) (s : σ) :
    ∃ t, values.foldlM store s = some t ∧ r values s t := by
  induction values generalizing s with
  | nil => exact ⟨s, rfl, hnil s⟩
  | cons value values ih =>
    obtain ⟨s', hstore, hr⟩ := hcons s value values (hfits value List.mem_cons_self)
    obtain ⟨t, hrest, ht⟩ := ih (fun v hv => hfits v (List.mem_cons_of_mem value hv)) s'
    refine ⟨t, ?_, hr t ht⟩
    rw [List.foldlM_cons, hstore]
    exact hrest

theorem foldlM_overflow {store : σ → CStr → Option σ} {values : List CStr}
    (hstore : ∀ s, store s value = none) (hmem : value ∈ values) (s : σ) :
    values.foldlM store s = none := by
  induction values generalizing s with
  | nil => cases hmem
  | cons first values ih =>
    rw [List.foldlM_cons]
    rcases List.mem_cons.1 hmem with rfl | hmem
    · rw [hstore]
      rfl
    · cases store s first with
      | none => rfl
      | some s' => exact ih hmem s'

theorem storeDeviceIDs (values : List CStr) (hfits : ∀ value ∈ values, value.length < 512)
    (s : ActivationState) :
    ∃ t, values.foldlM storeDeviceID s = some t ∧
      t.deviceID.str = values.getLastD s.deviceID.str ∧ t.partnerID = s.partnerID ∧
        (t.bDeviceActivated = true ↔
          (∃ value ∈ values, value ≠ []) ∨ s.bDeviceActivated = true) := by
  apply foldlM_store (r := fun values s t => t.deviceID.str = values.getLastD s.deviceID.str ∧
    t.partnerID = s.partnerID ∧ (t.bDeviceActivated = true ↔
      (∃ value ∈ values, value ≠ []) ∨ s.bDeviceActivated = true)) _ _ values hfits s
  · intro s
    simp
  · intro s value values hvalue
    refine ⟨_, by rw [storeDeviceID, gStpcpy_of_fits hvalue]; rfl, ?_⟩
    intro t h
    obtain ⟨hdevice, hpartner, hactivated⟩ := h
    refine ⟨?_, hpartner, ?_⟩
    · rw [List.getLastD_cons]
      exact hdevice
    · rw [hactivated]
      cases value <;> simp

theorem storePartnerIDs (values : List CStr) (hfits : ∀ value ∈ values, value.length < 128)
    (s : ActivationState) :
    ∃ t, values.foldlM storePartnerID s = some t ∧
      t.partnerID.str = values.getLastD s.partnerID.str ∧ t.deviceID = s.deviceID ∧
        t.bDeviceActivated = s.bDeviceActivated := by
  apply foldlM_store (r := fun values s t => t.partnerID.str = values.getLastD s.partnerID.str ∧
    t.deviceID = s.deviceID ∧ t.bDeviceActivated = s.bDeviceActivated) _ _ values hfits s
  · intro s
    exact ⟨rfl, rfl, rfl⟩
  · intro s value values hvalue
    refine ⟨_, by rw [storePartnerID, gStpcpy_of_fits hvalue]; rfl, ?_⟩
    intro t h
    obtain ⟨hpartner, hrest⟩ := h
    refine ⟨?_, hrest⟩
    rw [List.getLastD_cons]
    exact hpartner

theorem mem_tokenFollowers {word : CStr} {tokens : List CStr}
    (h : value ∈ tokenFollowers word tokens) : ∃ token ∈ tokens, value = gStrstrip token := by
  induction tokens with
  | nil => cases h
  | cons token rest ih =>
    rw [tokenFollowers, List.mem_append] at h
    rcases h with h | h
    · split at h
      · obtain ⟨next, hnext, rfl⟩ := Option.map_eq_some_iff.1 (Option.mem_toList.1 h)
        exact ⟨next, List.mem_cons_of_mem token (List.mem_of_getElem? hnext), rfl⟩
      · cases h
    · obtain ⟨next, hnext, rfl⟩ := ih h
      exact ⟨next, List.mem_cons_of_mem token hnext, rfl⟩

theorem tokenFollowers_length {word text : CStr}
    (h : value ∈ tokenFollowers word (gStrsplitSet text separators)) :
    value.length ≤ text.length := by
  obtain ⟨token, htoken, rfl⟩ := mem_tokenFollowers h
  rw [gStrsplitSet] at htoken
  split at htoken
  · cases htoken
  · exact Nat.le_trans (gStrstrip_sublist token).length_le (mem_splitOnP htoken).1.length_le

namespace Channel

theorem received_ne_nil (channel : Channel) (ha : answer ≠ []) :
    channel.received answer ≠ [] := by
  cases channel with
  | script => exact fgetsLine_ne_nil ha
  | url => exact ha

theorem received_prefix (channel : Channel) (answer : CStr) :
    channel.received answer <+: answer := by
  cases channel with
  | script => exact fgetsLine_prefix 511 answer
  | url => exact List.prefix_refl answer

end Channel

theorem fetchLoop_first (channel : Channel) (hfirst : attempts 0 = channel.attempt answer)
    (ha : answer ≠ []) (h : ([] : CStr).length < 512) :
    fetchLoop attempts 3 ⟨[], h⟩ = (gStpcpy (channel.received answer)).map Fetched.read := by
  have hnext : ∀ deviceID : CharArray 512, deviceID.str ≠ [] →
      fetchLoop attempts 2 deviceID = some (.read deviceID) := by
    intro deviceID hd
    rw [fetchLoop, if_neg (fun he => hd (List.isEmpty_iff.1 he))]
  have hread : (gStpcpy (channel.received answer)).bind (fetchLoop attempts 2) =
      (gStpcpy (channel.received answer)).map Fetched.read := by
    by_cases hfits : (channel.received answer).length < 512
    · rw [gStpcpy_of_fits hfits, Option.bind_some, Option.map_some]
      exact hnext _ (channel.received_ne_nil ha)
    · rw [gStpcpy_overflow hfits]
      rfl
  have hzero : attempts (3 - 3) = channel.attempt answer := hfirst
  rw [fetchLoop]
  dsimp only
  rw [if_pos List.isEmpty_nil, hzero]
  cases channel with
  | script =>
    have hout : getCommandOutput answer = some (fgetsLine 511 answer).1 :=
      if_neg (fun he => ha (List.isEmpty_iff.1 he))
    dsimp only [Channel.attempt]
    rw [hout]
    exact hread
  | url => exact hread

theorem splitOnP_separators {piece : CStr} (hfree : ∀ c ∈ piece, c ∉ separators)
    (hc : c ∈ separators) (rest : CStr) :
    (piece ++ c :: rest).splitOnP (· ∈ separators) =
      piece :: rest.splitOnP (· ∈ separators) :=
  List.splitOnP_append_cons_of_forall_mem (fun x hx => decide_eq_false (hfree x hx)) c
    (decide_eq_true hc) rest

theorem isSpace_not_separator (hc : c ∈ separators) : isSpace c = false := by
  have hall : separators.all (fun c => !isSpace c) = true := by decide
  exact (Bool.not_eq_true' (isSpace c)).mp (List.all_eq_true.1 hall c hc)

namespace Blank

theorem free (b : Blank) : ∀ c ∈ b.text, c ∉ separators := by
  intro c hc hsep
  have hspace := b.blank c hc
  rw [isSpace_not_separator hsep] at hspace
  cases hspace

theorem stripped (b : Blank) : gStrstrip b.text = [] := by
  rw [gStrstrip, gStrchug, List.dropWhile_eq_nil_iff.2 b.blank]
  rfl

theorem not_found (b : Blank) {word : CStr} (hword : word ≠ []) :
    gStrrstr (gStrstrip b.text) word = false := by
  rw [b.stripped, gStrrstr]
  apply decide_eq_false
  intro h
  exact hword (List.infix_nil.1 h)

end Blank

def Member.pieces (m : Member) : List CStr :=
  [m.before.text, m.name.text, m.afterName.text, m.beforeValue.text, m.value.text, m.after.text]

theorem Member.splitOnP (m : Member) (hc : c ∈ separators) (rest : CStr) :
    (m.text ++ c :: rest).splitOnP (· ∈ separators) =
      m.pieces ++ rest.splitOnP (· ∈ separators) := by
  have hquote : '"' ∈ separators := by decide
  have hcolon : ':' ∈ separators := by decide
  simp only [Member.text, List.append_assoc, List.cons_append]
  rw [splitOnP_separators m.before.free hquote, splitOnP_separators m.name.text_free hquote,
    splitOnP_separators m.afterName.free hcolon, splitOnP_separators m.beforeValue.free hquote,
    splitOnP_separators m.value.text_free hquote, splitOnP_separators m.after.free hc]
  rfl

theorem splitOnP_membersText (members : List Member) (hne : members ≠ []) (trail : Blank) :
    (membersText members ++ '\x7d' :: trail.text).splitOnP (· ∈ separators) =
      members.flatMap Member.pieces ++ [trail.text] := by
  have hclose : '\x7d' ∈ separators := by decide
  have hcomma : ',' ∈ separators := by decide
  have htrail : trail.text.splitOnP (· ∈ separators) = [trail.text] :=
    List.splitOnP_eq_singleton fun c hc => decide_eq_false (trail.free c hc)
  induction members with
  | nil => exact absurd rfl hne
  | cons m members ih =>
    cases members with
    | nil =>
      rw [membersText, m.splitOnP hclose, htrail, List.flatMap_cons, List.flatMap_nil,
        List.append_nil]
    | cons next members =>
      have htext : membersText (m :: next :: members) =
          m.text ++ ',' :: membersText (next :: members) := rfl
      rw [List.flatMap_cons, List.append_assoc, ← ih (List.cons_ne_nil next members), htext,
        List.append_assoc, List.cons_append, m.splitOnP hcomma]

theorem tokenFollowers_blank {word : CStr} (hword : word ≠ []) (b : Blank) (tokens : List CStr) :
    tokenFollowers word (b.text :: tokens) = tokenFollowers word tokens := by
  rw [tokenFollowers, b.not_found hword]
  rfl

/-- The blanks between the words are tokens of their own, two behind each word. -/
theorem tokenFollowers_pieces {word : CStr} (hword : word ≠ []) (members : List Member)
    (trail : Blank) :
    tokenFollowers word (members.flatMap Member.pieces ++ [trail.text]) =
      followers word (members.flatMap fun m => [m.name.text, m.value.text]) := by
  have hskip := tokenFollowers_blank hword
  induction members with
  | nil => exact hskip trail []
  | cons m members ih =>
    have hmember : ∀ tokens, tokenFollowers word (m.pieces ++ tokens) =
        (if gStrrstr (gStrstrip m.name.text) word then [gStrstrip m.value.text] else []) ++
          ((if gStrrstr (gStrstrip m.value.text) word then
              (tokens[1]?.map gStrstrip).toList else []) ++ tokenFollowers word tokens) := by
      intro tokens
      simp only [Member.pieces, List.cons_append, List.nil_append]
      rw [hskip, tokenFollowers, hskip, hskip, tokenFollowers, hskip]
      rfl
    rw [List.flatMap_cons, List.append_assoc, hmember, ih]
    cases members with
    | nil =>
      simp [followers]
    | cons next members => rfl

theorem Answer.text_ne_nil (a : Answer) : a.text ≠ [] :=
  List.append_ne_nil_of_right_ne_nil a.lead.text (List.cons_ne_nil _ _)

theorem Answer.followers_eq (a : Answer) {word : CStr} (hword : word ≠ []) :
    tokenFollowers word (gStrsplitSet a.text separators) = followers word a.words := by
  have hopen : '\x7b' ∈ separators := by decide
  have hclose : '\x7d' ∈ separators := by decide
  have hskip := tokenFollowers_blank hword
  rw [gStrsplitSet, if_neg (fun he => a.text_ne_nil (List.isEmpty_iff.1 he)), Answer.text,
    splitOnP_separators a.lead.free hopen, hskip, Answer.bodyText]
  cases hmembers : a.members with
  | nil =>
    rw [if_pos List.isEmpty_nil, splitOnP_separators a.inner.free hclose, hskip,
      List.splitOnP_eq_singleton fun c hc => decide_eq_false (a.trail.free c hc), hskip,
      Answer.words, hmembers]
    rfl
  | cons m members =>
    rw [if_neg (by simp), splitOnP_membersText (m :: members) (List.cons_ne_nil m members),
      tokenFollowers_pieces hword, Answer.words, hmembers]

theorem stored_eq {word : CStr} (hword : word ≠ []) (channel : Channel) (a : Answer) :
    stored word channel a =
      tokenFollowers word (gStrsplitSet (channel.received a.text) separators) := by
  rw [stored]
  split
  · next hwhole => rw [hwhole, a.followers_eq hword]
  · rfl

theorem Answer.wanted_head (a : Answer) (h : a.wanted name = c :: t) :
    isSpace c = false ∧ c ∉ separators := by
  rw [Answer.wanted] at h
  split at h
  · cases h
  · next m _ =>
    have hmem : c ∈ gStrstrip m.value.value := h ▸ List.mem_cons_self
    exact ⟨gStrstrip_head h, m.value.value_free c ((gStrstrip_sublist _).mem hmem)⟩

theorem Answer.wanted_ne_received (a : Answer) (channel : Channel) (name : CStr) :
    a.wanted name ≠ channel.received a.text := by
  intro he
  cases hr : channel.received a.text with
  | nil => exact channel.received_ne_nil a.text_ne_nil hr
  | cons c t =>
    obtain ⟨hspace, hsep⟩ := a.wanted_head (he.trans hr)
    obtain ⟨u, hu⟩ := channel.received_prefix a.text
    rw [hr, Answer.text] at hu
    cases hlead : a.lead.text with
    | nil =>
      rw [hlead] at hu
      obtain rfl : c = '\x7b' := (List.cons.inj hu).1
      exact hsep (by decide)
    | cons b lead =>
      rw [hlead] at hu
      obtain rfl : c = b := (List.cons.inj hu).1
      have hblank := a.lead.blank c (hlead ▸ List.mem_cons_self)
      rw [hspace] at hblank
      cases hblank

/-- The stores that end with a value: there is one, unless the text to begin with is the value. -/
theorem getLastD_eq_iff {values : List CStr} (hne : value ≠ first) :
    values.getLastD first = value ↔ values.getLast? = some value := by
  rw [List.getLastD_eq_getLast?]
  cases values.getLast? with
  | none => exact iff_of_false (fun he => hne he.symm) (by simp)
  | some last => exact Option.some_inj.symm

/-- The answer and what is stored of it are in the arrays. -/
def Fits (a : Answer) (channel : Channel) : Prop :=
  (channel.received a.text).length < 512 ∧
    ∀ value ∈ stored partnerIdWord channel a, value.length < 128

theorem getDeviceActivationState_eq (a : Answer) (channel : Channel)
    (hfirst : attempts 0 = channel.attempt a.text) (activated : Bool) :
    getDeviceActivationState attempts (initialState activated) =
      (gStpcpy (channel.received a.text)).bind fun deviceID =>
        ((stored deviceIdWord channel a).foldlM storeDeviceID
          { initialState activated with deviceID := deviceID }).bind fun s =>
          ((stored partnerIdWord channel a).foldlM storePartnerID s).bind fun s =>
            some (s.bDeviceActivated, s) := by
  have hfetch := fetchLoop_first channel hfirst a.text_ne_nil (by decide)
  have hdevice : deviceIdWord ≠ [] := by decide
  have hpartner : partnerIdWord ≠ [] := by decide
  rw [getDeviceActivationState, initialState, hfetch, stored_eq hdevice, stored_eq hpartner]
  by_cases hfits : (channel.received a.text).length < 512
  · rw [gStpcpy_of_fits hfits]
    simp only [Option.map_some, Option.bind_eq_bind, Option.bind_some, storeLoop_eq]
  · rw [gStpcpy_overflow hfits]
    rfl

theorem getDeviceActivationState_of_fits (a : Answer) (channel : Channel)
    (hfirst : attempts 0 = channel.attempt a.text) (activated : Bool) (hfits : Fits a channel) :
    ∃ s, getDeviceActivationState attempts (initialState activated) =
        some (s.bDeviceActivated, s) ∧
      s.deviceID.str = (stored deviceIdWord channel a).getLastD (channel.received a.text) ∧
        s.partnerID.str = (stored partnerIdWord channel a).getLastD [] ∧
          (s.bDeviceActivated = true ↔
            (∃ value ∈ stored deviceIdWord channel a, value ≠ []) ∨ activated = true) := by
  obtain ⟨harrives, hpartner⟩ := hfits
  have hdevice : ∀ value ∈ stored deviceIdWord channel a, value.length < 512 := by
    intro value hvalue
    rw [stored_eq (by decide)] at hvalue
    exact Nat.lt_of_le_of_lt (tokenFollowers_length hvalue) harrives
  obtain ⟨s, hs, hsdevice, hspartner, hsactivated⟩ := storeDeviceIDs _ hdevice
    { initialState activated with deviceID := ⟨channel.received a.text, harrives⟩ }
  obtain ⟨t, ht, htpartner, htdevice, htactivated⟩ := storePartnerIDs _ hpartner s
  refine ⟨t, ?_, ?_, ?_, ?_⟩
  · rw [getDeviceActivationState_eq a channel hfirst, gStpcpy_of_fits harrives, Option.bind_some,
      hs, Option.bind_some, ht, Option.bind_some]
  · rw [htdevice, hsdevice]
  · rw [htpartner, hspartner]
    rfl
  · rw [htactivated, hsactivated]
    rfl

theorem getDeviceActivationState_overflow (a : Answer) (channel : Channel)
    (hfirst : attempts 0 = channel.attempt a.text) (activated : Bool) (hfits : ¬Fits a channel) :
    getDeviceActivationState attempts (initialState activated) = none := by
  rw [getDeviceActivationState_eq a channel hfirst]
  by_cases harrives : (channel.received a.text).length < 512
  · have hpartner : ∃ value ∈ stored partnerIdWord channel a, ¬value.length < 128 := by
      by_contra hall
      apply hfits ⟨harrives, ?_⟩
      intro value hvalue
      by_contra hlong
      exact hall ⟨value, hvalue, hlong⟩
    obtain ⟨value, hvalue, hlong⟩ := hpartner
    have hstore : ∀ s, storePartnerID s value = none := by
      intro s
      rw [storePartnerID, gStpcpy_overflow hlong]
      rfl
    rw [gStpcpy_of_fits harrives, Option.bind_some]
    cases (stored deviceIdWord channel a).foldlM storeDeviceID
        { initialState activated with deviceID := ⟨channel.received a.text, harrives⟩ } with
    | none => rfl
    | some s => rw [Option.bind_some, foldlM_overflow hstore hvalue, Option.bind_none]
  · rw [gStpcpy_overflow harrives]
    rfl

theorem activates_iff {values : List CStr} (hlast : values.getLast? = some wanted) :
    (((∃ value ∈ values, value ≠ []) ∨ activated = true) ↔ (wanted ≠ [] ∨ activated = true)) ↔
      ((∃ value ∈ values, value ≠ []) → wanted ≠ [] ∨ activated = true) := by
  apply Iff.intro
  · intro h hvalue
    exact h.1 (Or.inl hvalue)
  · intro h
    apply Iff.intro
    · intro h'
      rcases h' with hvalue | hactivated
      · exact h hvalue
      · exact Or.inr hactivated
    · intro h'
      rcases h' with hwanted | hactivated
      · exact Or.inl ⟨wanted, List.mem_of_getLast? hlast, hwanted⟩
      · exact Or.inr hactivated

theorem ReadsRight.readsAnswer (h : ReadsRight a channel activated) :
    ReadsAnswer a channel activated := by
  intro attempts hfirst
  obtain ⟨t, ht, htdevice, htpartner, htactivated⟩ :=
    getDeviceActivationState_of_fits a channel hfirst activated ⟨h.arrives, h.partnerFits⟩
  refine ⟨t.bDeviceActivated, t, ht, ?_, ?_, ?_⟩
  · exact htdevice.trans
      ((getLastD_eq_iff (a.wanted_ne_received channel deviceIdWord)).2 h.deviceID)
  · exact htpartner.trans h.partnerID
  · exact htactivated.trans ((activates_iff h.deviceID).2 h.activates)

theorem readsAnswer_iff (a : Answer) (channel : Channel) (activated : Bool) :
    ReadsAnswer a channel activated ↔ ReadsRight a channel activated := by
  apply Iff.intro
  · intro h
    obtain ⟨returned, s, hrun, hdevice, hpartner, hreturned⟩ :=
      h (fun _ => channel.attempt a.text) rfl
    have hfits : Fits a channel := by
      by_contra hfits
      rw [getDeviceActivationState_overflow a channel rfl activated hfits] at hrun
      cases hrun
    obtain ⟨t, ht, htdevice, htpartner, htactivated⟩ :=
      @getDeviceActivationState_of_fits (fun _ => channel.attempt a.text) a channel rfl activated
        hfits
    obtain ⟨rfl, rfl⟩ := Prod.mk.inj (Option.some.inj (hrun.symm.trans ht))
    have hlast := (getLastD_eq_iff (a.wanted_ne_received channel deviceIdWord)).1
      (htdevice.symm.trans hdevice)
    exact {
      arrives := hfits.1
      deviceID := hlast
      activates := (activates_iff hlast).1 (htactivated.symm.trans hreturned)
      partnerID := htpartner.symm.trans hpartner
      partnerFits := hfits.2 }
  · exact ReadsRight.readsAnswer

/-- The members of an answer in which a word is only where it is the whole name, and in which the
values have no escapes. -/
structure Ordinary (word : CStr) (m : Member) : Prop where
  name : gStrrstr (gStrstrip m.name.text) word = decide (m.name.value = word)
  value : gStrrstr (gStrstrip m.value.text) word = false
  plain : m.value.value = m.value.text

theorem followers_ordinary {word : CStr} (members : List Member)
    (h : ∀ m ∈ members, Ordinary word m) :
    followers word (members.flatMap fun m => [m.name.text, m.value.text]) =
      (members.filter fun m => m.name.value = word).map fun m => gStrstrip m.value.value := by
  induction members with
  | nil => rfl
  | cons m members ih =>
    obtain ⟨hname, hvalue, hplain⟩ := h m List.mem_cons_self
    have hrest := ih fun n hn => h n (List.mem_cons_of_mem m hn)
    have hskip : ∀ words, followers word (m.value.text :: words) = followers word words := by
      intro words
      cases words with
      | nil => rfl
      | cons next words =>
        rw [followers, hvalue]
        rfl
    rw [List.flatMap_cons, List.cons_append, List.singleton_append, followers, hskip, hrest, hname,
      List.filter_cons, ← hplain]
    split
    · rfl
    · rfl

/-- The answer arrives whole, has one identity, and its members are ordinary. -/
structure OrdinaryAnswer (a : Answer) (channel : Channel) : Prop where
  deviceID : ∀ m ∈ a.members, Ordinary deviceIdWord m
  partnerID : ∀ m ∈ a.members, Ordinary partnerIdWord m
  one : (a.members.filter fun m => m.name.value = deviceIdWord).length = 1
  whole : channel.received a.text = a.text
  arrives : a.text.length < 512
  fits : ∀ m ∈ a.members, m.value.text.length < 128

theorem OrdinaryAnswer.stored_eq (h : OrdinaryAnswer a channel)
    (hword : ∀ m ∈ a.members, Ordinary word m) :
    stored word channel a =
      (a.members.filter fun m => m.name.value = word).map fun m => gStrstrip m.value.value := by
  rw [stored, if_pos h.whole]
  exact followers_ordinary a.members hword

theorem OrdinaryAnswer.readsRight (h : OrdinaryAnswer a channel) (activated : Bool) :
    ReadsRight a channel activated := by
  obtain ⟨identity, hone⟩ := List.length_eq_one_iff.mp h.one
  have hidentity : stored deviceIdWord channel a = [a.wanted deviceIdWord] := by
    rw [h.stored_eq h.deviceID, Answer.wanted, hone]
    rfl
  exact {
    arrives := by
      rw [h.whole]
      exact h.arrives
    deviceID := by
      rw [hidentity]
      rfl
    activates := by
      rw [hidentity]
      intro h'
      obtain ⟨value, hvalue, hne⟩ := h'
      exact Or.inl (List.mem_singleton.1 hvalue ▸ hne)
    partnerID := by
      rw [h.stored_eq h.partnerID, List.getLastD_eq_getLast?, List.getLast?_map, Answer.wanted]
      cases (a.members.filter fun m => m.name.value = partnerIdWord).getLast? with
      | none => rfl
      | some m => rfl
    partnerFits := by
      intro value hvalue
      rw [h.stored_eq h.partnerID] at hvalue
      obtain ⟨m, hm, rfl⟩ := List.mem_map.1 hvalue
      have hmem := List.mem_of_mem_filter hm
      rw [(h.partnerID m hmem).plain]
      exact Nat.lt_of_le_of_lt (gStrstrip_sublist _).length_le (h.fits m hmem) }

/-- When an answer is read right; the ordinary ones are. -/
theorem getDeviceActivationState_iff (a : Answer) (channel : Channel) (activated : Bool) :
    (ReadsAnswer a channel activated ↔ ReadsRight a channel activated) ∧
      (OrdinaryAnswer a channel → ReadsRight a channel activated) := by
  constructor
  · exact readsAnswer_iff a channel activated
  · intro h
    exact h.readsRight activated

def noBlank : Blank := ⟨[], fun _ hc => absurd hc List.not_mem_nil⟩

def plainString (s : CStr) (h : s.all (· ∉ separators) = true) : JString where
  text := s
  value := s
  text_free := not_mem_of_all h
  value_free := not_mem_of_all h
  plain := fun _ => rfl

def plainMember (name value : CStr) (hname : name.all (· ∉ separators) = true)
    (hvalue : value.all (· ∉ separators) = true) : Member where
  before := noBlank
  name := plainString name hname
  afterName := noBlank
  beforeValue := noBlank
  value := plainString value hvalue
  after := noBlank

def partnerOnly : Answer where
  lead := noBlank
  members := [plainMember "partnerId".toList "comcast".toList (by decide) (by decide)]
  inner := noBlank
  trail := noBlank

def wordInValue : Answer where
  lead := noBlank
  members := [
    plainMember "deviceId".toList "T00".toList (by decide) (by decide),
    plainMember "missing".toList "deviceId".toList (by decide) (by decide),
    plainMember "partnerId".toList "comcast".toList (by decide) (by decide)]
  inner := noBlank
  trail := noBlank

/-- Without an identity in it, the whole answer is left for the identity; the name of a member is
taken for it when the value before it has the word. -/
theorem getDeviceActivationState_misreads :
    (partnerOnly.text = "\x7b\"partnerId\":\"comcast\"\x7d".toList ∧
      partnerOnly.wanted deviceIdWord = [] ∧
      (getDeviceActivationState (fun _ => .url partnerOnly.text) (initialState false)).map
        (fun r => (r.1, r.2.deviceID.str)) = some (false, partnerOnly.text)) ∧
    (wordInValue.wanted deviceIdWord = "T00".toList ∧
      (getDeviceActivationState (fun _ => .url wordInValue.text) (initialState false)).map
        (fun r => (r.1, r.2.deviceID.str)) = some (true, "partnerId".toList)) := by
  decide

end NetSrvMgr.Activation
