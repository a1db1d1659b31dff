import Mathlib.Data.List.DropRight
import Mathlib.Data.List.Infix

namespace CString
set_option autoImplicit true

/-- A C string: its bytes up to the terminating NUL, each written as a character. -/
abbrev CStr := List Char

/-- `g_ascii_isspace`; the vertical tab is not one. -/
def isSpace (c : Char) : Bool :=
  c = ' ' || c = '\t' || c = '\n' || c = '\x0c' || c = '\r'

def gStrchug (s : CStr) : CStr := s.dropWhile isSpace

def gStrchomp (s : CStr) : CStr := s.rdropWhile isSpace

def gStrstrip (s : CStr) : CStr := gStrchomp (gStrchug s)

/-- Whether `g_strrstr` finds the needle. -/
def gStrrstr (haystack needle : CStr) : Bool := decide (needle <:+: haystack)

/-- `g_strsplit_set`: the empty string has no tokens. -/
def gStrsplitSet (s delimiters : CStr) : List CStr :=
  if s.isEmpty then [] else s.splitOnP (· ∈ delimiters)

def strcaseeq (s t : CStr) : Bool := s.map Char.toLower = t.map Char.toLower

/-- Whether `strcasestr` finds the needle. -/
def strcasestr (haystack needle : CStr) : Bool :=
  decide (needle.map Char.toLower <:+: haystack.map Char.toLower)

theorem gStrchug_eq_self_iff : gStrchug s = s ↔ ∀ c ∈ s.head?, isSpace c = false := by
  cases s with
  | nil => exact iff_of_true rfl fun c hc => absurd hc (by simp)
  | cons b s =>
    rw [List.head?_cons, gStrchug]
    cases hb : isSpace b with
    | false =>
      rw [List.dropWhile_cons_of_neg (by rw [hb]; exact Bool.false_ne_true)]
      exact iff_of_true rfl fun c hc => Option.some.inj hc ▸ hb
    | true =>
      rw [List.dropWhile_cons_of_pos hb]
      apply iff_of_false
      · intro h
        have hlen := (List.dropWhile_suffix isSpace (l := s)).length_le
        rw [h, List.length_cons] at hlen
        omega
      · intro h
        rw [h b rfl] at hb
        cases hb

theorem gStrchug_of_prefix (hs : gStrchug s = s) (h : t <+: s) : gStrchug t = t := by
  rw [gStrchug_eq_self_iff] at hs ⊢
  intro c hc
  cases t with
  | nil => cases hc
  | cons b t =>
    obtain ⟨u, rfl⟩ := h
    exact hs c hc

theorem gStrstrip_idem (s : CStr) : gStrstrip (gStrstrip s) = gStrstrip s := by
  have hchug : gStrchug (gStrchug s) = gStrchug s := List.dropWhile_idempotent isSpace s
  have hpre : gStrstrip s <+: gStrchug s := List.rdropWhile_prefix isSpace (gStrchug s)
  calc gStrstrip (gStrstrip s)
      = gStrchomp (gStrstrip s) := by rw [gStrstrip, gStrchug_of_prefix hchug hpre]
    _ = gStrstrip s := List.rdropWhile_idempotent isSpace (gStrchug s)

theorem gStrchomp_eq_self_iff : gStrchomp s = s ↔ ∀ c ∈ s.getLast?, isSpace c = false := by
  rw [gStrchomp, List.rdropWhile_eq_self_iff]
  apply Iff.intro
  · intro h c hc
    obtain ⟨hne, rfl⟩ := List.mem_getLast?_eq_getLast hc
    exact eq_false_of_ne_true (h hne)
  · intro h hne hspace
    rw [h _ (List.getLast_mem_getLast? hne)] at hspace
    cases hspace

theorem gStrstrip_eq_self_iff : gStrstrip s = s ↔
    (∀ c ∈ s.head?, isSpace c = false) ∧ ∀ c ∈ s.getLast?, isSpace c = false := by
  rw [← gStrchug_eq_self_iff, ← gStrchomp_eq_self_iff]
  apply Iff.intro
  · intro h
    have hchomp : gStrstrip s <+: gStrchug s := List.rdropWhile_prefix isSpace (gStrchug s)
    have hchug : gStrchug s <:+ s := List.dropWhile_suffix isSpace
    rw [h] at hchomp
    have hself : gStrchug s = s := hchug.eq_of_length_le hchomp.length_le
    refine ⟨hself, ?_⟩
    rw [gStrstrip, hself] at h
    exact h
  · rintro ⟨hchug, hchomp⟩
    rw [gStrstrip, hchug, hchomp]

theorem gStrstrip_part (s : CStr) : gStrstrip s <:+: s :=
  (List.rdropWhile_prefix isSpace _).isInfix.trans (List.dropWhile_suffix isSpace).isInfix

theorem gStrstrip_sublist (s : CStr) : (gStrstrip s).Sublist s := (gStrstrip_part s).sublist

theorem gStrstrip_head {s : CStr} (h : gStrstrip s = c :: t) : isSpace c = false := by
  apply (gStrstrip_eq_self_iff.1 (gStrstrip_idem s)).1
  rw [h]
  rfl

theorem gStrstrip_spaces (s : CStr) : ∃ a b, s = a ++ (gStrstrip s ++ b) ∧
    (∀ c ∈ a, isSpace c = true) ∧ ∀ c ∈ b, isSpace c = true := by
  refine ⟨s.takeWhile isSpace, (gStrchug s).rtakeWhile isSpace, ?_, ?_, ?_⟩
  · rw [gStrstrip, gStrchomp, List.rdropWhile_append_rtakeWhile]
    exact List.takeWhile_append_dropWhile.symm
  · exact fun c hc => List.mem_takeWhile_imp hc
  · exact fun c hc => List.mem_rtakeWhile_imp hc

theorem gStrstrip_space_append (h : ∀ c ∈ a, isSpace c = true) (s : CStr) :
    gStrstrip (a ++ s) = gStrstrip s := by
  rw [gStrstrip, gStrchug, List.dropWhile_append_of_pos h]
  rfl

theorem gStrstrip_append_space (h : ∀ c ∈ b, isSpace c = true) (s : CStr) :
    gStrstrip (s ++ b) = gStrstrip s := by
  have hchomp : ∀ t : CStr, gStrchomp (t ++ b) = gStrchomp t := by
    intro t
    rw [gStrchomp, gStrchomp, List.rdropWhile, List.rdropWhile, List.reverse_append,
      List.dropWhile_append_of_pos fun c hc => h c (List.mem_reverse.1 hc)]
  induction s with
  | nil =>
    have hnil : gStrstrip [] = [] := rfl
    have hall : gStrchug b = [] := List.dropWhile_eq_nil_iff.2 h
    rw [hnil, gStrstrip, List.nil_append, hall]
    rfl
  | cons c s ih =>
    cases hc : isSpace c with
    | true =>
      have hskip : ∀ t : CStr, gStrstrip (c :: t) = gStrstrip t := by
        intro t
        rw [gStrstrip, gStrchug, List.dropWhile_cons_of_pos hc]
        rfl
      rw [List.cons_append, hskip, hskip, ih]
    | false =>
      have hkeep : ∀ t : CStr, gStrstrip (c :: t) = gStrchomp (c :: t) := by
        intro t
        rw [gStrstrip, gStrchug, List.dropWhile_cons_of_neg (by rw [hc]; exact Bool.false_ne_true)]
      rw [List.cons_append, hkeep, hkeep]
      exact hchomp (c :: s)

theorem gStrstrip_eq_nil (h : ∀ c ∈ s, isSpace c = true) : gStrstrip s = [] := by
  have hall := gStrstrip_append_space h []
  exact hall

/-- A string that `g_strstrip` leaves as it is. -/
@[ext]
structure Stripped where
  str : CStr
  stripped : gStrstrip str = str
  deriving DecidableEq

def Stripped.of (s : CStr) : Stripped := ⟨gStrstrip s, gStrstrip_idem s⟩

/-- The text of a character array, its terminating NUL within the array. -/
structure CharArray (size : Nat) where
  str : CStr
  fits : str.length < size
  deriving DecidableEq

/-- What `snprintf` of a string leaves in the array. -/
def CharArray.snprintf (h : 0 < size) (s : CStr) : CharArray size where
  str := s.take (size - 1)
  fits := Nat.lt_of_le_of_lt (List.length_take_le _ s) (Nat.sub_lt h Nat.one_pos)

/-- `g_stpcpy` into an array; `none` when it writes past the end of it. -/
def gStpcpy (source : CStr) : Option (CharArray size) :=
  if h : source.length < size then some ⟨source, h⟩ else none

/-- The string in a buffer ends at its first NUL. -/
def cstr (s : CStr) : CStr := s.takeWhile (· ≠ '\x00')

/-- The first token of a string and what follows the delimiter that ends it; `none` for a null
pointer. -/
def strtok (delims s : CStr) : Option (CStr × CStr) :=
  match s.dropWhile (· ∈ delims) with
  | [] => none
  | c :: s => some ((c :: s).takeWhile (· ∉ delims), ((c :: s).dropWhile (· ∉ delims)).tail)

/-- The characters up to a newline, or up to a number of them, and the rest. -/
def fgetsLine : Nat → CStr → CStr × CStr
  | 0, s => ([], s)
  | _ + 1, [] => ([], [])
  | n + 1, c :: s =>
    if c = '\n' then ([c], s) else (c :: (fgetsLine n s).1, (fgetsLine n s).2)

/-- What the calls of `fgets` on a file put into a buffer until the end of the file. -/
def fgetsLoop (size : Nat) : Nat → CStr → List CStr
  | 0, _ => []
  | _ + 1, [] => []
  | fuel + 1, c :: s =>
    let r := fgetsLine (size - 1) (c :: s)
    r.1 :: fgetsLoop size fuel r.2

def fgetsAll (size : Nat) (file : CStr) : List CStr := fgetsLoop size file.length file

theorem CharArray.snprintf_str (h : 0 < size) (s : CharArray size) :
    CharArray.snprintf h s.str = s := by
  have hfits := s.fits
  obtain ⟨str, fits⟩ := s
  rw [CharArray.snprintf, CharArray.mk.injEq]
  exact List.take_of_length_le (by omega)

theorem gStpcpy_of_fits (h : source.length < size) :
    gStpcpy source = some (⟨source, h⟩ : CharArray size) :=
  dif_pos h

theorem gStpcpy_overflow (h : ¬source.length < size) :
    (gStpcpy source : Option (CharArray size)) = none :=
  dif_neg h

theorem cstr_eq_self (h : '\x00' ∉ s) : cstr s = s := by
  rw [cstr, List.takeWhile_eq_self_iff]
  intro c hc
  apply decide_eq_true
  intro he
  exact h (he ▸ hc)

theorem nul_not_mem_cstr (s : CStr) : '\x00' ∉ cstr s := by
  intro hm
  rw [cstr] at hm
  have hne := List.mem_takeWhile_imp hm
  exact of_decide_eq_true hne rfl

theorem strtok_append (hs : s ≠ []) (hdelims : ∀ c ∈ s, c ∉ delims) (hd : d ∈ delims) :
    strtok delims (s ++ d :: rest) = some (s, rest) := by
  have htake : (s ++ d :: rest).takeWhile (· ∉ delims) = s := by
    rw [List.takeWhile_append_of_pos (fun c hc => decide_eq_true (hdelims c hc)),
      List.takeWhile_cons_of_neg (by simpa using hd), List.append_nil]
  have hdrop : (s ++ d :: rest).dropWhile (· ∉ delims) = d :: rest := by
    rw [List.dropWhile_append_of_pos (fun c hc => decide_eq_true (hdelims c hc)),
      List.dropWhile_cons_of_neg (by simpa using hd)]
  cases s with
  | nil => exact absurd rfl hs
  | cons c s =>
    have hskip : (c :: s ++ d :: rest).dropWhile (· ∈ delims) = c :: s ++ d :: rest :=
      List.dropWhile_cons_of_neg (by simpa using hdelims c List.mem_cons_self)
    rw [strtok, hskip]
    dsimp only [List.cons_append]
    rw [← List.cons_append, htake, hdrop]
    rfl

theorem strtok_delims (h : ∀ c ∈ s, c ∈ delims) : strtok delims s = none := by
  have hdrop : s.dropWhile (· ∈ delims) = [] :=
    List.dropWhile_eq_nil_iff.2 fun c hc => decide_eq_true (h c hc)
  rw [strtok, hdrop]

theorem strtok_unterminated (hs : s ≠ []) (hdelims : ∀ c ∈ s, c ∉ delims) :
    strtok delims s = some (s, []) := by
  have htake : s.takeWhile (· ∉ delims) = s :=
    List.takeWhile_eq_self_iff.2 fun c hc => decide_eq_true (hdelims c hc)
  have hdrop : s.dropWhile (· ∉ delims) = [] :=
    List.dropWhile_eq_nil_iff.2 fun c hc => decide_eq_true (hdelims c hc)
  cases s with
  | nil => exact absurd rfl hs
  | cons c s =>
    have hskip : (c :: s).dropWhile (· ∈ delims) = c :: s :=
      List.dropWhile_cons_of_neg (by simpa using hdelims c List.mem_cons_self)
    rw [strtok, hskip]
    dsimp only
    rw [htake, hdrop]
    rfl

theorem take_append_cons {line : List α} (h : line.length < n) (c : α) (rest : List α) :
    (line ++ c :: rest).take n = line ++ c :: rest.take (n - (line.length + 1)) := by
  obtain ⟨m, rfl⟩ := Nat.exists_eq_add_of_lt h
  have hm : line.length + m + 1 - (line.length + 1) = m := by omega
  rw [hm, Nat.add_assoc, List.take_length_add_append, List.take_succ_cons]

theorem fgetsLine_prefix (n : Nat) (s : CStr) : (fgetsLine n s).1 <+: s := by
  induction n generalizing s with
  | zero => exact List.nil_prefix
  | succ n ih =>
    cases s with
    | nil => exact List.nil_prefix
    | cons c s =>
      rw [fgetsLine]
      split
      · exact List.prefix_append [c] s
      · exact List.cons_prefix_cons.2 ⟨rfl, ih s⟩

theorem fgetsLine_ne_nil {s : CStr} (hs : s ≠ []) : (fgetsLine (n + 1) s).1 ≠ [] := by
  cases s with
  | nil => exact absurd rfl hs
  | cons c s =>
    rw [fgetsLine]
    split
    · exact List.cons_ne_nil c []
    · exact List.cons_ne_nil c _

theorem fgetsLine_append (h : '\n' ∉ line) (hn : line.length < n) (rest : CStr) :
    fgetsLine n (line ++ '\n' :: rest) = (line ++ ['\n'], rest) := by
  induction line generalizing n with
  | nil =>
    cases n with
    | zero => cases hn
    | succ n => rfl
  | cons c line ih =>
    cases n with
    | zero => cases hn
    | succ n =>
      have hc : c ≠ '\n' := by
        intro he
        exact h (he ▸ List.mem_cons_self)
      rw [List.cons_append, fgetsLine, if_neg hc,
        ih (fun hm => h (List.mem_cons_of_mem c hm)) (Nat.lt_of_succ_lt_succ hn)]
      rfl

theorem fgetsLine_unterminated (h : '\n' ∉ line) (hn : line.length ≤ n) :
    fgetsLine n line = (line, []) := by
  induction line generalizing n with
  | nil =>
    cases n with
    | zero => rfl
    | succ n => rfl
  | cons c line ih =>
    cases n with
    | zero => cases hn
    | succ n =>
      have hc : c ≠ '\n' := by
        intro he
        exact h (he ▸ List.mem_cons_self)
      rw [fgetsLine, if_neg hc,
        ih (fun hm => h (List.mem_cons_of_mem c hm)) (Nat.le_of_succ_le_succ hn)]

theorem fgetsLoop_append (h : '\n' ∉ line) (hlen : line.length < size - 1) (rest : CStr) :
    fgetsLoop size (fuel + 1) (line ++ '\n' :: rest) =
      (line ++ ['\n']) :: fgetsLoop size fuel rest := by
  have hread := fgetsLine_append h hlen rest
  cases hfile : line ++ '\n' :: rest with
  | nil => cases (List.append_eq_nil_iff.1 hfile).2
  | cons c file => rw [fgetsLoop, ← hfile, hread]

theorem fgetsLoop_nil (size fuel : Nat) : fgetsLoop size fuel [] = [] := by
  cases fuel with
  | zero => rfl
  | succ fuel => rfl

theorem fgetsLoop_unterminated (hne : line ≠ []) (h : '\n' ∉ line)
    (hlen : line.length ≤ size - 1) : fgetsLoop size (fuel + 1) line = [line] := by
  have hread := fgetsLine_unterminated h hlen
  cases line with
  | nil => exact absurd rfl hne
  | cons c line =>
    rw [fgetsLoop, hread]
    dsimp only
    rw [fgetsLoop_nil]

/-- Short lines, each ended by a newline, are read one at a time. -/
theorem fgetsLoop_lines (lines : List CStr)
    (h : ∀ line ∈ lines, '\n' ∉ line ∧ line.length < size - 1) (hfuel : lines.length ≤ fuel) :
    fgetsLoop size fuel (lines.flatMap (· ++ ['\n'])) = lines.map (· ++ ['\n']) := by
  induction lines generalizing fuel with
  | nil => exact fgetsLoop_nil size fuel
  | cons line lines ih =>
    obtain ⟨hnl, hlen⟩ := h line List.mem_cons_self
    cases fuel with
    | zero => cases hfuel
    | succ fuel =>
      have hrest := ih (fun l hl => h l (List.mem_cons_of_mem line hl))
        (Nat.le_of_succ_le_succ hfuel)
      rw [List.flatMap_cons, List.append_assoc, List.singleton_append, List.map_cons,
        fgetsLoop_append hnl hlen, hrest]

theorem fgetsAll_lines (lines : List CStr)
    (h : ∀ line ∈ lines, '\n' ∉ line ∧ line.length < size - 1) :
    fgetsAll size (lines.flatMap (· ++ ['\n'])) = lines.map (· ++ ['\n']) := by
  apply fgetsLoop_lines lines h
  have hlen : ∀ lines : List CStr, lines.length ≤ (lines.flatMap (· ++ ['\n'])).length := by
    intro lines
    induction lines with
    | nil => exact Nat.le_refl 0
    | cons line lines ih =>
      rw [List.flatMap_cons, List.length_append, List.length_append, List.length_cons,
        List.length_singleton]
      omega
  exact hlen lines

theorem not_mem_of_all {s t : CStr} (h : s.all (· ∉ t) = true) : ∀ c ∈ s, c ∉ t :=
  fun c hc => of_decide_eq_true (List.all_eq_true.1 h c hc)

theorem splitOnP_induction {motive : List α → Prop} (p : α → Bool)
    (piece : ∀ xs, (∀ x ∈ xs, p x = false) → motive xs)
    (step : ∀ xs c rest, (∀ x ∈ xs, p x = false) → p c = true → motive rest →
      motive (xs ++ c :: rest)) (s : List α) : motive s := by
  have hfrom : ∀ xs, (∀ x ∈ xs, p x = false) → motive (xs ++ s) := by
    induction s with
    | nil =>
      intro xs hxs
      rw [List.append_nil]
      exact piece xs hxs
    | cons c rest ih =>
      intro xs hxs
      cases hc : p c with
      | true => exact step xs c rest hxs hc (ih [] fun x hx => absurd hx List.not_mem_nil)
      | false =>
        rw [List.append_cons]
        apply ih
        intro x hx
        rcases List.mem_append.1 hx with hx | hx
        · exact hxs x hx
        · rw [List.mem_singleton.1 hx]
          exact hc
  exact hfrom [] fun x hx => absurd hx List.not_mem_nil

theorem mem_splitOnP {p : α → Bool} (ht : t ∈ s.splitOnP p) :
    t <:+: s ∧ ∀ x ∈ t, p x = false := by
  induction s using splitOnP_induction p with
  | piece xs hxs =>
    rw [List.splitOnP_eq_singleton hxs] at ht
    obtain rfl := List.mem_singleton.1 ht
    exact ⟨List.infix_rfl, hxs⟩
  | step xs c rest hxs hc ih =>
    rw [List.splitOnP_append_cons_of_forall_mem hxs c hc] at ht
    rcases List.mem_cons.1 ht with rfl | ht
    · exact ⟨(List.prefix_append t _).isInfix, hxs⟩
    · obtain ⟨hpart, hfree⟩ := ih ht
      refine ⟨hpart.trans ?_, hfree⟩
      exact (List.suffix_append_of_suffix (List.suffix_cons c rest)).isInfix

/-- A text without the separator that occurs in two texts joined by it occurs in one of them. -/
theorem infix_append_cons {s a b : List α} (hc : c ∉ s) (h : s <:+: a ++ c :: b) :
    s <:+: a ∨ s <:+: b := by
  obtain ⟨u, v, huv⟩ := h
  rw [List.append_assoc, List.append_eq_append_iff] at huv
  rcases huv with ⟨w, rfl, hsv⟩ | ⟨w, rfl, hcb⟩
  · rw [List.append_eq_append_iff] at hsv
    rcases hsv with ⟨x, rfl, _⟩ | ⟨x, rfl, hx⟩
    · exact Or.inl ⟨u, x, List.append_assoc u s x⟩
    · cases x with
      | nil => exact Or.inl ⟨u, [], by simp⟩
      | cons d x =>
        obtain ⟨rfl, _⟩ := List.cons.inj hx
        exact absurd (by simp) hc
  · cases w with
    | nil =>
      rw [List.nil_append] at hcb
      cases s with
      | nil => exact Or.inl ⟨[], a, rfl⟩
      | cons d s =>
        obtain ⟨rfl, _⟩ := List.cons.inj hcb
        exact absurd List.mem_cons_self hc
    | cons d w =>
      obtain ⟨_, rfl⟩ := List.cons.inj hcb
      exact Or.inr ⟨w, v, List.append_assoc w s v⟩

theorem not_infix_spaces {s t : CStr} (hs : s ≠ []) (hfree : ∀ c ∈ s, isSpace c = false)
    (ht : ∀ c ∈ t, isSpace c = true) : ¬ s <:+: t := by
  intro h
  cases s with
  | nil => exact hs rfl
  | cons c s =>
    have hspace := ht c (h.subset List.mem_cons_self)
    rw [hfree c List.mem_cons_self] at hspace
    cases hspace

theorem infix_gStrstrip {s t : CStr} (hs : s ≠ []) (hfree : ∀ c ∈ s, isSpace c = false)
    (h : s <:+: t) : s <:+: gStrstrip t := by
  obtain ⟨a, b, hsplit, ha, hb⟩ := gStrstrip_spaces t
  have hnot : ∀ c, isSpace c = true → c ∉ s := by
    intro c hc hm
    rw [hfree c hm] at hc
    cases hc
  have hleft : ∀ u, s <:+: a ++ u → s <:+: u := by
    clear hsplit
    intro u hu
    induction a with
    | nil => exact hu
    | cons c a ih =>
      have ha' : ∀ d ∈ a, isSpace d = true := fun d hd => ha d (List.mem_cons_of_mem c hd)
      rcases infix_append_cons (a := []) (hnot c (ha c List.mem_cons_self)) hu with hnil | hrest
      · exact absurd (List.eq_nil_of_infix_nil hnil) hs
      · exact ih ha' hrest
  rw [hsplit] at h
  have hright := hleft _ h
  cases b with
  | nil =>
    rw [List.append_nil] at hright
    exact hright
  | cons c b =>
    rcases infix_append_cons (hnot c (hb c List.mem_cons_self)) hright with hstrip | hrest
    · exact hstrip
    · exact absurd hrest (not_infix_spaces hs hfree fun d hd => hb d (List.mem_cons_of_mem c hd))

theorem infix_piece {p : α → Bool} (ht : ∀ x ∈ t, p x = false) (h : t <:+: s) :
    ∃ piece ∈ s.splitOnP p, t <:+: piece := by
  induction s using splitOnP_induction p with
  | piece xs hxs =>
    rw [List.splitOnP_eq_singleton hxs]
    exact ⟨xs, List.mem_cons_self, h⟩
  | step xs c rest hxs hc ih =>
    rw [List.splitOnP_append_cons_of_forall_mem hxs c hc]
    have hfree : c ∉ t := by
      intro hm
      rw [ht c hm] at hc
      cases hc
    rcases infix_append_cons hfree h with h | h
    · exact ⟨xs, List.mem_cons_self, h⟩
    · obtain ⟨piece, hpiece, hpart⟩ := ih h
      exact ⟨piece, List.mem_cons_of_mem xs hpiece, hpart⟩

theorem splitOn_lines {lines : List CStr} (h : ∀ line ∈ lines, '\n' ∉ line) :
    (lines.flatMap (· ++ ['\n'])).splitOn '\n' = lines ++ [[]] := by
  induction lines with
  | nil => rfl
  | cons line lines ih =>
    rw [List.flatMap_cons, List.append_assoc, List.singleton_append,
      List.splitOn_append_cons_self, List.splitOn_eq_singleton (h line List.mem_cons_self),
      ih fun l hl => h l (List.mem_cons_of_mem line hl)]
    rfl

theorem mem_splitOn_lines {lines : List CStr} (hmem : line ∈ lines) (hline : '\n' ∉ line) :
    line ∈ (lines.flatMap (· ++ ['\n'])).splitOn '\n' := by
  induction lines with
  | nil => cases hmem
  | cons first lines ih =>
    rw [List.flatMap_cons, List.append_assoc, List.singleton_append,
      List.splitOn_append_cons_self, List.mem_append]
    rcases List.mem_cons.1 hmem with rfl | hmem
    · rw [List.splitOn_eq_singleton hline]
      exact Or.inl List.mem_cons_self
    · exact Or.inr (ih hmem)

end CString
