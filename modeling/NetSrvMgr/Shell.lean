import Mathlib.Data.List.Basic

namespace Shell
set_option autoImplicit true

/-- Where in a command line the shell stands: between words, in a word, in double quotes, or
after a backslash in double quotes. -/
inductive Mode where
  | blank
  | word
  | quoted
  | escape
  deriving DecidableEq

def isBlank (c : Char) : Bool := c = ' ' || c = '\t'

def isMeta (c : Char) : Bool :=
  c ∈ ['|', '&', ';', '<', '>', '(', ')', '$', '`', '\\', '"', '\'', '\n', '*', '?', '[', '#', '~',
    '=', '%']

def isPlain (c : Char) : Bool := !isBlank c && !isMeta c

/-- The characters that keep a meaning to the shell inside double quotes. -/
def isQuoteMeta (c : Char) : Bool := c ∈ ['"', '$', '`', '\\']

def push (c : Char) : List (List Char) → List (List Char)
  | [] => [[c]]
  | w :: ws => (c :: w) :: ws

/-- The words from a position on; the first of them continues the word the position is in. -/
def lex : Mode → List Char → Option (List (List Char))
  | .blank, [] => some []
  | .word, [] => some [[]]
  | .quoted, [] => none
  | .escape, [] => none
  | .blank, c :: cs =>
    if isBlank c then lex .blank cs
    else if c = '"' then lex .quoted cs
    else if isPlain c then (lex .word cs).map (push c)
    else none
  | .word, c :: cs =>
    if isBlank c then (lex .blank cs).map ([] :: ·)
    else if c = '"' then lex .quoted cs
    else if isPlain c then (lex .word cs).map (push c)
    else none
  | .quoted, c :: cs =>
    if c = '"' then lex .word cs
    else if c = '\\' then lex .escape cs
    else if c = '$' || c = '`' then none
    else (lex .quoted cs).map (push c)
  | .escape, c :: cs =>
    if isQuoteMeta c then (lex .quoted cs).map (push c)
    else if c = '\n' then lex .quoted cs
    else (lex .quoted cs).map (push '\\' ∘ push c)

/-- The argument vector of a command line that is one simple command of literal words, under
the quoting rules of the POSIX shell; `none` for any other line. -/
def argv (line : List Char) : Option (List (List Char)) := lex .blank line

def QuoteSafe (s : List Char) : Prop := ∀ c ∈ s, isQuoteMeta c = false

def Plain (s : List Char) : Prop := ∀ c ∈ s, isPlain c = true

instance (s : List Char) : Decidable (QuoteSafe s) :=
  decidable_of_iff (s.all fun c => !isQuoteMeta c) (by
    simp only [List.all_eq_true, Bool.not_eq_true', QuoteSafe])

instance (s : List Char) : Decidable (Plain s) :=
  decidable_of_iff (s.all isPlain) List.all_eq_true

def dquote (s : List Char) : List Char := '"' :: (s ++ ['"'])

def pushAll (s : List Char) (ws : List (List Char)) : List (List Char) := s.foldr push ws

theorem QuoteSafe.of_cons (h : QuoteSafe (c :: s)) : isQuoteMeta c = false ∧ QuoteSafe s :=
  ⟨h c (List.mem_cons_self), fun d hd => h d (List.mem_cons_of_mem c hd)⟩

theorem Plain.of_cons (h : Plain (c :: s)) : isPlain c = true ∧ Plain s :=
  ⟨h c (List.mem_cons_self), fun d hd => h d (List.mem_cons_of_mem c hd)⟩

theorem isPlain_iff : isPlain c = true ↔ isBlank c = false ∧ isMeta c = false := by
  rw [isPlain, Bool.and_eq_true, Bool.not_eq_true', Bool.not_eq_true']

theorem ne_quote_of_isPlain (h : isPlain c = true) : c ≠ '"' := by
  rintro rfl
  exact absurd h (by decide)

theorem lex_quoted_cons (h : isQuoteMeta c = false) :
    lex .quoted (c :: rest) = (lex .quoted rest).map (push c) := by
  simp only [isQuoteMeta, List.mem_cons, List.not_mem_nil, or_false, decide_eq_false_iff_not,
    not_or] at h
  obtain ⟨h₁, h₂, h₃, h₄⟩ := h
  simp only [lex, h₁, h₂, h₃, h₄, if_false, decide_false, Bool.or_self, Bool.false_eq_true]

theorem lex_quoted_append (h : QuoteSafe s) :
    lex .quoted (s ++ rest) = (lex .quoted rest).map (pushAll s) := by
  induction s with
  | nil => exact (congrFun Option.map_id (lex .quoted rest)).symm
  | cons c s ih =>
    obtain ⟨hc, hs⟩ := h.of_cons
    rw [List.cons_append, lex_quoted_cons hc, ih hs, Option.map_map]
    rfl

theorem lex_word_append (h : Plain s) :
    lex .word (s ++ rest) = (lex .word rest).map (pushAll s) := by
  induction s with
  | nil => exact (congrFun Option.map_id (lex .word rest)).symm
  | cons c s ih =>
    obtain ⟨hc, hs⟩ := h.of_cons
    rw [List.cons_append, lex, if_neg, if_neg (ne_quote_of_isPlain hc), if_pos hc, ih hs,
      Option.map_map]
    · rfl
    · rw [(isPlain_iff.1 hc).1]
      exact Bool.false_ne_true

theorem lex_blank_append (h : Plain s) (hs : s ≠ []) :
    lex .blank (s ++ rest) = (lex .word rest).map (pushAll s) := by
  cases s with
  | nil => exact absurd rfl hs
  | cons c s =>
    obtain ⟨hc, hs⟩ := h.of_cons
    rw [List.cons_append, lex, if_neg, if_neg (ne_quote_of_isPlain hc), if_pos hc,
      lex_word_append hs, Option.map_map]
    · rfl
    · rw [(isPlain_iff.1 hc).1]
      exact Bool.false_ne_true

theorem pushAll_nil_cons (s : List Char) (ws : List (List Char)) :
    pushAll s ([] :: ws) = s :: ws := by
  induction s with
  | nil => rfl
  | cons c s ih =>
    rw [pushAll] at ih
    rw [pushAll, List.foldr_cons, ih]
    rfl

@[simp] theorem lex_word_space : lex .word (' ' :: rest) = (lex .blank rest).map ([] :: ·) := rfl

theorem argv_plain_space (h : Plain s) (hs : s ≠ []) :
    argv (s ++ ' ' :: rest) = (argv rest).map (s :: ·) := by
  rw [argv, lex_blank_append h hs, lex_word_space, Option.map_map]
  simp only [Function.comp_def, pushAll_nil_cons, argv]

theorem argv_plain (h : Plain s) (hs : s ≠ []) : argv s = some [s] := by
  have hlex : lex .blank (s ++ []) = (lex .word []).map (pushAll s) := lex_blank_append h hs
  rw [List.append_nil] at hlex
  rw [argv, hlex, lex, Option.map_some, pushAll_nil_cons]

theorem lex_blank_dquote (h : QuoteSafe s) :
    lex .blank (dquote s ++ rest) = (lex .word rest).map (pushAll s) := by
  have hq : lex .quoted ('"' :: rest) = lex .word rest := rfl
  calc lex .blank (dquote s ++ rest)
      = lex .quoted (s ++ '"' :: rest) := by
        rw [dquote, List.cons_append, List.append_assoc]
        rfl
    _ = (lex .word rest).map (pushAll s) := by rw [lex_quoted_append h, hq]

theorem lex_word_dquotes (h : ∀ s ∈ ss, QuoteSafe s) :
    lex .word (ss.flatMap fun s => ' ' :: dquote s) = some ([] :: ss) := by
  induction ss with
  | nil => rfl
  | cons s ss ih =>
    have hss := ih fun t ht => h t (List.mem_cons_of_mem s ht)
    rw [List.flatMap_cons, List.cons_append, lex_word_space,
      lex_blank_dquote (h s (List.mem_cons_self)), hss, Option.map_some, Option.map_some,
      pushAll_nil_cons]

/-- A command with double-quoted arguments parses to exactly these arguments. -/
theorem argv_dquotes (hc : Plain cmd) (hne : cmd ≠ []) (h : ∀ s ∈ ss, QuoteSafe s) :
    argv (cmd ++ ss.flatMap fun s => ' ' :: dquote s) = some (cmd :: ss) := by
  rw [argv, lex_blank_append hc hne, lex_word_dquotes h, Option.map_some, pushAll_nil_cons]

theorem argv_plain_words (h : ∀ w ∈ ws, Plain w ∧ w ≠ []) :
    argv (ws.flatMap (fun w => w ++ [' ']) ++ rest) = (argv rest).map (ws ++ ·) := by
  induction ws with
  | nil => exact (congrFun Option.map_id (argv rest)).symm
  | cons w ws ih =>
    obtain ⟨hw, hne⟩ := h w List.mem_cons_self
    have hws := ih fun v hv => h v (List.mem_cons_of_mem w hv)
    rw [List.flatMap_cons, List.append_assoc, List.append_assoc, List.singleton_append,
      argv_plain_space hw hne, hws, Option.map_map]
    rfl

end Shell
