import Mathlib.Data.List.DropRight
import ApiGateway.Config.Ini
import ApiGateway.Proofs.Text.Separators

/-!
# The lines of an INI text

What a line says depends on its first character that is no blank: `[` opens a section, `;` makes a
comment, and any other line is cut at its first `=`.  Blanks around the line and around its parts
have no say.

* `Ini.lines_textOf`     lines that stand below one another are the lines of their text;
* `Ini.trim_pad`         blanks around a text are dropped;
* `Ini.Unclosed`         the lines that open a section and have no `]`;
* `Ini.Writes`           the ways to write a line, with `Writes.reads`: it says what was written.
-/

namespace ApiGateway
namespace Ini

/-! ### Texts and lines -/

theorem lines_eq_splitOn (s : List Char) : lines s = s.splitOn '\n' := by
  induction s with
  | nil => rfl
  | cons c rest ih =>
    rw [List.splitOn_cons_eq_if_modifyHead]
    by_cases hc : c = '\n'
    · subst hc
      rw [if_pos (beq_self_eq_true _), ← ih]
      rfl
    · rw [if_neg (by simpa using hc), lines.eq_3 c rest hc, ih]
      cases hsplit : rest.splitOn '\n' with
      | nil => exact absurd hsplit (List.splitOn_ne_nil _ _)
      | cons l more => rfl

/-- The text of lines that stand below one another. -/
def textOf (ls : List (List Char)) : String :=
  String.ofList (['\n'].intercalate ls)

theorem lines_textOf {ls : List (List Char)} (hne : ls ≠ []) (hbreak : ∀ l ∈ ls, '\n' ∉ l) :
    lines (textOf ls).toList = ls := by
  unfold textOf
  rw [String.toList_ofList, lines_eq_splitOn, List.splitOn_intercalate _ hbreak hne]

/-! ### Blanks -/

/-- Nothing but blanks. -/
def Blank (s : List Char) : Prop :=
  ∀ c ∈ s, isBlank c = true

instance (s : List Char) : Decidable (Blank s) :=
  List.decidableBAll _ s

/-- No blank at either end. -/
def Trimmed (s : List Char) : Prop :=
  (∀ c ∈ s.head?, isBlank c = false) ∧ ∀ c ∈ s.getLast?, isBlank c = false

-- By the end that there is, and not by a search through all characters.
instance (s : List Char) : Decidable (Trimmed s) :=
  @instDecidableAnd _ _ (Option.decidableForallMem s.head?) (Option.decidableForallMem s.getLast?)

theorem trim_eq (s : List Char) : trim s = (s.dropWhile isBlank).rdropWhile isBlank := rfl

theorem not_isBlank {c : Char} (hc : isBlank c = false) : ¬ isBlank c = true := by
  rw [hc]
  exact Bool.false_ne_true

theorem rdropWhile_append_cons {c : Char} (hc : isBlank c = false) (a b : List Char) :
    (a ++ c :: b).rdropWhile isBlank = a ++ c :: b.rdropWhile isBlank := by
  induction b using List.reverseRecOn with
  | nil => rw [List.rdropWhile_concat_neg _ _ _ (not_isBlank hc), List.rdropWhile_nil]
  | append_singleton b x ih =>
    have hassoc : a ++ c :: (b ++ [x]) = (a ++ c :: b) ++ [x] := by
      rw [List.append_assoc, List.cons_append]
    rw [hassoc, List.rdropWhile_concat, List.rdropWhile_concat]
    by_cases hx : isBlank x = true
    · rw [if_pos hx, if_pos hx, ih]
    · rw [if_neg hx, if_neg hx, hassoc]

/-- Around a character that is no blank, trimming drops the blanks at the start of what precedes it
and at the end of what follows. -/
theorem trim_append_cons {c : Char} (hc : isBlank c = false) (a b : List Char) :
    trim (a ++ c :: b) = a.dropWhile isBlank ++ c :: b.rdropWhile isBlank := by
  have hdrop : (a ++ c :: b).dropWhile isBlank = a.dropWhile isBlank ++ c :: b := by
    rw [List.dropWhile_append]
    by_cases ha : (a.dropWhile isBlank).isEmpty = true
    · rw [if_pos ha, List.dropWhile_cons_of_neg (not_isBlank hc), List.isEmpty_iff.mp ha,
        List.nil_append]
    · rw [if_neg ha]
  rw [trim_eq, hdrop, rdropWhile_append_cons hc]

theorem trim_blank {s : List Char} (h : Blank s) : trim s = [] := by
  rw [trim_eq, List.dropWhile_eq_nil_iff.mpr h, List.rdropWhile_nil]

theorem trim_dropWhile (s : List Char) : trim (s.dropWhile isBlank) = trim s := by
  rw [trim_eq, List.dropWhile_idempotent, trim_eq]

/-- A text is blank, or it has a first character that is none. -/
theorem blank_or_append_cons (s : List Char) :
    Blank s ∨ ∃ pre c rest, Blank pre ∧ isBlank c = false ∧ s = pre ++ c :: rest := by
  cases hdrop : s.dropWhile isBlank with
  | nil => exact .inl (List.dropWhile_eq_nil_iff.mp hdrop)
  | cons c rest =>
    have hhead := List.head?_dropWhile_not isBlank s
    rw [hdrop] at hhead
    refine .inr ⟨s.takeWhile isBlank, c, rest, fun x hx => List.mem_takeWhile_imp hx, hhead, ?_⟩
    rw [← hdrop, List.takeWhile_append_dropWhile]

theorem trim_rdropWhile (s : List Char) : trim (s.rdropWhile isBlank) = trim s := by
  rcases blank_or_append_cons s with hs | ⟨pre, c, rest, -, hc, rfl⟩
  · rw [List.rdropWhile_eq_nil_iff.mpr hs, trim_blank hs]
    rfl
  · rw [rdropWhile_append_cons hc, trim_append_cons hc, trim_append_cons hc,
      List.rdropWhile_idempotent]

theorem trim_pad {pre s post : List Char} (hpre : Blank pre) (hs : Trimmed s) (hpost : Blank post) :
    trim (pre ++ s ++ post) = s := by
  have hself : s.rdropWhile isBlank = s := by
    refine List.rdropWhile_eq_self_iff.mpr fun hne => not_isBlank (hs.2 _ ?_)
    exact List.getLast?_eq_getLast_of_ne_nil hne
  have hstart : (s ++ post).rdropWhile isBlank = s := by
    have hrev : (s ++ post).rdropWhile isBlank = s.rdropWhile isBlank := by
      unfold List.rdropWhile
      rw [List.reverse_append, List.dropWhile_append_of_pos fun c hc =>
        hpost c (List.mem_reverse.mp hc)]
    rw [hrev, hself]
  cases hcase : s with
  | nil =>
    rw [List.append_nil]
    exact trim_blank fun c hc => (List.mem_append.mp hc).elim (hpre c) (hpost c)
  | cons c rest =>
    have hc : isBlank c = false := hs.1 c (by rw [hcase]; rfl)
    rw [hcase] at hstart
    rw [trim_eq, List.append_assoc, List.dropWhile_append_of_pos hpre, List.cons_append,
      List.dropWhile_cons_of_neg (not_isBlank hc)]
    exact hstart

/-! ### What a line says -/

theorem mem_rdropWhile {c : Char} (hc : isBlank c = false) {s : List Char} :
    c ∈ s.rdropWhile isBlank ↔ c ∈ s := by
  constructor
  · exact fun h => (List.rdropWhile_prefix isBlank s).subset h
  · intro h
    obtain ⟨a, b, rfl⟩ := List.append_of_mem h
    rw [rdropWhile_append_cons hc]
    exact List.mem_append_right a List.mem_cons_self

theorem dropWhile_pad {pre : List Char} (hpre : Blank pre) {c : Char} (hc : isBlank c = false)
    (rest : List Char) : (pre ++ c :: rest).dropWhile isBlank = c :: rest := by
  rw [List.dropWhile_append_of_pos hpre, List.dropWhile_cons_of_neg (not_isBlank hc)]

theorem trim_of_dropWhile {l rest : List Char} {c : Char} (hc : isBlank c = false)
    (h : l.dropWhile isBlank = c :: rest) : trim l = c :: rest.rdropWhile isBlank := by
  rw [← trim_dropWhile, h]
  exact trim_append_cons hc [] rest

theorem head?_trim (l : List Char) : (trim l).head? = (l.dropWhile isBlank).head? := by
  rcases blank_or_append_cons l with hl | ⟨pre, c, rest, hpre, hc, rfl⟩
  · rw [trim_blank hl, List.dropWhile_eq_nil_iff.mpr hl]
  · have hdrop := dropWhile_pad hpre hc rest
    rw [trim_of_dropWhile hc hdrop, hdrop]
    rfl

/-- The line opens a section, or should do so. -/
def Heads (l : List Char) : Prop :=
  (l.dropWhile isBlank).head? = some '['

/-- The line opens a section and has no `]`. -/
def Unclosed (l : List Char) : Prop :=
  Heads l ∧ ']' ∉ l

instance (l : List Char) : Decidable (Heads l) :=
  inferInstanceAs (Decidable (_ = _))

instance (l : List Char) : Decidable (Unclosed l) :=
  inferInstanceAs (Decidable (_ ∧ _))

theorem ofChars_blank {l : List Char} (h : Blank l) : Line.ofChars l = .blank := by
  unfold Line.ofChars
  rw [trim_blank h]

theorem ofChars_comment {l : List Char} (h : (l.dropWhile isBlank).head? = some ';') :
    Line.ofChars l = .blank := by
  obtain ⟨rest, hrest⟩ := List.head?_eq_some_iff.mp h
  unfold Line.ofChars
  rw [trim_of_dropWhile (by decide) hrest]
  rfl

theorem ofChars_bracket {l rest : List Char} (h : l.dropWhile isBlank = '[' :: rest) :
    Line.ofChars l = if ']' ∈ rest then
      .opening (String.ofList (trim ((rest.rdropWhile isBlank).takeWhile (· != ']'))))
      else .unclosed := by
  unfold Line.ofChars
  rw [trim_of_dropWhile (by decide) h]
  exact if_congr (mem_rdropWhile (by decide)) rfl rfl

theorem ofChars_other {l : List Char}
    (h : ∀ c ∈ (trim l).head?, c ≠ '[' ∧ c ≠ ';') (hne : trim l ≠ []) :
    Line.ofChars l = entry? (trim l) := by
  unfold Line.ofChars
  cases htrim : trim l with
  | nil => exact absurd htrim hne
  | cons c rest =>
    rw [htrim] at h
    obtain ⟨hopen, hcomment⟩ := h c rfl
    split
    · next heq => cases heq
    · next heq => exact absurd (List.cons.inj heq).1 hcomment
    · next heq => exact absurd (List.cons.inj heq).1 hopen
    · rfl

theorem entry?_cases (s : List Char) :
    entry? s = .blank ∨ ∃ key value, entry? s = .entry key value := by
  unfold entry?
  by_cases h : '=' ∈ s
  · rw [if_pos h]
    exact .inr ⟨_, _, rfl⟩
  · rw [if_neg h]
    exact .inl rfl

/-- A line that opens no section is blank or an entry. -/
theorem ofChars_inner {l : List Char} (h : ¬ Heads l) :
    Line.ofChars l = .blank ∨ ∃ key value, Line.ofChars l = .entry key value := by
  rcases blank_or_append_cons l with hl | ⟨pre, c, rest, hpre, hc, rfl⟩
  · exact .inl (ofChars_blank hl)
  · unfold Heads at h
    have hdrop := dropWhile_pad hpre hc rest
    rw [hdrop] at h
    by_cases hcomment : c = ';'
    · subst hcomment
      refine .inl (ofChars_comment ?_)
      rw [hdrop]
      rfl
    · have htrim := trim_of_dropWhile hc hdrop
      rw [ofChars_other ?_ ?_]
      · exact entry?_cases _
      · rw [htrim]
        rintro x ⟨⟩
        exact ⟨fun heq => h (congrArg some heq), hcomment⟩
      · rw [htrim]
        exact List.cons_ne_nil _ _

theorem ofChars_eq_unclosed_iff {l : List Char} : Line.ofChars l = .unclosed ↔ Unclosed l := by
  by_cases h : Heads l
  · obtain ⟨rest, hrest⟩ := List.head?_eq_some_iff.mp h
    have hmem : ']' ∈ l ↔ ']' ∈ rest := by
      rw [← List.takeWhile_append_dropWhile (p := isBlank) (l := l), hrest, List.mem_append,
        List.mem_cons]
      constructor
      · rintro (hblank | heq | hmem)
        · exact absurd (List.mem_takeWhile_imp hblank) (by decide)
        · exact absurd heq (by decide)
        · exact hmem
      · exact fun hmem => .inr (.inr hmem)
    rw [ofChars_bracket hrest, Unclosed, hmem]
    by_cases hclose : ']' ∈ rest
    · rw [if_pos hclose]
      exact iff_of_false (fun heq => nomatch heq) fun hnot => hnot.2 hclose
    · rw [if_neg hclose]
      exact iff_of_true rfl ⟨h, hclose⟩
  · constructor
    · intro heq
      rcases ofChars_inner h with hline | ⟨key, value, hline⟩
      · rw [hline] at heq
        cases heq
      · rw [hline] at heq
        cases heq
    · exact fun hnot => absurd hnot.1 h

/-! ### Writing a line -/

/-- The ways to write a line: blanks may stand around it, and around a key and a value. -/
inductive Writes : Line → List Char → Prop
  | opening {name : String} {pre post : List Char} (hpre : Blank pre) (hpost : Blank post) :
    Writes (.opening name) (pre ++ '[' :: (name.toList ++ ']' :: post))
  | entry {key value : String} {a b c d : List Char} (ha : Blank a) (hb : Blank b) (hc : Blank c)
    (hd : Blank d) :
    Writes (.entry key value) ((a ++ key.toList ++ b) ++ '=' :: (c ++ value.toList ++ d))

/-- What keeps to one line and has no blank at either end. -/
def Plain (s : List Char) : Prop :=
  Trimmed s ∧ '\n' ∉ s

/-- A word that can stand in front of a `=`. -/
def IsKey (key : List Char) : Prop :=
  (Plain key ∧ '=' ∉ key) ∧ ∀ c ∈ key.head?, c ≠ '[' ∧ c ≠ ';'

instance (s : List Char) : Decidable (Plain s) :=
  inferInstanceAs (Decidable (_ ∧ _))

instance (key : List Char) : Decidable (IsKey key) :=
  @instDecidableAnd _ _ inferInstance (Option.decidableForallMem key.head?)

/-- A line that can be written. -/
inductive Writable : Line → Prop
  | opening {name : String} (hname : Plain name.toList) (hclose : ']' ∉ name.toList) :
    Writable (.opening name)
  | entry {key value : String} (hkey : IsKey key.toList) (hvalue : Plain value.toList) :
    Writable (.entry key value)

theorem Blank.not_mem {s : List Char} (h : Blank s) {c : Char} (hc : isBlank c = false) : c ∉ s :=
  fun hmem => not_isBlank hc (h c hmem)

/-- A key and a value around a `=` are an entry, if the line does not look like one that opens a
section or a comment. -/
theorem ofChars_entry {a : List Char} (b : List Char) (hequals : '=' ∉ a)
    (hmark : ∀ c ∈ (trim a).head?, c ≠ '[' ∧ c ≠ ';') :
    Line.ofChars (a ++ '=' :: b) = .entry (String.ofList (trim a)) (String.ofList (trim b)) := by
  have htrim := trim_append_cons (c := '=') (by decide) a b
  have hkey : '=' ∉ a.dropWhile isBlank := fun h => hequals ((List.dropWhile_suffix _).subset h)
  have hmem : '=' ∈ trim (a ++ '=' :: b) := by
    rw [htrim]
    exact List.mem_append_right _ List.mem_cons_self
  have hhead : ∀ c ∈ (trim (a ++ '=' :: b)).head?, c ≠ '[' ∧ c ≠ ';' := by
    rw [head?_trim] at hmark
    rw [htrim]
    cases hdrop : a.dropWhile isBlank with
    | nil =>
      rintro c ⟨⟩
      decide
    | cons x rest =>
      rintro c ⟨⟩
      exact hmark x (by rw [hdrop]; rfl)
  rw [ofChars_other hhead (List.ne_nil_of_mem hmem), entry?, if_pos hmem, htrim,
    takeWhile_append_cons hkey, dropWhile_append_cons hkey, List.drop_one, List.tail_cons,
    trim_dropWhile, trim_rdropWhile]

theorem ofChars_opening {pre name : List Char} (post : List Char) (hpre : Blank pre)
    (hclose : ']' ∉ name) :
    Line.ofChars (pre ++ '[' :: (name ++ ']' :: post)) = .opening (String.ofList (trim name)) := by
  have hmem : ']' ∈ name ++ ']' :: post := List.mem_append_right _ List.mem_cons_self
  rw [ofChars_bracket (dropWhile_pad hpre (by decide) _), if_pos hmem,
    rdropWhile_append_cons (by decide), takeWhile_append_cons hclose]

theorem Trimmed.trim {s : List Char} (h : Trimmed s) : trim s = s := by
  have hnil : Blank [] := by decide
  simpa using trim_pad hnil h hnil

/-- A written line says what was written. -/
theorem Writes.reads {line : Line} {l : List Char} (hw : Writes line l) (h : Writable line) :
    Line.ofChars l = line ∧ '\n' ∉ l := by
  have hbreak {s : List Char} (hs : Blank s) : '\n' ∉ s := hs.not_mem (by decide)
  cases hw with
  | opening hpre hpost =>
    obtain ⟨⟨hname, hline⟩, hclose⟩ := h
    constructor
    · rw [ofChars_opening _ hpre hclose, hname.trim, String.ofList_toList]
    · simp [hbreak hpre, hbreak hpost, hline]
  | entry ha hb hc hd =>
    cases h with
    | entry hkey hvalue =>
      obtain ⟨⟨⟨htrimmed, hkeyline⟩, hequals⟩, hmark⟩ := hkey
      obtain ⟨hvalue, hline⟩ := hvalue
      constructor
      · have hpad := trim_pad ha htrimmed hb
        have heq {s : List Char} (hs : Blank s) : '=' ∉ s := hs.not_mem (by decide)
        rw [ofChars_entry, hpad, trim_pad hc hvalue hd, String.ofList_toList, String.ofList_toList]
        · simp [hequals, heq ha, heq hb]
        · rwa [hpad]
      · simp [hbreak ha, hbreak hb, hbreak hc, hbreak hd, hkeyline, hline]

end Ini
end ApiGateway
