import ApiGateway.Proofs.Config.Lines

/-!
# The sections of an INI text

Sections are read from the last line up, so a text that is cut in front of a section line has the
sections of the upper part and then those of the lower part.  Lines that say nothing can be left
out.

* `Ini.collect_append`          a text in two parts;
* `Ini.Regular`                 section lines are closed, and no two sections have one name;
* `Ini.parse?_eq_none_iff`      what makes a text malformed;
* `Ini.parse?_of_regular`       the sections stand in the order of their section lines;
* `Ini.parse?_written`          sections that are written are read back.
-/

namespace ApiGateway
namespace Ini

/-! ### One line more -/

section
variable (rest : List Line)

@[simp]
theorem collect_blank : collect (.blank :: rest) = collect rest := by
  cases h : collect rest <;> simp [collect, h]

@[simp]
theorem collect_unclosed : collect (.unclosed :: rest) = none := by
  cases h : collect rest <;> simp [collect, h]

@[simp]
theorem collect_entry (key value : String) : collect (.entry key value :: rest) =
    (collect rest).map fun found => ((key, value) :: found.1, found.2) := by
  cases h : collect rest <;> simp [collect, h]

@[simp]
theorem collect_opening (name : String) : collect (.opening name :: rest) =
    (collect rest).map fun found => ([], ⟨name, found.1⟩ :: found.2) := by
  cases h : collect rest <;> simp [collect, h]

end

theorem collect_eq_none_iff {ls : List Line} : collect ls = none ↔ .unclosed ∈ ls := by
  induction ls with
  | nil => simp [collect]
  | cons l rest ih => cases l <;> simp [ih]

/-- The lines that say nothing can be left out. -/
theorem collect_filter (ls : List Line) : collect (ls.filter (· != .blank)) = collect ls := by
  induction ls with
  | nil => rfl
  | cons l rest ih => cases l <;> simp [ih]

/-- A text that is cut in front of a section line. -/
theorem collect_append {a b : List Line} {below : List Section}
    (hb : collect b = some ([], below)) :
    collect (a ++ b) = (collect a).map fun found => (found.1, found.2 ++ below) := by
  induction a with
  | nil => simp [collect, hb]
  | cons l rest ih => cases l <;> simp [ih, Function.comp_def]

/-- The lines of the section that is under way when the lines below are read. -/
theorem collect_inner {body : List Line} (hb : ∀ l ∈ body, l = .blank ∨ ∃ k v, l = .entry k v) :
    ∃ entries, ∀ below, collect (body ++ below) =
      (collect below).map fun found => (entries ++ found.1, found.2) := by
  induction body with
  | nil => exact ⟨[], fun below => by simp⟩
  | cons l rest ih =>
    obtain ⟨entries, hrest⟩ := ih fun l' hl' => hb l' (List.mem_cons_of_mem _ hl')
    rcases hb l List.mem_cons_self with rfl | ⟨k, v, rfl⟩
    · exact ⟨entries, fun below => by simp [hrest]⟩
    · exact ⟨(k, v) :: entries, fun below => by simp [hrest, Function.comp_def]⟩

/-! ### The names -/

/-- The name that a section line gives. -/
def Line.name? : Line → Option String
  | .opening name => some name
  | _ => none

theorem names_collect {ls : List Line} {above : List (String × String)} {sections : List Section}
    (h : collect ls = some (above, sections)) :
    sections.map (·.name) = ls.filterMap Line.name? := by
  induction ls generalizing above sections with
  | nil =>
    cases h
    rfl
  | cons l rest ih =>
    cases l with
    | blank =>
      rw [collect_blank] at h
      exact ih h
    | unclosed => simp at h
    | entry k v =>
      rw [collect_entry] at h
      obtain ⟨below, hbelow, heq⟩ := Option.map_eq_some_iff.mp h
      cases heq
      exact ih hbelow
    | opening name =>
      rw [collect_opening] at h
      obtain ⟨below, hbelow, heq⟩ := Option.map_eq_some_iff.mp h
      cases heq
      exact congrArg (name :: ·) (ih hbelow)

/-- What the lines of a text say. -/
def said (text : String) : List Line :=
  (lines text.toList).map Line.ofChars

/-- The names that the section lines of a text give, in their order. -/
def names (text : String) : List String :=
  (said text).filterMap Line.name?

/-- Every section line is closed, and no two sections have one name. -/
structure Regular (text : String) : Prop where
  closed : ∀ l ∈ lines text.toList, ¬ Unclosed l
  distinct : (names text).Nodup

instance (text : String) : Decidable (Regular text) :=
  decidable_of_iff ((∀ l ∈ lines text.toList, ¬ Unclosed l) ∧ (names text).Nodup)
    ⟨fun h => ⟨h.1, h.2⟩, fun h => ⟨h.closed, h.distinct⟩⟩

theorem unclosed_mem_said {text : String} :
    .unclosed ∈ said text ↔ ∃ l ∈ lines text.toList, Unclosed l := by
  unfold said
  simp only [List.mem_map, ofChars_eq_unclosed_iff]

theorem parse?_eq_some_iff {text : String} {sections : List Section} :
    parse? text = some sections ↔
      (∃ above, collect (said text) = some (above, sections)) ∧
        (sections.map (·.name)).Nodup := by
  unfold parse?
  rw [Option.filter_eq_some_iff, Option.map_eq_some_iff, decide_eq_true_iff]
  constructor
  · rintro ⟨⟨found, hfound, rfl⟩, hn⟩
    exact ⟨⟨found.1, hfound⟩, hn⟩
  · rintro ⟨⟨above, habove⟩, hn⟩
    exact ⟨⟨_, habove, rfl⟩, hn⟩

section
variable {text : String}

theorem collect_of_regular (h : Regular text) :
    ∃ above sections, collect (said text) = some (above, sections) ∧
      parse? text = some sections ∧ sections.map (·.name) = names text := by
  cases hfound : collect (said text) with
  | none =>
    obtain ⟨l, hl, hopen⟩ := unclosed_mem_said.mp (collect_eq_none_iff.mp hfound)
    exact absurd hopen (h.closed l hl)
  | some found =>
    have hnames := names_collect hfound
    refine ⟨found.1, found.2, rfl, parse?_eq_some_iff.mpr ⟨⟨found.1, hfound⟩, ?_⟩, hnames⟩
    rw [hnames]
    exact h.distinct

theorem parse?_of_regular (h : Regular text) :
    ∃ sections, parse? text = some sections ∧ sections.map (·.name) = names text := by
  obtain ⟨-, sections, -, hparse, hnames⟩ := collect_of_regular h
  exact ⟨sections, hparse, hnames⟩

/-- A text whose sections have different names is malformed if a section line is not closed, and
only then. -/
theorem parse?_eq_none_iff (hd : (names text).Nodup) :
    parse? text = none ↔ ∃ l ∈ lines text.toList, Unclosed l := by
  constructor
  · intro hnone
    by_contra hall
    obtain ⟨sections, hsome, -⟩ :=
      parse?_of_regular ⟨fun l hl hopen => hall ⟨l, hl, hopen⟩, hd⟩
    rw [hnone] at hsome
    cases hsome
  · intro hopen
    have hnone := collect_eq_none_iff.mpr (unclosed_mem_said.mpr hopen)
    cases hparse : parse? text with
    | none => rfl
    | some sections =>
      obtain ⟨⟨above, habove⟩, -⟩ := parse?_eq_some_iff.mp hparse
      rw [hnone] at habove
      cases habove

end

/-! ### Sections that are written -/

/-- The lines of a section: its name, and below it its keys with their values. -/
def Section.lines (s : Section) : List Line :=
  .opening s.name :: s.entries.map fun e => .entry e.1 e.2

theorem collect_entries (entries : List (String × String)) :
    collect (entries.map fun e => .entry e.1 e.2) = some (entries, []) := by
  induction entries with
  | nil => rfl
  | cons e rest ih => simp [ih]

theorem collect_lines (sections : List Section) :
    collect (sections.flatMap Section.lines) = some ([], sections) := by
  induction sections with
  | nil => rfl
  | cons s rest ih =>
    rw [List.flatMap_cons, collect_append ih, Section.lines, collect_opening, collect_entries]
    rfl

/-- The text says the lines, each in some way, and may end with a line break. -/
def Written (said : List Line) (text : String) : Prop :=
  ∃ ls, List.Forall₂ Writes said ls ∧ (text = textOf ls ∨ text = textOf (ls ++ [[]]))

theorem forall_reads {said : List Line} {ls : List (List Char)} (hw : List.Forall₂ Writes said ls)
    (h : ∀ l ∈ said, Writable l) : ls.map Line.ofChars = said ∧ ∀ l ∈ ls, '\n' ∉ l := by
  induction hw with
  | nil => exact ⟨rfl, fun _ hl => absurd hl List.not_mem_nil⟩
  | @cons line l said ls hl _ ih =>
    obtain ⟨hthis, hbreak⟩ := hl.reads (h line List.mem_cons_self)
    obtain ⟨hrest, hbreaks⟩ := ih fun l hl => h l (List.mem_cons_of_mem _ hl)
    rw [List.map_cons, hthis, hrest]
    exact ⟨rfl, List.forall_mem_cons.mpr ⟨hbreak, hbreaks⟩⟩

/-- A text that was written says what was written, and at most one line more that says nothing. -/
theorem said_written {lines : List Line} {text : String} (hw : Written lines text)
    (h : ∀ l ∈ lines, Writable l) (hne : lines ≠ []) :
    said text = lines ∨ said text = lines ++ [.blank] := by
  obtain ⟨ls, hls, htext⟩ := hw
  obtain ⟨hreads, hbreak⟩ := forall_reads hls h
  have hnonempty : ls ≠ [] := by
    rintro rfl
    exact hne hreads.symm
  unfold said
  rcases htext with rfl | rfl
  · exact .inl (by rw [lines_textOf hnonempty hbreak, hreads])
  · have hlast : ∀ l ∈ ls ++ [[]], '\n' ∉ l := by
      intro l hl
      rcases List.mem_append.mp hl with hl | hl
      · exact hbreak l hl
      · rw [List.mem_singleton.mp hl]
        exact List.not_mem_nil
    refine .inr ?_
    rw [lines_textOf (List.append_ne_nil_of_left_ne_nil hnonempty _) hlast, List.map_append, hreads]
    rfl

theorem parse?_written {sections : List Section} {text : String}
    (hw : Written (sections.flatMap Section.lines) text)
    (h : ∀ l ∈ sections.flatMap Section.lines, Writable l) (hne : sections ≠ [])
    (hn : (sections.map (·.name)).Nodup) : parse? text = some sections := by
  have hlines : sections.flatMap Section.lines ≠ [] := by
    obtain ⟨s, rest, rfl⟩ := List.exists_cons_of_ne_nil hne
    exact List.cons_ne_nil _ _
  refine parse?_eq_some_iff.mpr ⟨⟨[], ?_⟩, hn⟩
  rcases said_written hw h hlines with hsaid | hsaid
  · rw [hsaid, collect_lines]
  · have hblank : collect [.blank] = some ([], []) := rfl
    rw [hsaid, collect_append hblank, collect_lines, Option.map_some, List.append_nil]

end Ini
end ApiGateway
