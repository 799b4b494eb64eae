import ApiGateway.Proofs.App.Loaded
import ApiGateway.Proofs.Config.Sections

/-!
# Text that all readers take alike

Readers of INI text part ways over a line without `=`, a key without a section, a key that comes
twice, a section without keys, the marks of other dialects, and numbers as truth values.  They agree
on text in which nothing of this occurs, and so the settings in such a text do not depend on the
reader.

* `Ini.Covered`, `Settings.Covered`   the text that readers agree on;
* `Ini.Reader.Faithful`      a reader that goes by such text;
* `Ini.Reader.strict`        one that differs elsewhere;
* `Settings.load_faithful`   all of them load the same settings, or fail alike.
-/

namespace ApiGateway
namespace Ini

/-- The line keeps to its form: it has nothing behind a `]`, and a key, one `=` and no comment. -/
def Clean (l : List Char) : Line → Prop
  | .blank => Blank l ∨ (l.dropWhile isBlank).head? = some ';'
  | .opening _ => l.count ']' = 1 ∧ (trim l).getLast? = some ']'
  | .unclosed => True
  | .entry key _ => key ≠ "" ∧ l.count '=' = 1 ∧ ';' ∉ l

instance (l : List Char) : (line : Line) → Decidable (Clean l line)
  | .blank => inferInstanceAs (Decidable (_ ∨ _))
  | .opening _ => inferInstanceAs (Decidable (_ ∧ _))
  | .unclosed => inferInstanceAs (Decidable True)
  | .entry _ _ => inferInstanceAs (Decidable (_ ∧ _))

/-- The section has keys, and none of them twice. -/
def Section.Clean (s : Section) : Prop :=
  s.entries ≠ [] ∧ (s.entries.map (·.1)).Nodup

instance (s : Section) : Decidable s.Clean :=
  inferInstanceAs (Decidable (_ ∧ _))

/-- A mark of another dialect, or white space that is not a blank. -/
def isForeign (c : Char) : Bool :=
  c == '#' || c == '"' || c == '\r' || c == '\x0b' || c == '\x0c'

/-- Text that readers agree on. -/
structure Covered (text : String) : Prop where
  marks : text.toList.any isForeign = false
  lines : ∀ l ∈ lines text.toList, Clean l (Line.ofChars l)
  above : ∀ found ∈ collect (said text), found.1 = []
  names : (names text).Nodup
  sections : ∀ sections ∈ parse? text, ∀ s ∈ sections, s.Clean

instance (text : String) : Decidable (Covered text) :=
  decidable_of_iff (text.toList.any isForeign = false ∧
      (∀ l ∈ Ini.lines text.toList, Clean l (Line.ofChars l)) ∧
      (∀ found ∈ collect (said text), found.1 = []) ∧ (Ini.names text).Nodup ∧
      ∀ sections ∈ parse? text, ∀ s ∈ sections, s.Clean)
    ⟨fun ⟨h1, h2, h3, h4, h5⟩ => ⟨h1, h2, h3, h4, h5⟩,
      fun ⟨h1, h2, h3, h4, h5⟩ => ⟨h1, h2, h3, h4, h5⟩⟩

/-- Nothing but letters. -/
def Letters (w : String) : Prop :=
  ∀ c ∈ w.toList, c.isAlpha = true

instance (w : String) : Decidable (Letters w) :=
  List.decidableBAll _ _

namespace Reader

/-- The reader finds what there is in text that readers agree on, and takes no word of letters for
a truth value but `true` and `false`. -/
structure Faithful (r : Reader) : Prop where
  sections : ∀ text, Covered text → r.sections text = parse? text
  truth : ∀ w, Letters w → r.truth w = truth? w

/-- A reader that refuses a line which does not keep to its form and a key that comes twice, and
takes numbers for truth values. -/
def strict : Reader where
  sections text := (parse? text).filter fun sections =>
    (∀ l ∈ lines text.toList, Clean l (Line.ofChars l)) ∧
      ∀ s ∈ sections, (s.entries.map (·.1)).Nodup
  truth w := if w = "1" then some true else if w = "0" then some false else truth? w

theorem faithful_strict : strict.Faithful where
  sections text h := by
    show (parse? text).filter _ = parse? text
    cases hparse : parse? text with
    | none => rfl
    | some sections =>
      have hkeys : ∀ s ∈ sections, (s.entries.map (·.1)).Nodup := fun s hs =>
        (h.sections sections hparse s hs).2
      exact if_pos (decide_eq_true ⟨h.lines, hkeys⟩)
  truth w h := by
    have hone : w ≠ "1" := by
      rintro rfl
      exact absurd h (by decide)
    have hzero : w ≠ "0" := by
      rintro rfl
      exact absurd h (by decide)
    show (if w = "1" then _ else _) = _
    rw [if_neg hone, if_neg hzero]

end Reader
end Ini

namespace Settings

/-- Text that readers agree on, with words where settings are to be truth values. -/
structure Covered (text : String) : Prop where
  agreed : Ini.Covered text
  words : ∀ sections ∈ Ini.parse? text, ∀ s ∈ sections,
    ∀ key ∈ ["response_time_header", "enabled"], ∀ w ∈ s.get? key, Ini.Letters w

instance (text : String) : Decidable (Covered text) :=
  decidable_of_iff (Ini.Covered text ∧ ∀ sections ∈ Ini.parse? text, ∀ s ∈ sections,
      ∀ key ∈ ["response_time_header", "enabled"], ∀ w ∈ s.get? key, Ini.Letters w)
    ⟨fun h => ⟨h.1, h.2⟩, fun h => ⟨h.agreed, h.words⟩⟩

section
variable {r : Ini.Reader} (hr : r.Faithful)
include hr

theorem readBool_faithful {s : Ini.Section} {key : String} (h : ∀ w ∈ s.get? key, Ini.Letters w)
    (default : Bool) : readBool s key default r = readBool s key default := by
  unfold readBool
  cases hvalue : s.get? key with
  | none => rfl
  | some w =>
    dsimp only
    rw [hr.truth w (h w hvalue), Ini.Reader.truth_plain]

theorem readTimeHeader_faithful {s : Option Ini.Section}
    (h : ∀ s' ∈ s, ∀ w ∈ s'.get? "response_time_header", Ini.Letters w) :
    readTimeHeader s r = readTimeHeader s := by
  cases s with
  | none => rfl
  | some s => exact readBool_faithful hr (h s rfl) true

theorem readApis_faithful {sections : List Ini.Section}
    (h : ∀ s ∈ sections, ∀ w ∈ s.get? "enabled", Ini.Letters w) :
    readApis sections r = readApis sections := by
  induction sections with
  | nil => rfl
  | cons s rest ih =>
    obtain ⟨hs, hrest⟩ := List.forall_mem_cons.mp h
    have hapi (id : String) : readApi id s r = readApi id s := by
      unfold readApi
      rw [readBool_faithful hr hs]
    rw [readApis, readApis, ih hrest]
    simp only [hapi]

/-- All faithful readers find the same settings in text that readers agree on, or the same fault. -/
theorem load_faithful {text : String} (h : Covered text) (origin : String) :
    load origin text r = load origin text := by
  have hread : read text r = read text := by
    unfold read
    rw [hr.sections text h.agreed, Ini.Reader.sections_plain]
    cases hparse : Ini.parse? text with
    | none => rfl
    | some sections =>
      have hwords := h.words sections hparse
      have hheader := readTimeHeader_faithful hr (s := sections.find? (·.name == "reactor"))
        fun s hs => hwords s (List.mem_of_find?_eq_some hs) _ (by decide)
      have hapis := readApis_faithful hr fun s hs => hwords s hs "enabled" (by decide)
      dsimp only
      unfold ofSections
      rw [hheader, hapis]
  unfold load
  rw [hread]

end
end Settings
end ApiGateway
