import Mathlib.Logic.Relation
import ApiGateway.Proofs.Config.Faults
import ApiGateway.Proofs.Config.Readers

/-!
# What in a text says nothing to the settings

Blank lines and comments, sections and keys that nobody looks up, and the place where the sections
of the log and of the reactor stand have no say in the settings, nor in the fault for which a text
is refused.

* `Settings.knownKeys`      the keys that are looked up in a section;
* `Settings.ofSections_pruned`   all other keys can be left out;
* `Settings.Edit`           a change of the lines of a text in what says nothing;
* `Settings.edit_sections`  the sections before and after it are read alike;
* `Settings.edits_irrelevant`   so are texts with any number of such changes between them.
-/

namespace ApiGateway

/-! ### Texts cut in front of a section line -/

namespace Ini

theorem ofChars_heads {l : List Char} (h : Heads l) :
    Line.ofChars l = .unclosed ∨ ∃ name, Line.ofChars l = .opening name := by
  obtain ⟨rest, hrest⟩ := List.head?_eq_some_iff.mp h
  rw [ofChars_bracket hrest]
  by_cases hclose : ']' ∈ rest
  · rw [if_pos hclose]
    exact .inr ⟨_, rfl⟩
  · rw [if_neg hclose]
    exact .inl rfl

/-- A section as it stands in a text: its section line, and lines below it that are none. -/
def IsSection (name : String) (ls : List (List Char)) : Prop :=
  ∃ head body, ls = head :: body ∧ Line.ofChars head = .opening name ∧ ∀ l ∈ body, ¬ Heads l

/-- The lines begin with a section line, or there are none. -/
def Starts (ls : List (List Char)) : Prop :=
  ∀ l ∈ ls.head?, Heads l

theorem IsSection.starts {name : String} {ls : List (List Char)} (h : IsSection name ls)
    (below : List (List Char)) : Starts (ls ++ below) := by
  obtain ⟨head, body, rfl, hhead, -⟩ := h
  rintro l ⟨⟩
  by_contra hnot
  rcases ofChars_inner hnot with hline | ⟨key, value, hline⟩
  · rw [hhead] at hline
    cases hline
  · rw [hhead] at hline
    cases hline

theorem Starts.append {a b : List (List Char)} (ha : Starts a) (hb : Starts b) :
    Starts (a ++ b) := by
  cases a with
  | nil => exact hb
  | cons l rest => exact ha

/-- The sections of raw lines, and the keys above them. -/
def found (ls : List (List Char)) : Option (List (String × String) × List Section) :=
  collect (ls.map Line.ofChars)

section
variable {a b ls : List (List Char)} {above : List (String × String)} {sections : List Section}

theorem found_blank {l : List Char} (h : Line.ofChars l = .blank) :
    found (a ++ l :: b) = found (a ++ b) := by
  unfold found
  rw [List.map_append, List.map_cons, h, ← collect_filter, List.filter_append,
    List.filter_cons_of_neg (by simp), ← List.filter_append, collect_filter, ← List.map_append]

theorem found_starts (hb : Starts b) (h : found b = some (above, sections)) : above = [] := by
  cases b with
  | nil =>
    cases h
    rfl
  | cons l rest =>
    unfold found at h
    rw [List.map_cons] at h
    rcases ofChars_heads (hb l rfl) with hline | ⟨name, hline⟩
    · rw [hline, collect_unclosed] at h
      cases h
    · rw [hline, collect_opening] at h
      obtain ⟨below, -, heq⟩ := Option.map_eq_some_iff.mp h
      cases heq
      rfl

/-- A text in two parts has the sections of both. -/
theorem found_append (hb : Starts b) (h : found (a ++ b) = some (above, sections)) :
    ∃ upper lower, found a = some (above, upper) ∧ found b = some ([], lower) ∧
      sections = upper ++ lower := by
  unfold found at h
  rw [List.map_append] at h
  cases hlower : found b with
  | none =>
    have hmem := collect_eq_none_iff.mp hlower
    rw [collect_eq_none_iff.mpr (List.mem_append_right _ hmem)] at h
    cases h
  | some lower =>
    have hnil : lower.1 = [] := found_starts hb hlower
    have hbelow : collect (b.map Line.ofChars) = some ([], lower.2) := by
      rw [← hnil]
      exact hlower
    rw [collect_append hbelow] at h
    obtain ⟨upper, hupper, heq⟩ := Option.map_eq_some_iff.mp h
    cases heq
    exact ⟨upper.2, lower.2, hupper, by rw [← hnil], rfl⟩

/-- Two texts that begin alike have the sections of that beginning in common. -/
theorem found_beneath {b' : List (List Char)} {above' : List (String × String)}
    {sections' : List Section} (hb : Starts b) (hb' : Starts b')
    (h : found (a ++ b) = some (above, sections))
    (h' : found (a ++ b') = some (above', sections')) :
    ∃ upper lower lower', found b = some ([], lower) ∧ found b' = some ([], lower') ∧
      sections = upper ++ lower ∧ sections' = upper ++ lower' := by
  obtain ⟨upper, lower, ha, hlower, hsections⟩ := found_append hb h
  obtain ⟨upper', lower', ha', hlower', hsections'⟩ := found_append hb' h'
  rw [ha] at ha'
  cases ha'
  exact ⟨upper, lower, lower', hlower, hlower', hsections, hsections'⟩

/-- The keys of a section go on below the lines that are seen of it. -/
theorem found_section {name : String} (h : IsSection name ls) :
    ∃ entries, ∀ below, found (ls ++ below) =
      (found below).map fun rest => ([], ⟨name, entries ++ rest.1⟩ :: rest.2) := by
  obtain ⟨head, body, rfl, hhead, hbody⟩ := h
  have hinner : ∀ l ∈ body.map Line.ofChars, l = .blank ∨ ∃ k v, l = .entry k v := by
    intro l hl
    obtain ⟨raw, hraw, rfl⟩ := List.mem_map.mp hl
    exact ofChars_inner (hbody raw hraw)
  obtain ⟨entries, hentries⟩ := collect_inner hinner
  refine ⟨entries, fun below => ?_⟩
  unfold found
  rw [List.map_append, List.map_cons, hhead, List.cons_append, collect_opening, hentries,
    Option.map_map]
  rfl

end
end Ini

namespace Settings

/-! ### Keys that are looked up -/

/-- The keys that are looked up in a section of this name. -/
def knownKeys (name : String) : List String :=
  if name = "logging" then ["level", "pattern"]
  else if name = "reactor" then ["response_time_header"]
  else if (apiId? name).isSome then ["name", "version", "enabled", "context_path", "virtual_host"]
  else []

/-- The section without the keys that nobody looks up. -/
def pruned (s : Ini.Section) : Ini.Section :=
  { s with entries := s.entries.filter fun e => e.1 ∈ knownKeys s.name }

section
variable {s : Ini.Section}

theorem get?_pruned {keys : List String} (hkeys : knownKeys s.name = keys) :
    ∀ key ∈ keys, (pruned s).get? key = s.get? key := by
  intro key h
  rw [← hkeys] at h
  unfold pruned Ini.Section.get?
  dsimp only
  induction s.entries with
  | nil => rfl
  | cons e rest ih =>
    rw [List.filter_cons, List.lookup_cons]
    by_cases he : key = e.1
    · rw [← he, decide_eq_true h, if_pos rfl, List.lookup_cons, ← he, beq_self_eq_true]
    · rw [beq_eq_false_iff_ne.mpr he]
      split
      · rw [List.lookup_cons, beq_eq_false_iff_ne.mpr he]
        exact ih
      · exact ih

theorem readLogging_pruned (h : s.name = "logging") :
    readLogging (some (pruned s)) = readLogging (some s) := by
  have hkeys : knownKeys s.name = ["level", "pattern"] := by
    rw [h]
    rfl
  have hknown := get?_pruned hkeys
  simp only [List.forall_mem_cons] at hknown
  simp only [readLogging, hknown]

theorem readTimeHeader_pruned (h : s.name = "reactor") :
    readTimeHeader (some (pruned s)) = readTimeHeader (some s) := by
  have hkeys : knownKeys s.name = ["response_time_header"] := by
    rw [h]
    rfl
  have hknown := get?_pruned hkeys
  simp only [List.forall_mem_cons] at hknown
  simp only [readTimeHeader, readBool, hknown]

theorem knownKeys_api {name id : String} (h : apiId? name = some id) :
    knownKeys name = ["name", "version", "enabled", "context_path", "virtual_host"] := by
  have hname {other : String} (hother : apiId? other = none) : name ≠ other := by
    rintro rfl
    exact Option.some_ne_none _ (h.symm.trans hother)
  have hlogging : name ≠ "logging" := hname (by decide)
  have hreactor : name ≠ "reactor" := hname (by decide)
  unfold knownKeys
  rw [if_neg hlogging, if_neg hreactor, h]
  rfl

theorem readApi_pruned {id : String} (h : apiId? s.name = some id) :
    readApi id (pruned s) = readApi id s := by
  have hknown := get?_pruned (knownKeys_api h)
  simp only [List.forall_mem_cons] at hknown
  simp only [readApi, readBool, hknown]

end

theorem readApis_pruned (sections : List Ini.Section) :
    readApis (sections.map pruned) = readApis sections := by
  induction sections with
  | nil => rfl
  | cons s rest ih =>
    have hname : (pruned s).name = s.name := rfl
    rw [List.map_cons, readApis, readApis, ih, hname]
    cases hid : apiId? s.name with
    | none => rfl
    | some id =>
      dsimp only
      rw [readApi_pruned hid]

/-- The section of a name is read alike where other keys are left out. -/
theorem find?_pruned {α : Type} {name : String} (f : Option Ini.Section → α)
    (h : ∀ s, s.name = name → f (some (pruned s)) = f (some s)) (sections : List Ini.Section) :
    f ((sections.map pruned).find? (·.name == name)) = f (sections.find? (·.name == name)) := by
  have hmap : (sections.map pruned).find? (·.name == name) =
      (sections.find? (·.name == name)).map pruned := List.find?_map
  rw [hmap]
  cases hfind : sections.find? (·.name == name) with
  | none => rfl
  | some s => exact h s (by simpa using List.find?_some hfind)

/-- Keys that nobody looks up can be left out. -/
theorem ofSections_pruned (sections : List Ini.Section) :
    ofSections (sections.map pruned) = ofSections sections := by
  unfold ofSections
  rw [find?_pruned readLogging fun _ => readLogging_pruned,
    find?_pruned (readTimeHeader ·) fun _ => readTimeHeader_pruned, readApis_pruned]

/-! ### Changes -/

/-- A change of the lines of a text in what says nothing to the settings: a blank line or a comment
more, a section more that nobody looks for, a line more with a key that is not looked up in its
section, or the section of the log or of the reactor behind other sections. -/
inductive Edit : List (List Char) → List (List Char) → Prop
  | blank {a b : List (List Char)} {l : List Char} (hl : Ini.Blank l) : Edit (a ++ b) (a ++ l :: b)
  | comment {a b : List (List Char)} {l : List Char}
    (hl : (l.dropWhile Ini.isBlank).head? = some ';') : Edit (a ++ b) (a ++ l :: b)
  | stray {a b sec : List (List Char)} {name : String} (hsec : Ini.IsSection name sec)
    (hname : name ≠ "logging" ∧ name ≠ "reactor" ∧ ∀ id, name ≠ "api:" ++ id)
    (hb : Ini.Starts b) : Edit (a ++ b) (a ++ (sec ++ b))
  | key {a b sec : List (List Char)} {l : List Char} {name key value : String}
    (hsec : Ini.IsSection name sec) (hl : Ini.Line.ofChars l = .entry key value)
    (hkey : key ∉ knownKeys name) : Edit (a ++ (sec ++ b)) (a ++ (sec ++ l :: b))
  | move {a b c sec : List (List Char)} {name : String} (hsec : Ini.IsSection name sec)
    (hname : name = "logging" ∨ name = "reactor") (hb : Ini.Starts b) (hc : Ini.Starts c) :
    Edit (a ++ (sec ++ (b ++ c))) (a ++ (b ++ (sec ++ c)))

theorem ofSections_stray {s : Ini.Section} (upper lower : List Ini.Section)
    (h : s.name ≠ "logging" ∧ s.name ≠ "reactor" ∧ ∀ id, s.name ≠ "api:" ++ id) :
    ofSections (upper ++ lower) = ofSections (upper ++ s :: lower) := by
  obtain ⟨hlogging, hreactor, hid⟩ := h
  have hfind {name : String} (hne : s.name ≠ name) :
      (upper ++ lower).find? (·.name == name) = (upper ++ s :: lower).find? (·.name == name) := by
    rw [List.find?_append, List.find?_append, List.find?_cons, beq_eq_false_iff_ne.mpr hne]
  have hapi : isApi s = false := by
    rw [isApi, Option.isSome_eq_false_iff, Option.isNone_iff_eq_none]
    exact Option.eq_none_iff_forall_ne_some.mpr fun id h => hid id (apiId?_eq_some_iff.mp h)
  refine ofSections_congr (hfind hlogging) (hfind hreactor) ?_
  rw [List.filter_append, List.filter_append, List.filter_cons_of_neg (by simp [hapi])]

theorem ofSections_key {name key value : String} (upper lower : List Ini.Section)
    (entries more : List (String × String)) (hkey : key ∉ knownKeys name) :
    ofSections (upper ++ ⟨name, entries ++ more⟩ :: lower) =
      ofSections (upper ++ ⟨name, entries ++ (key, value) :: more⟩ :: lower) := by
  have hpruned : pruned ⟨name, entries ++ more⟩ =
      pruned ⟨name, entries ++ (key, value) :: more⟩ := by
    unfold pruned
    dsimp only
    rw [List.filter_append, List.filter_append, List.filter_cons_of_neg (by simpa using hkey)]
  rw [← ofSections_pruned, List.map_append, List.map_cons, hpruned, ← List.map_cons,
    ← List.map_append, ofSections_pruned]

theorem ofSections_move {s : Ini.Section} (upper middle lower : List Ini.Section)
    (hname : s.name = "logging" ∨ s.name = "reactor")
    (hn : ((upper ++ s :: (middle ++ lower)).map (·.name)).Nodup) :
    ofSections (upper ++ s :: (middle ++ lower)) =
      ofSections (upper ++ (middle ++ s :: lower)) := by
  have hapi : isApi s = false := by
    unfold isApi
    rcases hname with h | h <;> (rw [h]; decide)
  refine ofSections_perm (List.Perm.append_left _ List.perm_middle.symm) hn ?_
  rw [List.filter_append, List.filter_cons_of_neg (by simp [hapi]), List.filter_append,
    List.filter_append, List.filter_append, List.filter_cons_of_neg (by simp [hapi])]

section
variable {ls ls' : List (List Char)} {above above' : List (String × String)}
  {sections sections' : List Ini.Section}

/-- What stands before and after a change is read alike. -/
theorem edit_sections (h : Edit ls ls') (hls : Ini.found ls = some (above, sections))
    (hls' : Ini.found ls' = some (above', sections'))
    (hn : (sections.map (·.name)).Nodup) : ofSections sections = ofSections sections' := by
  cases h with
  | blank hl =>
    rw [Ini.found_blank (Ini.ofChars_blank hl), hls] at hls'
    cases hls'
    rfl
  | comment hl =>
    rw [Ini.found_blank (Ini.ofChars_comment hl), hls] at hls'
    cases hls'
    rfl
  | @stray a b sec name hsec hname hb =>
    obtain ⟨upper, lower, _, hlower, hlower', rfl, rfl⟩ :=
      Ini.found_beneath hb (hsec.starts b) hls hls'
    obtain ⟨entries, hentries⟩ := Ini.found_section hsec
    rw [hentries, hlower] at hlower'
    cases hlower'
    exact ofSections_stray upper lower hname
  | @key a b sec l name key value hsec hl hkey =>
    obtain ⟨upper, _, _, hlower, hlower', rfl, rfl⟩ :=
      Ini.found_beneath (hsec.starts b) (hsec.starts (l :: b)) hls hls'
    obtain ⟨entries, hentries⟩ := Ini.found_section hsec
    have hmore : Ini.found (l :: b) =
        (Ini.found b).map fun rest => ((key, value) :: rest.1, rest.2) := by
      unfold Ini.found
      rw [List.map_cons, hl, Ini.collect_entry]
    rw [hentries] at hlower
    rw [hentries, hmore] at hlower'
    obtain ⟨rest, hrest, heq⟩ := Option.map_eq_some_iff.mp hlower
    rw [hrest] at hlower'
    cases heq
    cases hlower'
    exact ofSections_key upper rest.2 entries rest.1 hkey
  | @move a b c sec name hsec hname hb hc =>
    obtain ⟨upper, _, _, hlower, hlower', rfl, rfl⟩ :=
      Ini.found_beneath (hsec.starts (b ++ c)) (hb.append (hsec.starts c)) hls hls'
    obtain ⟨middle, _, hmiddle, hbelow, rfl⟩ := Ini.found_append (hsec.starts c) hlower'
    obtain ⟨entries, hentries⟩ := Ini.found_section hsec
    rw [hentries] at hlower hbelow
    obtain ⟨⟨_, _⟩, hrest, heq⟩ := Option.map_eq_some_iff.mp hlower
    obtain ⟨_, last, hmiddle', hlast, rfl⟩ := Ini.found_append hc hrest
    rw [hmiddle] at hmiddle'
    rw [hlast] at hbelow
    cases heq
    cases hmiddle'
    cases hbelow
    exact ofSections_move upper middle last hname hn

end

/-- Two texts that can be read, and the second is the first with a change in what says nothing. -/
structure Step (t t' : String) : Prop where
  before : Ini.Regular t
  after : Ini.Regular t'
  edit : Edit (Ini.lines t.toList) (Ini.lines t'.toList)

theorem ofText_step {t t' : String} (h : Step t t') : ofText t = ofText t' := by
  obtain ⟨above, sections, hfound, hparse, -⟩ := Ini.collect_of_regular h.before
  obtain ⟨above', sections', hfound', hparse', -⟩ := Ini.collect_of_regular h.after
  have heq := edit_sections h.edit hfound hfound' (Ini.names_nodup hparse)
  unfold ofText
  rw [load_eq hparse, load_eq hparse', heq]

/-- Texts with any number of such changes between them, made or taken back, are read alike: they
give the same settings, or are refused for the same fault.  So they are by any reader that goes by
text which readers agree on, if they are such text. -/
theorem edits_irrelevant {t t' : String} (h : Relation.EqvGen Step t t') :
    ofText t = ofText t' ∧ ∀ reader : Ini.Reader, reader.Faithful → Covered t → Covered t' →
      ofText t reader = ofText t' reader := by
  have hplain : ofText t = ofText t' := by
    induction h with
    | rel t t' hstep => exact ofText_step hstep
    | refl t => rfl
    | symm t t' _ ih => exact ih.symm
    | trans t t' t'' _ _ ih ih' => exact ih.trans ih'
  exact ⟨hplain, fun reader hreader ht ht' => (load_faithful hreader ht _).trans
    (hplain.trans (load_faithful hreader ht' _).symm)⟩

theorem edits_irrelevant_tidied :
    let text := "; the gateway\n[api:shop]\ncontext_path = /shop\nowner = me\n[notes]\n" ++
      "level = loud\n\n[logging]\nlevel = warn"
    let tidy := "[logging]\nlevel = warn\n[api:shop]\ncontext_path = /shop"
    ofText text = ofText tidy ∧ ofText text .strict = ofText tidy .strict := by
  intro text tidy
  have step {t t' : String} {ls ls' : List (List Char)} (h : Edit ls ls')
      (ht : Ini.Regular t ∧ Ini.lines t.toList = ls)
      (ht' : Ini.Regular t' ∧ Ini.lines t'.toList = ls') : Relation.EqvGen Step t t' :=
    .rel _ _ ⟨ht.1, ht'.1, by rw [ht.2, ht'.2]; exact h⟩
  have hlog : Ini.IsSection "logging" ["[logging]".toList, "level = warn".toList] :=
    ⟨_, _, rfl, by decide +kernel, by decide +kernel⟩
  have hnotes : Ini.IsSection "notes" ["[notes]".toList, "level = loud".toList, []] :=
    ⟨_, _, rfl, by decide +kernel, by decide +kernel⟩
  have hshop : Ini.IsSection "api:shop" ["[api:shop]".toList, "context_path = /shop".toList] :=
    ⟨_, _, rfl, by decide +kernel, by decide +kernel⟩
  have howner : Ini.Line.ofChars "owner = me".toList = .entry "owner" "me" := by decide +kernel
  have hstray : ∀ id, "notes" ≠ "api:" ++ id := by
    intro id heq
    have hnone : apiId? "notes" = none := by decide
    rw [apiId?_eq_some_iff.mpr heq] at hnone
    cases hnone
  have hmove : Relation.EqvGen Step "[logging]\nlevel = warn\n[api:shop]\ncontext_path = /shop"
      "[api:shop]\ncontext_path = /shop\n[logging]\nlevel = warn" :=
    step (.move (a := []) (c := []) hlog (.inl rfl) (hshop.starts []) (by rintro l ⟨⟩))
      (by decide +kernel) (by decide +kernel)
  have hkey : Relation.EqvGen Step "[api:shop]\ncontext_path = /shop\n[logging]\nlevel = warn"
      "[api:shop]\ncontext_path = /shop\nowner = me\n[logging]\nlevel = warn" :=
    step (.key (a := []) (b := ["[logging]".toList, "level = warn".toList]) hshop howner
      (by decide)) (by decide +kernel) (by decide +kernel)
  have hsection : Relation.EqvGen Step
      "[api:shop]\ncontext_path = /shop\nowner = me\n[logging]\nlevel = warn"
      ("[api:shop]\ncontext_path = /shop\nowner = me\n[notes]\n" ++
        "level = loud\n\n[logging]\nlevel = warn") :=
    step (.stray (a := ["[api:shop]".toList, "context_path = /shop".toList, "owner = me".toList])
      hnotes ⟨by decide, by decide, hstray⟩ (hlog.starts [])) (by decide +kernel)
      (by decide +kernel)
  have hcomment : Relation.EqvGen Step
      ("[api:shop]\ncontext_path = /shop\nowner = me\n[notes]\n" ++
        "level = loud\n\n[logging]\nlevel = warn")
      ("; the gateway\n[api:shop]\ncontext_path = /shop\nowner = me\n[notes]\n" ++
        "level = loud\n\n[logging]\nlevel = warn") :=
    step (.comment (a := []) (l := "; the gateway".toList) (by decide +kernel))
      ⟨by decide +kernel, rfl⟩ (by decide +kernel)
  have hchain := (hmove.trans _ _ _ hkey).trans _ _ _ (hsection.trans _ _ _ hcomment)
  obtain ⟨hplain, hreaders⟩ := edits_irrelevant (hchain.symm _ _)
  exact ⟨hplain, hreaders .strict Ini.Reader.faithful_strict (by decide +kernel)
    (by decide +kernel)⟩

end Settings
end ApiGateway
