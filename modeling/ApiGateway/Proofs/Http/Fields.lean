import Mathlib.Data.List.Nodup
import ApiGateway.Proofs.Http.Letters

/-!
# Setting a header field

A field that is set is found by every spelling of its name, and is the only one with that name.  No
other field changes.

* `Headers.ordered_iff`      the ordered lists of fields are those that setting fields gives;
* `Headers.Sets`             one header map is another with a field set;
* `Headers.sets_insert`      that is what setting a field comes to.
-/

namespace ApiGateway
namespace Headers

/-! ### Names in order -/

section
variable {ν : Type} {before : ν → ν → Bool} {key : ν → List UInt8}
  (hbefore : ∀ a b, before a b = true ↔ key a < key b)
include hbefore

theorem key_eq_of_not_before {a b : ν} (h1 : ¬ before a b = true) (h2 : ¬ before b a = true) :
    key a = key b := by
  rw [hbefore] at h1 h2
  exact List.le_antisymm h2 h1

theorem not_before_of_key_eq {a b : ν} (h : key a = key b) : ¬ before a b = true := by
  rw [hbefore, h]
  exact List.lt_irrefl _

/-- A field whose name comes after all others is set behind them. -/
theorem insertField_last {name : ν} {value : String} {l : List (ν × String)}
    (h : ∀ f ∈ l, before f.1 name = true) :
    insertField before name value l = l ++ [(name, value)] := by
  induction l with
  | nil => rfl
  | cons x rest ih =>
    obtain ⟨n, v⟩ := x
    have hn : before n name = true := h (n, v) List.mem_cons_self
    have hnot : ¬ before name n = true := by
      rw [hbefore] at hn ⊢
      exact List.lt_asymm hn
    rw [insertField, if_neg hnot, if_pos hn, ih fun f hf => h f (List.mem_cons_of_mem _ hf)]
    rfl

/-- Setting a field is not seen by who asks for fields of other names only. -/
theorem filter_insertField_others {name : ν} {p : ν × String → Bool}
    (hp : ∀ f, key f.1 = key name → p f = false) (value : String) (l : List (ν × String)) :
    (insertField before name value l).filter p = l.filter p := by
  have hout (f : ν × String) (hf : key f.1 = key name) : ¬ p f = true :=
    Bool.eq_false_iff.mp (hp f hf)
  induction l with
  | nil => rw [insertField, List.filter_cons_of_neg (hout (name, value) rfl)]
  | cons x rest ih =>
    obtain ⟨n, v⟩ := x
    rw [insertField]
    by_cases h1 : before name n = true
    · rw [if_pos h1, List.filter_cons_of_neg (hout (name, value) rfl)]
    · rw [if_neg h1]
      by_cases h2 : before n name = true
      · rw [if_pos h2, List.filter_cons, List.filter_cons, ih]
      · have hkey := key_eq_of_not_before hbefore h2 h1
        rw [if_neg h2, List.filter_cons_of_neg (hout (n, value) hkey),
          List.filter_cons_of_neg (hout (n, v) hkey)]

/-- Among fields that are in order, the field that is set is the only one with its name.  It has
the spelling that was there. -/
theorem filter_insertField_self (name : ν) (value : String) {l : List (ν × String)}
    (ho : l.Pairwise fun f f' => before f.1 f'.1 = true) :
    (insertField before name value l).filter (fun f => key f.1 == key name) =
      [(((l.filter fun f => key f.1 == key name).head?.map Prod.fst).getD name, value)] := by
  have hin {n : ν} (h : key n = key name) (v : String) (rest : List (ν × String)) :
      ((n, v) :: rest).filter (fun f => key f.1 == key name) =
        (n, v) :: rest.filter fun f => key f.1 == key name :=
    List.filter_cons_of_pos (beq_iff_eq.mpr h)
  have hout {n : ν} (h : key n ≠ key name) (v : String) (rest : List (ν × String)) :
      ((n, v) :: rest).filter (fun f => key f.1 == key name) =
        rest.filter fun f => key f.1 == key name :=
    List.filter_cons_of_neg fun heq => h (beq_iff_eq.mp heq)
  -- behind a name that does not come before the one set there are other names only
  have hbehind {n : ν} {rest : List (ν × String)} (hn : key name = key n ∨ before name n = true)
      (hfirst : ∀ f ∈ rest, before n f.1 = true) :
      rest.filter (fun f => key f.1 == key name) = [] := by
    rw [List.filter_eq_nil_iff]
    intro f hf heq
    have hlt := (hbefore n f.1).mp (hfirst f hf)
    rw [beq_iff_eq.mp heq] at hlt
    rcases hn with hn | hn
    · rw [hn] at hlt
      exact List.lt_irrefl _ hlt
    · exact List.lt_asymm hlt ((hbefore name n).mp hn)
  induction l with
  | nil => exact hin rfl value []
  | cons x rest ih =>
    obtain ⟨n, v⟩ := x
    obtain ⟨hfirst, hrest⟩ := List.pairwise_cons.mp ho
    rw [insertField]
    by_cases h1 : before name n = true
    · have hne : key n ≠ key name := fun heq => not_before_of_key_eq hbefore heq.symm h1
      rw [if_pos h1, hin rfl, hout hne, hbehind (.inr h1) hfirst]
      rfl
    · rw [if_neg h1]
      by_cases h2 : before n name = true
      · have hne : key n ≠ key name := fun heq => not_before_of_key_eq hbefore heq h2
        rw [if_pos h2, hout hne, hout hne]
        exact ih hrest
      · have hkey := key_eq_of_not_before hbefore h2 h1
        rw [if_neg h2, hin hkey, hin hkey, hbehind (.inl hkey.symm) hfirst]
        rfl

end

/-- No two fields have the same name. -/
theorem Ordered.nodup {h : Headers} (ho : h.Ordered) :
    (h.fields.map fun f => Ascii.foldKey f.1).Nodup := by
  rw [List.nodup_iff_pairwise_ne, List.pairwise_map]
  refine List.Pairwise.imp ?_ ho
  intro f f' hlt heq
  exact not_before_of_key_eq before_iff heq hlt

/-- Fields that are in order already are set behind one another. -/
theorem insertMany_ordered (acc l : List (String × String))
    (hl : (acc ++ l).Pairwise fun f f' => before f.1 f'.1 = true) :
    insertMany ⟨acc⟩ l = ⟨acc ++ l⟩ := by
  induction l generalizing acc with
  | nil =>
    rw [List.append_nil]
    rfl
  | cons f rest ih =>
    have hlast : insertField before f.1 f.2 acc = acc ++ [f] := by
      refine insertField_last before_iff fun f' hf' => ?_
      exact (List.pairwise_append.mp hl).2.2 f' hf' f List.mem_cons_self
    have hstep : insertMany ⟨acc⟩ (f :: rest) = insertMany ⟨acc ++ [f]⟩ rest := by
      rw [← hlast]
      rfl
    rw [hstep, ih _ (by simpa using hl)]
    simp

/-- The fields that are in order are those of the header maps. -/
theorem ordered_iff {h : Headers} : h.Ordered ↔ ∃ fields, h = ofList fields := by
  constructor
  · intro ho
    exact ⟨h.fields, (insertMany_ordered [] h.fields ho).symm⟩
  · rintro ⟨fields, rfl⟩
    exact ordered_ofList fields

/-! ### The field and the others -/

section
variable {h : Headers} (ho : h.Ordered) (name value : String)
include ho

theorem exists_filter_insert : ∃ n, Ascii.foldKey n = Ascii.foldKey name ∧
    (h.insert name value).fields.filter (Ascii.foldKey ·.1 == Ascii.foldKey name) =
      [(n, value)] := by
  have hself := filter_insertField_self before_iff name value ho
  have hmem := List.mem_filter.mp (hself ▸ List.mem_singleton_self _)
  exact ⟨_, beq_iff_eq.mp hmem.2, hself⟩

theorem get?_insert {spelling : String}
    (hs : Ascii.foldKey spelling = Ascii.foldKey name) :
    (h.insert name value).get? spelling = some value := by
  obtain ⟨n, -, hself⟩ := exists_filter_insert ho name value
  unfold get?
  rw [← List.head?_filter, hs, hself]
  rfl

theorem countP_insert :
    (h.insert name value).fields.countP (Ascii.foldKey ·.1 == Ascii.foldKey name) = 1 := by
  obtain ⟨n, -, hself⟩ := exists_filter_insert ho name value
  rw [List.countP_eq_length_filter, hself]
  rfl

end

theorem others_insert (h : Headers) (name value : String) :
    (h.insert name value).fields.filter (Ascii.foldKey ·.1 != Ascii.foldKey name) =
      h.fields.filter (Ascii.foldKey ·.1 != Ascii.foldKey name) :=
  filter_insertField_others before_iff (fun f hf => by rw [hf, bne_self_eq_false]) value h.fields

/-- `h'` is `h` with a field set: every spelling of its name finds the value, no other field has the
name, and the fields with other names are as they were. -/
structure Sets (h : Headers) (name value : String) (h' : Headers) : Prop where
  found : ∀ spelling, Ascii.foldKey spelling = Ascii.foldKey name → h'.get? spelling = some value
  single : h'.fields.countP (Ascii.foldKey ·.1 == Ascii.foldKey name) = 1
  others : h'.fields.filter (Ascii.foldKey ·.1 != Ascii.foldKey name) =
    h.fields.filter (Ascii.foldKey ·.1 != Ascii.foldKey name)

theorem sets_insert {h : Headers} (ho : h.Ordered) (name value : String) :
    h.Sets name value (h.insert name value) where
  found _ hs := get?_insert ho name value hs
  single := countP_insert ho name value
  others := others_insert h name value

end Headers
end ApiGateway
