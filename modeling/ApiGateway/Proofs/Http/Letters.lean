import Mathlib.Data.List.Forall2
import ApiGateway.Http.Headers

/-!
# Letters, and header fields up to their case

Writing the letters small changes no other character, so where a text is cut does not depend on the
case of its letters.  Header fields are ordered by their folded names, so a name has one field
however it is spelled.

* `toLower_eq_iff`      a character that is no letter stays what it is;
* `SameName a b`        the names differ at most in the case of letters;
* `map_lowerByte_eq_iff`   this is what their folded bytes are compared for;
* `Headers.Ordered`     the order that a header map keeps;
* `get?_eq_of_mem`      a field is found by every spelling of its name.
-/

namespace ApiGateway
namespace Ascii

/-! ### Letters -/

theorem toLower_cases (c : Char) :
    c.toLower = c ∨ (65 ≤ c.toNat ∧ c.toNat ≤ 90) ∧ c.toLower.toNat = c.toNat + 32 := by
  unfold Char.toLower
  split
  · next h =>
    have h1 : 65 ≤ c.val.toNat := UInt32.le_iff_toNat_le.mp h.1
    have h2 : c.val.toNat ≤ 90 := UInt32.le_iff_toNat_le.mp h.2
    refine .inr ⟨⟨h1, h2⟩, ?_⟩
    show (c.val + 32).toNat = c.val.toNat + 32
    have h32 : (32 : UInt32).toNat = 32 := rfl
    rw [UInt32.toNat_add, h32]
    exact Nat.mod_eq_of_lt (by omega)
  · exact .inl rfl

/-- Neither a capital nor a small letter. -/
def IsMark (p : Char) : Prop :=
  p.toNat < 65 ∨ 90 < p.toNat ∧ (p.toNat < 97 ∨ 122 < p.toNat)

theorem toLower_eq_iff {p : Char} (hp : IsMark p) (c : Char) : c.toLower = p ↔ c = p := by
  rcases toLower_cases c with h | ⟨hletter, h⟩
  · rw [h]
  · constructor
    · rintro rfl
      rw [IsMark, h] at hp
      omega
    · rintro rfl
      unfold IsMark at hp
      omega

theorem toLower_toLower (c : Char) : c.toLower.toLower = c.toLower := by
  rcases toLower_cases c with h | ⟨hletter, h⟩
  · rw [h, h]
  · rcases toLower_cases c.toLower with h' | ⟨hletter', -⟩
    · exact h'
    · omega

section
variable {p : Char} (hp : IsMark p) (s : List Char)
include hp

theorem mem_map_toLower : p ∈ s.map Char.toLower ↔ p ∈ s := by
  rw [List.mem_map]
  constructor
  · rintro ⟨c, hc, heq⟩
    rwa [← (toLower_eq_iff hp c).mp heq]
  · intro hmem
    exact ⟨p, hmem, (toLower_eq_iff hp p).mpr rfl⟩

theorem beq_toLower (c : Char) : (c.toLower == p) = (c == p) := by
  rw [Bool.eq_iff_iff, beq_iff_eq, beq_iff_eq]
  exact toLower_eq_iff hp c

theorem count_map_toLower : (s.map Char.toLower).count p = s.count p := by
  induction s with
  | nil => rfl
  | cons c rest ih =>
    rw [List.map_cons, List.count_cons, List.count_cons, ih, beq_toLower hp]

theorem head?_map_toLower : (s.map Char.toLower).head? = some p ↔ s.head? = some p := by
  cases s with
  | nil => rfl
  | cons c rest =>
    show some c.toLower = some p ↔ some c = some p
    rw [Option.some.injEq, Option.some.injEq]
    exact toLower_eq_iff hp c

theorem takeWhile_map_toLower :
    (s.map Char.toLower).takeWhile (· != p) = (s.takeWhile (· != p)).map Char.toLower := by
  induction s with
  | nil => rfl
  | cons c rest ih =>
    have hc : (c.toLower != p) = (c != p) := congrArg (! ·) (beq_toLower hp c)
    rw [List.map_cons, List.takeWhile_cons, List.takeWhile_cons, hc]
    cases c != p with
    | true => exact congrArg _ ih
    | false => rfl

end

theorem lowerCase_lowerCase (s : String) : lowerCase (lowerCase s) = lowerCase s := by
  unfold lowerCase
  rw [String.toList_ofList, List.map_map]
  exact congrArg String.ofList (List.map_congr_left fun c _ => toLower_toLower c)

/-! ### Names as bytes -/

/-- The bytes are the same, or one of them is a capital letter and the other this letter written
small. -/
def SameLetter (x y : UInt8) : Prop :=
  x = y ∨ (65 ≤ x.toNat ∧ x.toNat ≤ 90) ∧ y.toNat = x.toNat + 32 ∨
    (65 ≤ y.toNat ∧ y.toNat ≤ 90) ∧ x.toNat = y.toNat + 32

/-- The names are the same but for the case of letters. -/
def SameName (a b : List UInt8) : Prop :=
  List.Forall₂ SameLetter a b

instance (x y : UInt8) : Decidable (SameLetter x y) :=
  inferInstanceAs (Decidable (_ ∨ _ ∨ _))

theorem toNat_lowerByte (b : UInt8) : (lowerByte b).toNat =
    if 65 ≤ b.toNat ∧ b.toNat ≤ 90 then b.toNat + 32 else b.toNat := by
  have hcodes : ∀ n : Fin 256, (lowerByte (UInt8.ofFin n)).toNat =
      if 65 ≤ n.val ∧ n.val ≤ 90 then n.val + 32 else n.val := by
    decide +kernel
  exact hcodes b.toFin

theorem lowerByte_eq_iff (x y : UInt8) : lowerByte x = lowerByte y ↔ SameLetter x y := by
  unfold SameLetter
  rw [← UInt8.toNat_inj, ← UInt8.toNat_inj, toNat_lowerByte, toNat_lowerByte]
  split <;> split <;> omega

theorem map_lowerByte_eq_iff (a b : List UInt8) :
    a.map lowerByte = b.map lowerByte ↔ SameName a b := by
  unfold SameName
  rw [← List.forall₂_eq_eq_eq, List.forall₂_map_left_iff, List.forall₂_map_right_iff]
  simp only [lowerByte_eq_iff]

end Ascii

namespace Headers

/-! ### The order of the fields -/

theorem before_iff (a b : String) :
    before a b = true ↔ Ascii.foldKey a < Ascii.foldKey b := by
  unfold before Ascii.caseLess
  rw [decide_eq_true_iff]
  rfl

/-- Each field comes before all that follow it. -/
def Ordered (h : Headers) : Prop :=
  h.fields.Pairwise fun f f' => before f.1 f'.1 = true

section
variable {ν : Type} {before : ν → ν → Bool} {name : ν} {value : String} {l : List (ν × String)}

theorem mem_insertField {f : ν × String} (hf : f ∈ insertField before name value l) :
    f.1 = name ∨ ∃ f' ∈ l, f'.1 = f.1 := by
  induction l with
  | nil => exact .inl (congrArg Prod.fst (List.mem_singleton.mp hf))
  | cons x rest ih =>
    obtain ⟨n, v⟩ := x
    rw [insertField] at hf
    by_cases h1 : before name n = true
    · rw [if_pos h1] at hf
      rcases List.mem_cons.mp hf with rfl | hf
      · exact .inl rfl
      · exact .inr ⟨f, hf, rfl⟩
    · rw [if_neg h1] at hf
      by_cases h2 : before n name = true
      · rw [if_pos h2] at hf
        rcases List.mem_cons.mp hf with rfl | hf
        · exact .inr ⟨_, List.mem_cons_self, rfl⟩
        · refine (ih hf).imp id fun ⟨f', hf', heq⟩ => ?_
          exact ⟨f', List.mem_cons_of_mem _ hf', heq⟩
      · rw [if_neg h2] at hf
        rcases List.mem_cons.mp hf with rfl | hf
        · exact .inr ⟨_, List.mem_cons_self, rfl⟩
        · exact .inr ⟨f, List.mem_cons_of_mem _ hf, rfl⟩

/-- Names are ordered by keys of some kind, so a field that is set leaves the fields in order. -/
theorem pairwise_insertField {key : ν → List UInt8}
    (hbefore : ∀ a b, before a b = true ↔ key a < key b)
    (ho : l.Pairwise fun f f' => before f.1 f'.1 = true) :
    (insertField before name value l).Pairwise fun f f' => before f.1 f'.1 = true := by
  induction l with
  | nil => exact List.pairwise_singleton _ _
  | cons x rest ih =>
    obtain ⟨n, v⟩ := x
    obtain ⟨hfirst, hrest⟩ := List.pairwise_cons.mp ho
    rw [insertField]
    by_cases h1 : before name n = true
    · rw [if_pos h1]
      refine List.pairwise_cons.mpr ⟨fun f hf => ?_, ho⟩
      rcases List.mem_cons.mp hf with rfl | hf
      · exact h1
      · have h2 := hfirst f hf
        rw [hbefore] at h1 h2 ⊢
        exact List.lt_trans h1 h2
    · rw [if_neg h1]
      by_cases h2 : before n name = true
      · rw [if_pos h2]
        refine List.pairwise_cons.mpr ⟨fun f hf => ?_, ih hrest⟩
        rcases mem_insertField hf with hname | ⟨f', hf', heq⟩
        · show before n f.1 = true
          rw [hname]
          exact h2
        · show before n f.1 = true
          rw [← heq]
          exact hfirst f' hf'
      · rw [if_neg h2]
        exact List.pairwise_cons.mpr ⟨hfirst, hrest⟩

end

theorem Ordered.insert {h : Headers} (ho : h.Ordered) (name value : String) :
    (h.insert name value).Ordered :=
  pairwise_insertField before_iff ho

/-- However a header map is filled, its fields are in order. -/
theorem ordered_ofList (fields : List (String × String)) : (ofList fields).Ordered := by
  have hmany (h : Headers) (ho : h.Ordered) : (h.insertMany fields).Ordered := by
    unfold insertMany
    induction fields generalizing h with
    | nil => exact ho
    | cons f rest ih => exact ih _ (ho.insert f.1 f.2)
  exact hmany {} List.Pairwise.nil

/-- A field is found by every spelling of its name. -/
theorem get?_eq_of_mem {h : Headers} (ho : h.Ordered) {n v : String} (hmem : (n, v) ∈ h.fields)
    {name : String} (hname : Ascii.foldKey n = Ascii.foldKey name) : h.get? name = some v := by
  obtain ⟨l⟩ := h
  unfold Ordered get? at *
  dsimp only at *
  induction l with
  | nil => exact absurd hmem List.not_mem_nil
  | cons x rest ih =>
    obtain ⟨hfirst, hrest⟩ := List.pairwise_cons.mp ho
    rcases List.mem_cons.mp hmem with rfl | hmem
    · have heq : (Ascii.foldKey n == Ascii.foldKey name) = true := beq_iff_eq.mpr hname
      rw [List.find?_cons, heq]
      rfl
    · have hlt := (before_iff _ _).mp (hfirst _ hmem)
      have hne : (Ascii.foldKey x.1 == Ascii.foldKey name) = false := by
        rw [beq_eq_false_iff_ne]
        intro heq
        rw [heq, ← hname] at hlt
        exact List.lt_irrefl _ hlt
      rw [List.find?_cons, hne]
      exact ih hrest hmem

end Headers
end ApiGateway
