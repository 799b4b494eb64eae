import Mathlib.Data.List.Induction
import Mathlib.Order.Defs.Unbundled
import ApiGateway.Proofs.Http.Fields

/-!
# Header maps that are filled field by field

Names are compared by their folded bytes, and a map filled one field after the other has a single
field for each name up to case: with the spelling that came first and the value that came last.

* `Ascii.caseLess_weak`          the order of the names;
* `Settled`                      the fields that setting a list of fields has to come to;
* `assigned_in_order`            what setting them comes to, for names that are any bytes and for
                                 the header maps.
-/

namespace ApiGateway

/-! ### The order of the names -/

namespace Ascii

theorem caseLess_iff (a b : List UInt8) :
    caseLess a b = true ↔ a.map lowerByte < b.map lowerByte :=
  decide_eq_true_iff

/-- No name comes before the other just when they are the same up to case. -/
theorem caseLess_incomparable (a b : List UInt8) :
    (¬ caseLess a b = true ∧ ¬ caseLess b a = true) ↔ a.map lowerByte = b.map lowerByte := by
  rw [caseLess_iff, caseLess_iff]
  constructor
  · rintro ⟨h1, h2⟩
    exact List.le_antisymm h2 h1
  · intro h
    rw [h]
    exact ⟨List.lt_irrefl _, List.lt_irrefl _⟩

theorem caseLess_weak : IsStrictWeakOrder (List UInt8) fun a b => caseLess a b = true where
  irrefl a := by
    rw [caseLess_iff]
    exact List.lt_irrefl _
  trans a b c h1 h2 := by
    rw [caseLess_iff] at h1 h2 ⊢
    exact List.lt_trans h1 h2
  incomp_trans a b c h1 h2 :=
    (caseLess_incomparable a c).mpr
      (((caseLess_incomparable a b).mp h1).trans ((caseLess_incomparable b c).mp h2))

end Ascii

namespace Headers

/-! ### Fields set one after the other -/

section
variable {ν : Type} (key : ν → List UInt8)

/-- Of the fields given for a name, the spelling that comes first with the value that comes last. -/
def settled (given : List (ν × String)) (name : ν) : Option (ν × String) :=
  (given.find? fun f => key f.1 == key name).bind fun first =>
    (given.reverse.find? fun f => key f.1 == key name).map fun last => (first.1, last.2)

/-- The fields `l` are those given, each name settled, in the strict order of the keys.  A look-up
by any spelling finds the value given last. -/
structure Settled (given l : List (ν × String)) : Prop where
  ascending : l.Pairwise fun f f' => key f.1 < key f'.1
  single : ∀ name, l.filter (fun f => key f.1 == key name) = (settled key given name).toList
  found : ∀ name, (l.find? fun f => key f.1 == key name).map Prod.snd =
    (given.reverse.find? fun f => key f.1 == key name).map Prod.snd

variable {key} {given l : List (ν × String)} {name : ν}

theorem settled_none (h : given.find? (fun f => key f.1 == key name) = none) :
    given.reverse.find? (fun f => key f.1 == key name) = none := by
  rw [List.find?_eq_none] at h ⊢
  intro f hf
  exact h f (List.mem_reverse.mp hf)

theorem settled_some {f : ν × String} (h : given.find? (fun f => key f.1 == key name) = some f) :
    ∃ f', given.reverse.find? (fun f => key f.1 == key name) = some f' ∧
      settled key given name = some (f.1, f'.2) := by
  have hkey := List.find?_some h
  have hmem := List.mem_reverse.mpr (List.mem_of_find?_eq_some h)
  have hsome : (given.reverse.find? fun f => key f.1 == key name).isSome :=
    List.find?_isSome.mpr ⟨f, hmem, hkey⟩
  obtain ⟨f', hf'⟩ := Option.isSome_iff_exists.mp hsome
  refine ⟨f', hf', ?_⟩
  rw [settled, h, hf']
  rfl

/-- The spelling that is kept is the first. -/
theorem settled_fst : (settled key given name).map Prod.fst =
    (given.find? fun f => key f.1 == key name).map Prod.fst := by
  cases h : given.find? fun f => key f.1 == key name with
  | none => rw [settled, h]; rfl
  | some f =>
    obtain ⟨f', -, hs⟩ := settled_some h
    rw [hs]
    rfl

/-- The value that is kept is the last. -/
theorem settled_snd : (settled key given name).map Prod.snd =
    (given.reverse.find? fun f => key f.1 == key name).map Prod.snd := by
  cases h : given.find? fun f => key f.1 == key name with
  | none => rw [settled, h, settled_none h]; rfl
  | some f =>
    obtain ⟨f', hf', hs⟩ := settled_some h
    rw [hs, hf']
    rfl

theorem settled_append_self (value : String) :
    settled key (given ++ [(name, value)]) name =
      some (((settled key given name).map Prod.fst).getD name, value) := by
  have hself : (key name == key name) = true := BEq.rfl
  rw [settled_fst, settled, List.reverse_append, List.find?_append, List.reverse_singleton,
    List.singleton_append, List.find?_cons, List.find?_cons, hself]
  cases given.find? fun f => key f.1 == key name <;> rfl

theorem settled_append_other {n : ν} (hn : key n ≠ key name) (value : String) :
    settled key (given ++ [(n, value)]) name = settled key given name := by
  have hne : (key n == key name) = false := beq_eq_false_iff_ne.mpr hn
  rw [settled, List.reverse_append, List.find?_append, List.reverse_singleton,
    List.singleton_append, List.find?_cons, List.find?_cons, hne, List.find?_nil, Option.or_none]
  rfl

theorem settled_congr {n : ν} (h : key n = key name) :
    settled key given n = settled key given name := by
  rw [settled, h, ← settled]

/-- The strict order and the single field for each name are enough: a look-up asks for no more. -/
theorem Settled.of_single (hascending : l.Pairwise fun f f' => key f.1 < key f'.1)
    (hsingle : ∀ name, l.filter (fun f => key f.1 == key name) =
      (settled key given name).toList) : Settled key given l where
  ascending := hascending
  single := hsingle
  found name := by
    rw [← List.head?_filter, hsingle, ← settled_snd]
    cases settled key given name <;> rfl

variable {before : ν → ν → Bool} (hbefore : ∀ a b, before a b = true ↔ key a < key b)
include hbefore

/-- Setting one more field. -/
theorem Settled.insertField (hl : Settled key given l) (name : ν) (value : String) :
    Settled key (given ++ [(name, value)]) (insertField before name value l) := by
  have hordered : l.Pairwise fun f f' => before f.1 f'.1 = true :=
    hl.ascending.imp fun h => (hbefore _ _).mpr h
  refine .of_single ((pairwise_insertField hbefore hordered).imp fun h => (hbefore _ _).mp h) ?_
  intro asked
  by_cases hkey : key name = key asked
  · rw [← settled_congr hkey, ← hkey, filter_insertField_self hbefore name value hordered,
      hl.single name, settled_append_self]
    cases settled key given name <;> rfl
  · rw [settled_append_other hkey, ← hl.single asked]
    refine filter_insertField_others hbefore (fun f hf => ?_) value l
    rw [hf]
    exact beq_eq_false_iff_ne.mpr hkey

/-- Setting the fields of a list one after the other, from the first to the last. -/
theorem settled_foldl (given : List (ν × String)) :
    Settled key given (given.foldl (fun l f => Headers.insertField before f.1 f.2 l) []) := by
  induction given using List.reverseRecOn with
  | nil => exact .of_single List.Pairwise.nil fun _ => rfl
  | append_singleton given f ih =>
    rw [List.foldl_append]
    exact ih.insertField hbefore f.1 f.2

end

theorem fields_insertMany (h : Headers) (given : List (String × String)) :
    (h.insertMany given).fields =
      given.foldl (fun l f => insertField before f.1 f.2 l) h.fields := by
  unfold insertMany
  induction given generalizing h with
  | nil => rfl
  | cons f rest ih => exact ih (h.insert f.1 f.2)

/-- Names that are bytes of any kind are in a strict weak order, and two of them are the same to it
just when their bytes are once the letters are small.  To write a byte small is to add 32 to the
codes of `A` to `Z` and nothing to any other, so these are the names that differ in the case of
letters alone.  The fields of such names, and those of a header map, that are set one after the
other settle in that order; every spelling of a name finds in the map the value that was set last
for it, and nothing if there was none. -/
theorem assigned_in_order :
    IsStrictWeakOrder (List UInt8) (fun a b => Ascii.caseLess a b = true) ∧
    (∀ b : UInt8, (Ascii.lowerByte b).toNat =
      if 65 ≤ b.toNat ∧ b.toNat ≤ 90 then b.toNat + 32 else b.toNat) ∧
    (∀ a b : List UInt8, (¬ Ascii.caseLess a b = true ∧ ¬ Ascii.caseLess b a = true) ↔
      a.map Ascii.lowerByte = b.map Ascii.lowerByte) ∧
    (∀ a b : List UInt8, a.map Ascii.lowerByte = b.map Ascii.lowerByte ↔ Ascii.SameName a b) ∧
    (∀ given : List (List UInt8 × String), Settled (List.map Ascii.lowerByte) given
      (given.foldl (fun l f => insertField Ascii.caseLess f.1 f.2 l) [])) ∧
    (∀ given : List (String × String), Settled Ascii.foldKey given (ofList given).fields) ∧
    (∀ (given : List (String × String)) (name : String), (ofList given).get? name =
      (given.reverse.find? fun f => Ascii.foldKey f.1 == Ascii.foldKey name).map Prod.snd) ∧
    ∀ (given : List (String × String)) (name spelling : String),
      Ascii.SameName (Ascii.bytes name) (Ascii.bytes spelling) →
      (ofList given).get? spelling = (ofList given).get? name := by
  have hmap (given : List (String × String)) :
      Settled Ascii.foldKey given (ofList given).fields := by
    rw [ofList, fields_insertMany]
    exact settled_foldl before_iff given
  refine ⟨Ascii.caseLess_weak, Ascii.toNat_lowerByte, Ascii.caseLess_incomparable,
    Ascii.map_lowerByte_eq_iff, settled_foldl Ascii.caseLess_iff, hmap, ?_, ?_⟩
  · intro given name
    exact (hmap given).found name
  · intro given name spelling hsame
    have hkey : Ascii.foldKey name = Ascii.foldKey spelling :=
      (Ascii.map_lowerByte_eq_iff _ _).mpr hsame
    unfold get?
    rw [hkey]

theorem assigned_in_order_mixed :
    let h := ofList [("Host", "a.example"), ("accept", "*/*"), ("HOST", "b.example"),
      ("X[y", "1"), ("x\x7by", "2"), ("Accept", "text/html")]
    h.fields = [("accept", "text/html"), ("Host", "b.example"), ("X[y", "1"), ("x\x7by", "2")] ∧
      h.fields.filter (fun f => Ascii.foldKey f.1 == Ascii.foldKey "hOST") =
        [("Host", "b.example")] ∧
      h.get? "hOsT" = some "b.example" ∧ h.get? "X\x7bY" = some "2" ∧ h.get? "Cookie" = none := by
  intro h
  obtain ⟨-, -, -, -, -, hsettled, hget, hspelling⟩ := assigned_in_order
  have hhost : h.get? "hOsT" = h.get? "Host" :=
    hspelling _ "Host" "hOsT" ((Ascii.map_lowerByte_eq_iff _ _).mp (by decide +kernel))
  refine ⟨by decide +kernel, ?_, hhost.trans ?_, ?_, ?_⟩
  · rw [(hsettled _).single "hOST"]
    decide +kernel
  · rw [hget]
    decide +kernel
  · rw [hget]
    decide +kernel
  · rw [hget]
    decide +kernel

end Headers
end ApiGateway
