import Mathlib.Data.List.Infix
import ApiGateway.App.Options
import ApiGateway.Proofs.Text.Separators

/-!
# Options are read as they are written

* `Given.Spells`         the ways to write options and targets one after the other;
* `Given.ofArgs?_spelled`   arguments that are written so are read as what was written;
* `Options.parse?_spelled`   and so they are the options of a command line.
-/

namespace ApiGateway
namespace App

/-- The option without a value: its name, which may be cut short, or its letter. -/
inductive Key.Named (k : Key) : List Char → Prop
  | name {p : List Char} (hne : p ≠ []) (hp : p <+: k.name.toList) : k.Named ('-' :: '-' :: p)
  | letter {c : Char} (hc : k.letter? = some c) : k.Named ['-', c]

/-- The option with a value behind it. -/
inductive Key.Joined (k : Key) (value : List Char) : List Char → Prop
  | name {p : List Char} (hne : p ≠ []) (hp : p <+: k.name.toList) :
    k.Joined value ('-' :: '-' :: (p ++ '=' :: value))
  | letter {c : Char} (hc : k.letter? = some c) : k.Joined value ('-' :: c :: value)

theorem Key.ofName?_prefix {k : Key} {p : List Char} (hne : p ≠ []) (hp : p <+: k.name.toList) :
    ofName? p = some k ∧ '=' ∉ p := by
  have hall : ∀ p ∈ k.name.toList.inits, p ≠ [] → ofName? p = some k ∧ '=' ∉ p := by
    cases k <;> decide +kernel
  exact hall p ((List.mem_inits p _).mpr hp) hne

theorem Key.ofLetter?_letter {k : Key} {c : Char} (hc : k.letter? = some c) :
    ofLetter? c = some k ∧ c ≠ '-' := by
  cases k <;> cases hc <;> decide

namespace Word

variable {k : Key} {arg : String}

theorem ofArg_name {p rest : List Char} (hne : p ≠ [])
    (harg : arg.toList = '-' :: '-' :: (p ++ rest)) :
    ofArg arg = named ((p ++ rest).takeWhile (· != '='))
      (if '=' ∈ p ++ rest then some (((p ++ rest).dropWhile (· != '=')).drop 1) else none) := by
  obtain ⟨c, p, rfl⟩ := List.exists_cons_of_ne_nil hne
  unfold ofArg
  rw [harg]
  rfl

theorem ofArg_letter {c : Char} {rest : List Char} (hc : c ≠ '-')
    (harg : arg.toList = '-' :: c :: rest) : ofArg arg = letters (c :: rest) := by
  unfold ofArg
  rw [harg]
  split
  · next h => cases h; exact absurd rfl hc
  · next h => cases h; exact absurd rfl hc
  · next h => cases h; rfl
  · next h => exact absurd rfl (h c rest)

theorem ofArg_named (h : k.Named arg.toList) :
    ofArg arg = if k.takesValue then wanting [] k else options [] k "" := by
  generalize hs : arg.toList = s at h
  cases h with
  | @name p hne hp =>
    obtain ⟨hkey, hequals⟩ := Key.ofName?_prefix hne hp
    rw [← List.append_nil p] at hs
    rw [ofArg_name hne hs, List.takeWhile_append_of_pos (bne_of_not_mem hequals),
      List.takeWhile_nil, List.append_nil, if_neg hequals, named, hkey]
  | @letter c hc =>
    obtain ⟨hkey, hdash⟩ := Key.ofLetter?_letter hc
    rw [ofArg_letter hdash hs, letters, hkey]
    rfl

theorem ofArg_joined {value : String} (hk : k.takesValue = true) (hvalue : value ≠ "")
    (h : k.Joined value.toList arg.toList) : ofArg arg = options [] k value := by
  have hempty : value.toList.isEmpty = false := by
    rw [List.isEmpty_eq_false_iff, ne_eq, String.toList_eq_nil_iff]
    exact hvalue
  generalize hs : arg.toList = s at h
  cases h with
  | @name p hne hp =>
    obtain ⟨hkey, hequals⟩ := Key.ofName?_prefix hne hp
    have hmem : '=' ∈ p ++ '=' :: value.toList := List.mem_append_right _ List.mem_cons_self
    rw [ofArg_name hne hs, if_pos hmem, takeWhile_append_cons hequals,
      dropWhile_append_cons hequals, named, hkey]
    show (if (k.takesValue && !value.toList.isEmpty) = true then
      options [] k (String.ofList value.toList) else wrong) = _
    rw [hk, hempty, String.ofList_toList]
    rfl
  | @letter c hc =>
    obtain ⟨hkey, hdash⟩ := Key.ofLetter?_letter hc
    rw [ofArg_letter hdash hs, letters, hkey]
    dsimp only
    rw [hk, hempty, String.ofList_toList]
    rfl

theorem ofArg_target (h : arg.toList.head? ≠ some '-') : ofArg arg = target := by
  unfold ofArg
  split <;> simp_all

end Word

namespace Given

/-- The ways to write options and targets, one after the other. -/
inductive Spells : List Given → List String → Prop
  | nothing : Spells [] []
  | target {l : List Given} {args : List String} {t : String} (ht : t.toList.head? ≠ some '-')
    (h : Spells l args) : Spells (⟨.probe, t⟩ :: l) (t :: args)
  | flag {l : List Given} {args : List String} {k : Key} {arg : String}
    (hk : k.takesValue = false) (harg : k.Named arg.toList) (h : Spells l args) :
    Spells (⟨k, ""⟩ :: l) (arg :: args)
  | spaced {l : List Given} {args : List String} {k : Key} {arg value : String}
    (hk : k.takesValue = true) (harg : k.Named arg.toList) (hvalue : allowed value = true)
    (h : Spells l args) : Spells (⟨k, value⟩ :: l) (arg :: value :: args)
  | joined {l : List Given} {args : List String} {k : Key} {arg value : String}
    (hk : k.takesValue = true) (hvalue : value ≠ "") (harg : k.Joined value.toList arg.toList)
    (h : Spells l args) : Spells (⟨k, value⟩ :: l) (arg :: args)
  | rest (targets : List String) : Spells (targets.map (⟨.probe, ·⟩)) ("--" :: targets)

section
variable {arg value : String} {k : Key} (args : List String)

theorem ofArgs?_target (h : Word.ofArg arg = .target) :
    ofArgs? (arg :: args) = (ofArgs? args).map (⟨.probe, arg⟩ :: ·) := by
  rw [ofArgs?.eq_def]
  dsimp only
  rw [h]

theorem ofArgs?_option (h : Word.ofArg arg = .options [] k value) :
    ofArgs? (arg :: args) = (ofArgs? args).map (⟨k, value⟩ :: ·) := by
  rw [ofArgs?.eq_def]
  dsimp only
  rw [h]
  rfl

theorem ofArgs?_wanting (h : Word.ofArg arg = .wanting [] k) (hvalue : allowed value = true) :
    ofArgs? (arg :: value :: args) = (ofArgs? args).map (⟨k, value⟩ :: ·) := by
  rw [ofArgs?.eq_def]
  dsimp only
  rw [h]
  exact if_pos hvalue

end

theorem ofArgs?_spelled {l : List Given} {args : List String} (h : Spells l args) :
    ofArgs? args = some l := by
  induction h with
  | nothing => rfl
  | target ht _ ih =>
    rw [ofArgs?_target _ (Word.ofArg_target ht), ih]
    rfl
  | flag hk harg _ ih =>
    have hword := Word.ofArg_named harg
    rw [hk, if_neg Bool.false_ne_true] at hword
    rw [ofArgs?_option _ hword, ih]
    rfl
  | spaced hk harg hvalue _ ih =>
    have hword := Word.ofArg_named harg
    rw [if_pos hk] at hword
    rw [ofArgs?_wanting _ hword hvalue, ih]
    rfl
  | joined hk hvalue harg _ ih =>
    rw [ofArgs?_option _ (Word.ofArg_joined hk hvalue harg), ih]
    rfl
  | rest targets => rfl

end Given

/-- What is written is read, if no option but `--probe` is written twice. -/
theorem Options.parse?_spelled {l : List Given} {args : List String} (h : Given.Spells l args)
    (hsingle : Given.Single l) : parse? args = some (ofGiven l) := by
  unfold parse?
  rw [Given.ofArgs?_spelled h, Option.filter_some, if_pos (decide_eq_true hsingle)]
  rfl

example : Options.parse? ["/shop", "-vl", "warn", "--probe=/cart", "--conf", "gw.ini", "--", "-x"] =
    some ⟨false, true, some "gw.ini", some "warn", ["/shop", "/cart", "-x"]⟩ := by decide +kernel

example : Options.parse? ["-c", "gw.ini", "--config=gw.ini"] = none := by decide +kernel

end App
end ApiGateway
