import ApiGateway.Proofs.Http.Host

/-!
# Where the path of a target begins

A target is read from the first `://` in it, wherever that stands.  Of a target that has none the
path is everything before the query or the fragment.  Of an absolute target it is what follows the
authority, if a `/` follows; if a query or a fragment follows, the path begins at the first `/` in
there.

* `Uri.afterScheme?_eq_none_iff`, `Uri.afterScheme?_first`   where a target is split;
* `Uri.path_plain`, `Uri.path_split`   the path of a target without and with a `://`;
* `Uri.path_precedes_query`   both forms of targets;
* `Uri.query_taken_for_path`   a `/` in a query, or a `://`, brings the query into the path.
-/

namespace ApiGateway
namespace Uri

/-- What stands between a scheme and an authority. -/
def schemeEnd : List Char := [':', '/', '/']

/-! ### The first `://` -/

theorem afterScheme?_cons {c : Char} {rest : List Char} (h : ¬ schemeEnd <+: c :: rest) :
    afterScheme? (c :: rest) = afterScheme? rest := by
  rw [afterScheme?]
  rintro r rfl rfl
  exact h (List.prefix_append schemeEnd r)

theorem afterScheme?_eq_none_iff {u : List Char} :
    afterScheme? u = none ↔ ¬ schemeEnd <:+: u := by
  induction u with
  | nil => simp [afterScheme?, schemeEnd]
  | cons c rest ih =>
    rw [List.infix_cons_iff, not_or]
    by_cases h : schemeEnd <+: c :: rest
    · obtain ⟨r, hr⟩ := h
      have hsome : afterScheme? (c :: rest) = some r := by
        rw [← hr]
        rfl
      rw [hsome]
      exact ⟨fun h => (Option.some_ne_none r h).elim, fun h => absurd ⟨r, hr⟩ h.1⟩
    · rw [afterScheme?_cons h, ih]
      exact ⟨fun h' => ⟨h, h'⟩, And.right⟩

/-- A target is split at its first `://`. -/
theorem afterScheme?_first {before : List Char} (h : ¬ schemeEnd <:+: before ++ [':', '/'])
    (rest : List Char) : afterScheme? (before ++ schemeEnd ++ rest) = some rest := by
  induction before with
  | nil => rfl
  | cons c cs ih =>
    rw [List.cons_append, List.infix_cons_iff, not_or] at h
    have hcons : ¬ schemeEnd <+: c :: (cs ++ schemeEnd ++ rest) := by
      intro hp
      refine h.1 (List.prefix_of_prefix_length_le hp ⟨'/' :: rest, ?_⟩ ?_)
      · simp [schemeEnd]
      · simp [schemeEnd]
    rw [List.cons_append, List.cons_append, afterScheme?_cons hcons]
    exact ih h.2

theorem not_infix_of_not_mem {scheme : List Char} (h : ':' ∉ scheme) :
    ¬ schemeEnd <:+: scheme ++ [':', '/'] := by
  induction scheme with
  | nil => simp [schemeEnd, List.infix_cons_iff]
  | cons c cs ih =>
    rw [List.mem_cons, not_or] at h
    rw [List.cons_append, List.infix_cons_iff, not_or]
    refine ⟨fun hp => h.1 ?_, ih h.2⟩
    simpa [schemeEnd] using (List.cons_prefix_cons.mp hp).1

/-! ### The path -/

/-- A target without a `://` has its path before the query and the fragment. -/
theorem path_plain {u : List Char} (h : ¬ schemeEnd <:+: u) :
    path (String.ofList u) = String.ofList (orRoot (u.takeWhile (!endsPath ·))) := by
  unfold path fromPath
  rw [String.toList_ofList, afterScheme?_eq_none_iff.mpr h]

/-- A target with a `://` has its path from the first `/` behind it. -/
theorem path_split {before : List Char} (h : ¬ schemeEnd <:+: before ++ [':', '/'])
    (rest : List Char) : path (String.ofList (before ++ schemeEnd ++ rest)) =
      String.ofList (orRoot ((orRoot (rest.dropWhile (· != '/'))).takeWhile (!endsPath ·))) := by
  unfold path fromPath
  rw [String.toList_ofList, afterScheme?_first h]

theorem orRoot_cons (c : Char) (s : List Char) : orRoot (c :: s) = c :: s := rfl

theorem orRoot_of_head {s : List Char} (h : s.head? = some '/') : orRoot s = s := by
  cases s with
  | nil => cases h
  | cons c rest => rfl

theorem head?_takeWhile_slash {s : List Char} (h : s.head? = some '/') :
    (s.takeWhile (!endsPath ·)).head? = some '/' := by
  cases s with
  | nil => cases h
  | cons c rest =>
    obtain rfl : c = '/' := by simpa using h
    rw [List.takeWhile_cons_of_pos (by decide)]
    rfl

/-- The characters that a scheme is made of. -/
def isSchemeChar (c : Char) : Bool :=
  c.isAlphanum || c == '+' || c == '-' || c == '.'

theorem not_mem_scheme {scheme : List Char} (h : ∀ c ∈ scheme, isSchemeChar c = true) :
    ':' ∉ scheme := by
  intro hmem
  have hcolon := h ':' hmem
  revert hcolon
  decide

/-- An absolute target has its path from the first `/` of what follows the authority. -/
theorem path_absolute {scheme authority : List Char} (hs : ∀ c ∈ scheme, isSchemeChar c = true)
    (ha : ∀ c ∈ authority, endsAuthority c = false) (rest : List Char) :
    path (String.ofList (scheme ++ schemeEnd ++ (authority ++ rest))) =
      String.ofList (orRoot ((orRoot (rest.dropWhile (· != '/'))).takeWhile (!endsPath ·))) := by
  have hslash : '/' ∉ authority := fun hmem => nomatch ha '/' hmem
  rw [path_split (not_infix_of_not_mem (not_mem_scheme hs)), dropWhile_ne hslash]

/-- The path of a target is what precedes its query and its fragment.

So it is for a target that begins with `/`, if there is no `://` in it, and for an absolute target,
if its path is not empty or there is no `/` in its query and its fragment.  With a `://` somewhere
in it, a target that begins with `/` has its path from the first `/` behind what follows.  An
absolute target with an empty path has its path from the first `/` of its query or fragment. -/
theorem path_precedes_query (u : List Char) :
    (u.head? = some '/' →
      (¬ schemeEnd <:+: u →
        path (String.ofList u) = String.ofList (u.takeWhile (!endsPath ·))) ∧
      ∀ before rest, u = before ++ schemeEnd ++ rest → ¬ schemeEnd <:+: before ++ [':', '/'] →
        path (String.ofList u) =
          String.ofList (orRoot ((orRoot (rest.dropWhile (· != '/'))).takeWhile (!endsPath ·)))) ∧
    ∀ scheme authority rest : List Char, u = scheme ++ schemeEnd ++ (authority ++ rest) →
      scheme ≠ [] → (∀ c ∈ scheme, isSchemeChar c = true) →
      (∀ c ∈ authority, endsAuthority c = false) →
      (∀ c, rest.head? = some c → endsAuthority c = true) →
      (rest.head? = some '/' ∨ '/' ∉ rest →
        path (String.ofList u) = String.ofList (orRoot (rest.takeWhile (!endsPath ·)))) ∧
      ∀ query more, rest = query ++ '/' :: more → query ≠ [] → '/' ∉ query →
        path (String.ofList u) = String.ofList ('/' :: more.takeWhile (!endsPath ·)) := by
  refine ⟨fun hu => ⟨fun hplain => ?_, ?_⟩, ?_⟩
  · rw [path_plain hplain, orRoot_of_head (head?_takeWhile_slash hu)]
  · rintro before rest rfl hfirst
    exact path_split hfirst rest
  · rintro scheme authority rest rfl - hs ha hrest
    rw [path_absolute hs ha]
    refine ⟨?_, ?_⟩
    · rintro (hslash | hnone)
      · have hdrop : rest.dropWhile (· != '/') = rest := by
          cases rest with
          | nil => rfl
          | cons c more =>
            obtain rfl : c = '/' := by simpa using hslash
            rfl
        rw [hdrop, orRoot_of_head hslash]
      · -- without a `/` what follows the authority is a query or a fragment, and the path is `/`
        have hdrop : rest.dropWhile (· != '/') = [] := by
          simpa using dropWhile_ne hnone []
        have htake : rest.takeWhile (!endsPath ·) = [] := by
          cases rest with
          | nil => rfl
          | cons c more =>
            have hc : c ≠ '/' := fun heq => hnone (heq ▸ List.mem_cons_self)
            have hend : endsPath c = true := by
              simpa [endsAuthority, hc] using hrest c rfl
            simp [hend]
        rw [hdrop, htake]
        rfl
    · rintro query more rfl - hquery
      have hdrop : (query ++ '/' :: more).dropWhile (· != '/') = '/' :: more := by
        rw [dropWhile_ne hquery]
        rfl
      rw [hdrop, orRoot_cons, List.takeWhile_cons_of_pos (by decide), orRoot_cons]

theorem path_precedes_query_probes :
    path "/shop/cart?next=//evil.example/#top" = "/shop/cart" ∧
      path "http://me@shop.example:8080?next=evil" = "/" ∧
      path "https+git://shop.example/cart/?next=http://evil.example/#/top" = "/cart/" := by
  have hfree {s : String} (hs : s.toList.all (!endsAuthority ·) = true) :
      ∀ c ∈ s.toList, endsAuthority c = false := by
    intro c hc
    rw [← Bool.not_eq_true']
    exact List.all_eq_true.mp hs c hc
  refine ⟨?_, ?_, ?_⟩
  · exact ((path_precedes_query "/shop/cart?next=//evil.example/#top".toList).1 (by decide)).1
      (by decide +kernel)
  · refine ((path_precedes_query "http://me@shop.example:8080?next=evil".toList).2
      "http".toList "me@shop.example:8080".toList "?next=evil".toList (by decide +kernel)
      (by decide) (List.all_eq_true.mp (by decide +kernel)) (hfree (by decide +kernel)) ?_).1
      (.inr (by decide +kernel))
    intro c hc
    cases hc
    rfl
  · refine ((path_precedes_query
      "https+git://shop.example/cart/?next=http://evil.example/#/top".toList).2
      "https+git".toList "shop.example".toList "/cart/?next=http://evil.example/#/top".toList
      (by decide +kernel) (by decide) (List.all_eq_true.mp (by decide +kernel))
      (hfree (by decide +kernel)) ?_).1 (.inl (by decide +kernel))
    intro c hc
    cases hc
    rfl

/-- A query is taken for the path if it holds a `://`, and in an absolute target with an empty path
if it holds a `/`. -/
theorem query_taken_for_path :
    ("/login?next=http://evil.example/admin".toList.takeWhile (!endsPath ·) = "/login".toList ∧
      path "/login?next=http://evil.example/admin" = "/admin") ∧
    ("?next=/admin".toList.takeWhile (!endsPath ·) = [] ∧
      path "http://shop.example?next=/admin" = "/admin") := by
  decide +kernel

end Uri
end ApiGateway
