import ApiGateway.Proofs.Http.Target

/-!
# The host in an authority

The host of an absolute target stands between the user information and the port.  What the other
parts consist of has no say: user information may hold `:` and `@`, and behind the authority
anything may follow.

* `Host.Written`        a host as an absolute target writes it;
* `dropPort_written`    the port behind it is dropped;
* `ofUri_text`          the host of an absolute target.
-/

namespace ApiGateway

theorem Uri.isDigit_ne_colon {c : Char} (h : c.isDigit = true) : c ≠ ':' := by
  rintro rfl
  exact absurd h (by decide)

namespace Host

/-- A host as an absolute target writes it: a name, which may be empty, or an address in
brackets. -/
inductive Written : List Char → Prop
  | name {v : List Char} (h : ∀ c ∈ v, c ∉ [':', '/', '?', '#', '@', '[']) : Written v
  | literal {inner : List Char} (h : ∀ c ∈ inner, c ∉ [']', '/', '?', '#', '@']) :
    Written ('[' :: inner ++ [']'])

theorem outside_of_not_mem {c : Char} (h : c ∉ ['/', '?', '#', '@']) :
    Uri.endsAuthority c = false ∧ c ≠ '@' := by
  simpa [Uri.endsAuthority, Uri.endsPath, and_assoc] using h

section
variable {v : List Char} (hv : Written v)
include hv

/-- No character of the host ends the authority or the user information. -/
theorem Written.outside : ∀ c ∈ v, Uri.endsAuthority c = false ∧ c ≠ '@' := by
  intro c hc
  cases hv with
  | name h =>
    refine outside_of_not_mem fun hmem => h c hc (List.mem_cons_of_mem _ ?_)
    exact List.mem_append_left ['['] hmem
  | literal h =>
    rcases List.mem_append.mp hc with hc | hc
    · rcases List.mem_cons.mp hc with rfl | hc
      · decide
      · exact outside_of_not_mem fun hmem => h c hc (List.mem_cons_of_mem _ hmem)
    · rw [List.mem_singleton.mp hc]
      decide

theorem dropPort_written : dropPort v = v ∧
    ∀ port, ':' ∉ port → dropPort (v ++ ':' :: port) = v := by
  by_cases hempty : v = []
  · subst hempty
    refine ⟨rfl, fun port hport => ?_⟩
    have hone : (':' :: port).count ':' = 1 := by
      rw [List.count_cons_self, List.count_eq_zero.mpr hport]
    have hname : (':' :: port).head? ≠ some '[' := by
      rw [List.head?_cons]
      decide
    show dropPort (':' :: port) = []
    unfold dropPort
    rw [if_neg hname, if_pos hone]
    rfl
  · have hplain : Plain v := by
      cases hv with
      | name h =>
        refine .name hempty (fun hmem => h ':' hmem (by decide)) fun hopen => ?_
        exact h '[' (List.mem_of_mem_head? hopen) (by decide)
      | literal h => exact .literal fun hmem => h ']' hmem (by decide)
    obtain ⟨hbare, hport, -⟩ := dropPort_plain hplain
    exact ⟨hbare, hport⟩

end

/-- The host of `scheme://[user@]host[:port]tail` is the host in small letters, with its brackets
if it has any. -/
theorem ofUri_text (u : Uri.Absolute) (hscheme : ∀ c ∈ u.scheme, Uri.isSchemeChar c = true)
    (huser : ∀ s ∈ u.user, ∀ c ∈ s, Uri.endsAuthority c = false) (hhost : Written u.host)
    (hport : ∀ s ∈ u.port, ∀ c ∈ s, c.isDigit = true)
    (htail : ∀ c, u.tail.head? = some c → Uri.endsAuthority c = true) :
    ofUri (String.ofList u.text) = String.ofList (u.host.map Char.toLower) ∧
      ∀ inner, u.host = '[' :: inner ++ [']'] → ofUri (String.ofList u.text) =
        String.ofList ('[' :: inner.map Char.toLower ++ [']']) := by
  have hu : u.WellFormed :=
    ⟨Uri.not_mem_scheme hscheme, huser, hhost.outside, hport, htail⟩
  have hdrop : dropPort u.hostPort = u.host := by
    obtain ⟨hbare, hcolon⟩ := dropPort_written hhost
    unfold Uri.Absolute.hostPort
    cases hp : u.port with
    | none =>
      show dropPort (u.host ++ []) = u.host
      rw [List.append_nil, hbare]
    | some port => exact hcolon port fun hmem => Uri.isDigit_ne_colon (hport port hp ':' hmem) rfl
  have hhere : ofUri (String.ofList u.text) = String.ofList (u.host.map Char.toLower) := by
    unfold ofUri
    rw [String.toList_ofList, Uri.hostPort?_absolute hu]
    show Ascii.lowerCase (withoutPort (String.ofList u.hostPort)) = _
    unfold withoutPort Ascii.lowerCase
    rw [String.toList_ofList, String.toList_ofList, hdrop]
  refine ⟨hhere, fun inner hinner => ?_⟩
  rw [hhere, hinner, List.map_append]
  rfl

theorem ofUri_text_literal :
    ofUri "git+SSH-2.0://Me:pw@home@[2001:DB8::A]:8022/Cart@b:1?next=http://c:2@d/[E]#f" =
      "[2001:db8::a]" := by
  have hall {p : Char → Bool} {s : List Char} (hs : s.all p = true) : ∀ c ∈ s, p c = true :=
    List.all_eq_true.mp hs
  have hinner : ∀ c ∈ "2001:DB8::A".toList, c ∉ [']', '/', '?', '#', '@'] := by
    have h := hall (p := fun c => c ∉ [']', '/', '?', '#', '@'])
      (s := "2001:DB8::A".toList) (by decide +kernel)
    simpa only [decide_eq_true_eq] using h
  have huser : ∀ c ∈ "Me:pw@home".toList, Uri.endsAuthority c = false := by
    have h := hall (p := (!Uri.endsAuthority ·)) (s := "Me:pw@home".toList) (by decide +kernel)
    simpa only [Bool.not_eq_true'] using h
  refine (ofUri_text ⟨"git+SSH-2.0".toList, some "Me:pw@home".toList,
    '[' :: "2001:DB8::A".toList ++ [']'], some "8022".toList,
    "/Cart@b:1?next=http://c:2@d/[E]#f".toList⟩ (hall (by decide +kernel)) ?_ (.literal hinner)
    ?_ ?_).2 "2001:DB8::A".toList rfl
  · rintro s ⟨⟩
    exact huser
  · rintro s ⟨⟩
    exact hall (by decide +kernel)
  · rintro c ⟨⟩
    decide

end Host
end ApiGateway
