import ApiGateway.Http.Host
import ApiGateway.Proofs.Http.Letters
import ApiGateway.Proofs.Text.Separators

/-!
# Hosts as requests spell them

A virtual host is kept in small letters and without a port.  Whatever the case of its letters, and
whatever port follows, a request for it comes to the same text.

* `Host.Plain`          a name without `:`, or an address in brackets;
* `Host.Spells v w`     `w` is `v` in letters of any case, with or without a port;
* `dropPort_spelled`    the port of such a spelling is dropped;
* `hostPort?_absolute`  what an absolute target has between user information and path;
* `canonical_spelled`, `ofUri_absolute`   both ways to tell the host of a request;
* `Request.host_of_field`, `Request.host_of_target`   when the field and when the target tells it.
-/

namespace ApiGateway
namespace Host

/-- A host that can be told from a port behind it: a name without `:`, or what stands between
brackets. -/
inductive Plain : List Char → Prop
  | name {v : List Char} (hne : v ≠ []) (hcolon : ':' ∉ v) (hopen : v.head? ≠ some '[') : Plain v
  | literal {inner : List Char} (hclose : ']' ∉ inner) : Plain ('[' :: inner ++ [']'])

/-- A spelling of the host, with or without a port.  Behind a closing bracket anything may stand. -/
inductive Spells (v : List Char) : List Char → Prop
  | bare {w : List Char} (hw : w.map Char.toLower = v.map Char.toLower) : Spells v w
  | port {w port : List Char} (hw : w.map Char.toLower = v.map Char.toLower)
    (hport : ':' ∉ port) : Spells v (w ++ ':' :: port)
  | literal {w rest : List Char} (hw : w.map Char.toLower = v.map Char.toLower)
    (hopen : v.head? = some '[') : Spells v (w ++ rest)

theorem isMark_colon : Ascii.IsMark ':' := by unfold Ascii.IsMark; decide
theorem isMark_open : Ascii.IsMark '[' := by unfold Ascii.IsMark; decide
theorem isMark_close : Ascii.IsMark ']' := by unfold Ascii.IsMark; decide

/-! ### The port -/

/-- Dropping the port and writing small come to the same in either order. -/
theorem dropPort_map_toLower (s : List Char) :
    dropPort (s.map Char.toLower) = (dropPort s).map Char.toLower := by
  unfold dropPort
  simp only [Ascii.head?_map_toLower isMark_open, Ascii.mem_map_toLower isMark_close,
    Ascii.count_map_toLower isMark_colon, Ascii.takeWhile_map_toLower isMark_colon,
    Ascii.takeWhile_map_toLower isMark_close]
  by_cases hopen : s.head? = some '['
  · rw [if_pos hopen, if_pos hopen]
    by_cases hclose : ']' ∈ s
    · rw [if_pos hclose, if_pos hclose, List.map_append]
      rfl
    · rw [if_neg hclose, if_neg hclose]
  · rw [if_neg hopen, if_neg hopen]
    by_cases hcolon : s.count ':' = 1
    · rw [if_pos hcolon, if_pos hcolon]
    · rw [if_neg hcolon, if_neg hcolon]

theorem Plain.ne_nil {v : List Char} (h : Plain v) : v ≠ [] := by
  cases h with
  | name hne => exact hne
  | literal => exact List.cons_ne_nil _ _

theorem dropPort_name {v port : List Char} (hne : v ≠ []) (hcolon : ':' ∉ v)
    (hopen : v.head? ≠ some '[') (hport : ':' ∉ port) :
    dropPort v = v ∧ dropPort (v ++ ':' :: port) = v := by
  have hzero : v.count ':' = 0 := List.count_eq_zero.mpr hcolon
  have hone : (v ++ ':' :: port).count ':' = 1 := by
    rw [List.count_append, List.count_cons_self, hzero, List.count_eq_zero.mpr hport]
  have hhead : (v ++ ':' :: port).head? ≠ some '[' := by
    cases v with
    | nil => exact absurd rfl hne
    | cons c rest => exact hopen
  unfold dropPort
  rw [if_neg hopen, if_neg hhead, if_pos hone, hzero, if_neg Nat.zero_ne_one]
  exact ⟨rfl, takeWhile_append_cons hcolon port⟩

theorem dropPort_literal {inner : List Char} (hclose : ']' ∉ inner) (rest : List Char) :
    dropPort ('[' :: inner ++ [']'] ++ rest) = '[' :: inner ++ [']'] := by
  have hmem : ']' ∈ '[' :: inner ++ [']'] ++ rest :=
    List.mem_append_left _ (List.mem_append_right _ List.mem_cons_self)
  have hcons : ']' ∉ '[' :: inner := by
    rw [List.mem_cons]
    exact fun h => h.elim (by decide) hclose
  have htake : ('[' :: inner ++ [']'] ++ rest).takeWhile (· != ']') = '[' :: inner := by
    rw [List.append_assoc]
    exact takeWhile_append_cons hcons rest
  have hhead : ('[' :: inner ++ [']'] ++ rest).head? = some '[' := rfl
  unfold dropPort
  rw [if_pos hhead, if_pos hmem, htake]

theorem Plain.map_toLower {v : List Char} (h : Plain v) : Plain (v.map Char.toLower) := by
  cases h with
  | name hne hcolon hopen =>
    refine .name (fun h => hne (List.map_eq_nil_iff.mp h)) ?_ ?_
    · rwa [Ascii.mem_map_toLower isMark_colon]
    · intro h
      exact hopen ((Ascii.head?_map_toLower isMark_open v).mp h)
  | @literal inner hclose =>
    have hinner : ']' ∉ inner.map Char.toLower := by
      rwa [Ascii.mem_map_toLower isMark_close]
    have hmap : ('[' :: inner ++ [']']).map Char.toLower =
        '[' :: inner.map Char.toLower ++ [']'] := by
      rw [List.map_append]
      rfl
    rw [hmap]
    exact .literal hinner

theorem dropPort_plain {v : List Char} (h : Plain v) : dropPort v = v ∧
    (∀ port, ':' ∉ port → dropPort (v ++ ':' :: port) = v) ∧
    (v.head? = some '[' → ∀ rest, dropPort (v ++ rest) = v) := by
  cases h with
  | name hne hcolon hopen =>
    have hnone : ':' ∉ ([] : List Char) := List.not_mem_nil
    exact ⟨(dropPort_name hne hcolon hopen hnone).1,
      fun port hport => (dropPort_name hne hcolon hopen hport).2, fun h => absurd h hopen⟩
  | literal hclose =>
    have hbare := dropPort_literal hclose []
    rw [List.append_nil] at hbare
    exact ⟨hbare, fun port _ => dropPort_literal hclose _,
      fun _ rest => dropPort_literal hclose rest⟩

/-- A spelling comes to the host in small letters. -/
theorem dropPort_spelled {v w : List Char} (hv : Plain v) (hw : Spells v w) :
    (dropPort w).map Char.toLower = v.map Char.toLower := by
  obtain ⟨hbare, hport, hopen⟩ := dropPort_plain hv.map_toLower
  rw [← dropPort_map_toLower]
  cases hw with
  | bare h => rw [h, hbare]
  | port h hp =>
    rw [List.map_append, h]
    exact hport _ (by rwa [Ascii.mem_map_toLower isMark_colon])
  | literal h hhead =>
    rw [List.map_append, h]
    exact hopen ((Ascii.head?_map_toLower isMark_open v).mpr hhead) _

theorem Spells.ne_nil {v w : List Char} (hv : Plain v) (hw : Spells v w) : w ≠ [] := by
  have hmap {w : List Char} (h : w.map Char.toLower = v.map Char.toLower) : w ≠ [] := by
    rintro rfl
    exact hv.ne_nil (List.map_eq_nil_iff.mp h.symm)
  cases hw with
  | bare h => exact hmap h
  | port h => exact fun heq => hmap h (List.append_eq_nil_iff.mp heq).1
  | literal h => exact fun heq => hmap h (List.append_eq_nil_iff.mp heq).1

theorem canonical_spelled {v w : String} (hv : Plain v.toList) (hw : Spells v.toList w.toList) :
    canonical w = Ascii.lowerCase v := by
  unfold canonical withoutPort Ascii.lowerCase
  rw [String.toList_ofList, dropPort_spelled hv hw]

end Host

/-! ### Absolute targets -/

namespace Uri

/-- The parts of an absolute target. -/
structure Absolute where
  scheme : List Char
  user : Option (List Char)
  host : List Char
  port : Option (List Char)
  tail : List Char

namespace Absolute

variable (u : Absolute)

def hostPort : List Char :=
  u.host ++ u.port.elim [] (':' :: ·)

def authority : List Char :=
  u.user.elim [] (· ++ ['@']) ++ u.hostPort

/-- `scheme://[user@]host[:port]tail` -/
def text : List Char :=
  u.scheme ++ ':' :: '/' :: '/' :: (u.authority ++ u.tail)

/-- Each part ends where the next one begins. -/
structure WellFormed : Prop where
  scheme : ':' ∉ u.scheme
  user : ∀ s ∈ u.user, ∀ c ∈ s, endsAuthority c = false
  host : ∀ c ∈ u.host, endsAuthority c = false ∧ c ≠ '@'
  port : ∀ s ∈ u.port, ∀ c ∈ s, c.isDigit = true
  tail : ∀ c, u.tail.head? = some c → endsAuthority c = true

end Absolute

theorem afterScheme?_append {scheme : List Char} (h : ':' ∉ scheme) (rest : List Char) :
    afterScheme? (scheme ++ ':' :: '/' :: '/' :: rest) = some rest := by
  induction scheme with
  | nil => rfl
  | cons c cs ih =>
    rw [List.mem_cons, not_or] at h
    rw [List.cons_append, afterScheme?]
    · exact ih h.2
    · intro _ heq
      exact absurd heq.symm h.1

theorem afterLast_of_not_mem {c : Char} {s : List Char} (h : c ∉ s) : afterLast c s = s := by
  have hall : ∀ x ∈ s.reverse, (x != c) = true := by
    intro x hx
    exact bne_iff_ne.mpr fun heq => h (heq ▸ List.mem_reverse.mp hx)
  have htake : (s.reverse ++ []).takeWhile (· != c) = s.reverse ++ [].takeWhile (· != c) :=
    List.takeWhile_append_of_pos hall
  rw [List.append_nil, List.takeWhile_nil, List.append_nil] at htake
  unfold afterLast
  rw [htake, List.reverse_reverse]

theorem afterLast_append {c : Char} (a : List Char) {s : List Char} (h : c ∉ s) :
    afterLast c (a ++ c :: s) = s := by
  unfold afterLast
  rw [List.reverse_append, List.reverse_cons, List.append_assoc, List.singleton_append,
    takeWhile_append_cons (fun hmem => h (List.mem_reverse.mp hmem)), List.reverse_reverse]

theorem takeWhile_authority {a tail : List Char} (ha : ∀ c ∈ a, endsAuthority c = false)
    (htail : ∀ c, tail.head? = some c → endsAuthority c = true) :
    (a ++ tail).takeWhile (!endsAuthority ·) = a := by
  have hall : ∀ c ∈ a, (!endsAuthority c) = true := fun c hc => by rw [ha c hc]; rfl
  rw [List.takeWhile_append_of_pos hall]
  cases tail with
  | nil => exact List.append_nil a
  | cons c rest =>
    have hstop : ¬ (!endsAuthority c) = true := by
      rw [htail c rfl]
      exact Bool.false_ne_true
    rw [List.takeWhile_cons, if_neg hstop, List.append_nil]

section
variable {u : Absolute} (hu : u.WellFormed)
include hu

theorem Absolute.WellFormed.mem_hostPort {c : Char} (hc : c ∈ u.hostPort) :
    endsAuthority c = false ∧ c ≠ '@' := by
  rcases List.mem_append.mp hc with hc | hc
  · exact hu.host c hc
  · cases hport : u.port with
    | none =>
      rw [hport] at hc
      exact absurd hc List.not_mem_nil
    | some port =>
      rw [hport] at hc
      rcases List.mem_cons.mp hc with rfl | hc
      · decide
      · have hdigit := hu.port port hport c hc
        refine ⟨?_, fun heq => ?_⟩
        · unfold endsAuthority endsPath
          simp only [Bool.or_eq_false_iff, beq_eq_false_iff_ne]
          refine ⟨?_, ?_, ?_⟩ <;> (rintro rfl; exact absurd hdigit (by decide))
        · rw [heq] at hdigit
          exact absurd hdigit (by decide)

/-- An absolute target has its host and port between user information and path. -/
theorem hostPort?_absolute : hostPort? u.text = some u.hostPort := by
  have hat : '@' ∉ u.hostPort := fun h => (hu.mem_hostPort h).2 rfl
  have hclean : ∀ c ∈ u.authority, endsAuthority c = false := by
    intro c hc
    rcases List.mem_append.mp hc with hc | hc
    · cases huser : u.user with
      | none =>
        rw [huser] at hc
        exact absurd hc List.not_mem_nil
      | some user =>
        rw [huser] at hc
        rcases List.mem_append.mp hc with hc | hc
        · exact hu.user user huser c hc
        · rw [List.mem_singleton.mp hc]
          rfl
    · exact (hu.mem_hostPort hc).1
  have hlast : afterLast '@' u.authority = u.hostPort := by
    unfold Absolute.authority
    cases u.user with
    | none => exact afterLast_of_not_mem hat
    | some user =>
      show afterLast '@' (user ++ ['@'] ++ u.hostPort) = _
      rw [List.append_assoc]
      exact afterLast_append user hat
  unfold hostPort? Absolute.text
  rw [afterScheme?_append hu.scheme, Option.map_some, takeWhile_authority hclean hu.tail, hlast]

end
end Uri

/-- The host of an absolute target, in whatever case it is written. -/
theorem Host.ofUri_absolute {u : Uri.Absolute} (hu : u.WellFormed) {v : String}
    (hv : Host.Plain v.toList)
    (hhost : u.host.map Char.toLower = v.toList.map Char.toLower) :
    Host.ofUri (String.ofList u.text) = Ascii.lowerCase v := by
  have hspells : Host.Spells v.toList (String.ofList u.hostPort).toList := by
    rw [String.toList_ofList]
    unfold Uri.Absolute.hostPort
    cases hport : u.port with
    | none =>
      show Host.Spells _ (u.host ++ [])
      rw [List.append_nil]
      exact .bare hhost
    | some port =>
      refine .port hhost fun hcolon => ?_
      have hdigit := hu.port port hport ':' hcolon
      exact absurd hdigit (by decide)
  unfold Host.ofUri
  rw [String.toList_ofList, Uri.hostPort?_absolute hu]
  exact Host.canonical_spelled hv hspells

/-! ### The two ways to tell the host of a request -/

theorem Request.host_of_field {q : Request} {value : String}
    (hget : q.headers.get? "Host" = some value) (hne : value ≠ "") :
    q.host = Host.canonical value := by
  have hfull : ¬ value.isEmpty = true := fun h => hne (String.isEmpty_iff.mp h)
  unfold Request.host
  rw [hget]
  exact if_neg hfull

theorem Request.host_of_target {q : Request}
    (hnone : ∀ value, q.headers.get? "Host" = some value → value = "") :
    q.host = Host.ofUri q.uri := by
  unfold Request.host
  cases hget : q.headers.get? "Host" with
  | none => rfl
  | some value => exact if_pos (String.isEmpty_iff.mpr (hnone value hget))

end ApiGateway
