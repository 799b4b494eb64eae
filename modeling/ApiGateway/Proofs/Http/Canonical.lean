import Mathlib.Data.List.Forall2
import ApiGateway.Proofs.Http.Host

/-!
# The host of a request is in canonical form

Dropping a port leaves none behind, and where a host is cut does not depend on the case of its
letters.  So the host of a request is the same in whatever case it is written, and a request that
names it comes to the same host again.

* `dropPort_cases`            what dropping the port comes to, for any text;
* `dropPort_dropPort`         a second time there is nothing to drop;
* `canonical_eq`              the letters may as well be written small first;
* `hostPort?_map_toLower`     in small letters an absolute target is cut in the same places;
* `Request.Recased q q'`      the requests tell the same host, but for the case of letters;
* `Request.host_canonical`    the host of every request.
-/

namespace ApiGateway

/-! ### Letters -/

namespace Ascii

/-- Bytes as the characters with their codes. -/
def text (bytes : List UInt8) : List Char :=
  bytes.map fun b => Char.ofNat b.toNat

theorem isUpper_toLower (c : Char) : c.toLower.isUpper = false := by
  unfold Char.toLower
  split
  · next h =>
    refine decide_eq_false fun hupper => ?_
    have h65 : 65 ≤ c.val.toNat := UInt32.le_iff_toNat_le.mp h.1
    have h90 : c.val.toNat ≤ 90 := UInt32.le_iff_toNat_le.mp h.2
    have hsmall : (c.val + 32).toNat ≤ 90 := UInt32.le_iff_toNat_le.mp hupper.2
    rw [UInt32.toNat_add, show (32 : UInt32).toNat = 32 from rfl] at hsmall
    omega
  · next h => exact decide_eq_false h

/-- To write the bytes small is to write the letters small. -/
theorem text_map_lowerByte (bytes : List UInt8) :
    text (bytes.map lowerByte) = (text bytes).map Char.toLower := by
  have hcodes : ∀ n : Fin 256, Char.ofNat (lowerByte (UInt8.ofFin n)).toNat =
      (Char.ofNat (UInt8.ofFin n).toNat).toLower := by
    decide +kernel
  unfold text
  rw [List.map_map, List.map_map]
  exact List.map_congr_left fun b _ => hcodes b.toFin

theorem toList_lowerCase_isUpper (s : String) : ∀ c ∈ (lowerCase s).toList, c.isUpper = false := by
  rw [toList_lowerCase]
  intro c hc
  obtain ⟨c', -, rfl⟩ := List.mem_map.mp hc
  exact isUpper_toLower c'

theorem isEmpty_lowerCase (s : String) : (lowerCase s).isEmpty = s.isEmpty := by
  rw [Bool.eq_iff_iff, String.isEmpty_iff, String.isEmpty_iff, ← String.toList_eq_nil_iff,
    ← String.toList_eq_nil_iff, toList_lowerCase, List.map_eq_nil_iff]

end Ascii

/-! ### Absolute targets in small letters -/

namespace Uri

theorem isMark_slash : Ascii.IsMark '/' := by unfold Ascii.IsMark; decide
theorem isMark_at : Ascii.IsMark '@' := by unfold Ascii.IsMark; decide

theorem endsAuthority_toLower (c : Char) : endsAuthority c.toLower = endsAuthority c := by
  have hquery : Ascii.IsMark '?' := by unfold Ascii.IsMark; decide
  have hfragment : Ascii.IsMark '#' := by unfold Ascii.IsMark; decide
  unfold endsAuthority endsPath
  rw [Ascii.beq_toLower isMark_slash, Ascii.beq_toLower hquery, Ascii.beq_toLower hfragment]

theorem afterScheme?_map_toLower (s : List Char) :
    afterScheme? (s.map Char.toLower) = (afterScheme? s).map (List.map Char.toLower) := by
  fun_induction afterScheme? s with
  | case1 => rfl
  | case2 rest => rfl
  | case3 c rest hno ih =>
    rw [List.map_cons, afterScheme?]
    · exact ih
    · -- `://` in small letters is `://`
      intro rest' hc hrest
      obtain ⟨c1, rest1, rfl, h1, hrest1⟩ := List.map_eq_cons_iff.mp hrest
      obtain ⟨c2, rest2, rfl, h2, -⟩ := List.map_eq_cons_iff.mp hrest1
      exact hno rest2 ((Ascii.toLower_eq_iff Host.isMark_colon c).mp hc)
        (by rw [(Ascii.toLower_eq_iff isMark_slash c1).mp h1,
          (Ascii.toLower_eq_iff isMark_slash c2).mp h2])

theorem afterLast_map_toLower {p : Char} (hp : Ascii.IsMark p) (s : List Char) :
    afterLast p (s.map Char.toLower) = (afterLast p s).map Char.toLower := by
  unfold afterLast
  rw [← List.map_reverse, Ascii.takeWhile_map_toLower hp, List.map_reverse]

theorem hostPort?_map_toLower (s : List Char) :
    hostPort? (s.map Char.toLower) = (hostPort? s).map (List.map Char.toLower) := by
  have hcut (rest : List Char) :
      afterLast '@' ((rest.map Char.toLower).takeWhile (!endsAuthority ·)) =
        (afterLast '@' (rest.takeWhile (!endsAuthority ·))).map Char.toLower := by
    have hends : (!endsAuthority ·) ∘ Char.toLower = (!endsAuthority ·) :=
      funext fun c => congrArg (! ·) (endsAuthority_toLower c)
    rw [List.takeWhile_map, hends, afterLast_map_toLower isMark_at]
  unfold hostPort?
  rw [afterScheme?_map_toLower]
  cases afterScheme? s with
  | none => rfl
  | some rest => exact congrArg some (hcut rest)

end Uri

namespace Host

/-! ### The port of any text -/

/-- Everything is left, or the text starts with an address in brackets, or it is a name with a
single `:` behind it. -/
theorem dropPort_cases (s : List Char) : dropPort s = s ∨
    (∃ inner rest, ']' ∉ inner ∧ s = '[' :: inner ++ [']'] ++ rest ∧
      dropPort s = '[' :: inner ++ [']']) ∨
    ∃ name port, ':' ∉ name ∧ name.head? ≠ some '[' ∧ s = name ++ ':' :: port ∧
      dropPort s = name := by
  by_cases hopen : s.head? = some '['
  · by_cases hclose : ']' ∈ s
    · obtain ⟨before, rest, rfl, hbefore⟩ := List.eq_append_cons_of_mem hclose
      cases before with
      | nil => cases hopen
      | cons c inner =>
        obtain rfl : c = '[' := Option.some.inj hopen
        have hinner : ']' ∉ inner := fun h => hbefore (List.mem_cons_of_mem _ h)
        have hs : '[' :: inner ++ ']' :: rest = '[' :: inner ++ [']'] ++ rest := by
          rw [List.append_assoc]
          rfl
        refine .inr (.inl ⟨inner, rest, hinner, hs, ?_⟩)
        rw [hs, dropPort_literal hinner]
    · refine .inl ?_
      unfold dropPort
      rw [if_pos hopen, if_neg hclose]
  · by_cases hcolon : s.count ':' = 1
    · have hmem : ':' ∈ s := List.count_pos_iff.mp (by omega)
      obtain ⟨name, port, rfl, hname⟩ := List.eq_append_cons_of_mem hmem
      have hhead : name.head? ≠ some '[' := by
        cases name with
        | nil => nofun
        | cons c rest => exact hopen
      refine .inr (.inr ⟨name, port, hname, hhead, rfl, ?_⟩)
      unfold dropPort
      rw [if_neg hopen, if_pos hcolon, takeWhile_append_cons hname]
    · refine .inl ?_
      unfold dropPort
      rw [if_neg hopen, if_neg hcolon]

/-- A second time there is nothing to drop. -/
theorem dropPort_dropPort (s : List Char) : dropPort (dropPort s) = dropPort s := by
  rcases dropPort_cases s with h | ⟨inner, rest, hinner, -, h⟩ | ⟨name, port, hname, hhead, -, h⟩
  · rw [h, h]
  · have hliteral := dropPort_literal hinner []
    rw [List.append_nil] at hliteral
    rw [h, hliteral]
  · have hzero : name.count ':' = 0 := List.count_eq_zero.mpr hname
    rw [h]
    unfold dropPort
    rw [if_neg hhead, hzero, if_neg Nat.zero_ne_one]

theorem dropPort_prefix (s : List Char) : dropPort s <+: s := by
  rcases dropPort_cases s with h | ⟨inner, rest, -, hs, h⟩ | ⟨name, port, -, -, hs, h⟩
  · exact ⟨[], (List.append_nil _).trans h⟩
  · rw [h, hs]
    exact List.prefix_append _ _
  · rw [h, hs]
    exact List.prefix_append _ _

/-- For bytes of any kind: what is left are the first of them. -/
theorem dropPort_text (bytes : List UInt8) :
    ∃ left, left <+: bytes ∧ dropPort (Ascii.text bytes) = Ascii.text left := by
  obtain ⟨rest, hrest⟩ := dropPort_prefix (Ascii.text bytes)
  obtain ⟨left, dropped, hbytes, hleft, -⟩ := List.map_eq_append_iff.mp hrest.symm
  exact ⟨left, ⟨dropped, hbytes.symm⟩, hleft.symm⟩

/-! ### Canonical texts -/

/-- The letters may as well be written small first. -/
theorem canonical_eq (s : String) : canonical s = withoutPort (Ascii.lowerCase s) := by
  unfold canonical withoutPort
  rw [Ascii.toList_lowerCase, dropPort_map_toLower]
  unfold Ascii.lowerCase
  rw [String.toList_ofList]

theorem withoutPort_withoutPort (s : String) :
    withoutPort (withoutPort s) = withoutPort s := by
  unfold withoutPort
  rw [String.toList_ofList, dropPort_dropPort]

theorem canonical_canonical (s : String) : canonical (canonical s) = canonical s := by
  calc canonical (canonical s)
      = withoutPort (Ascii.lowerCase (Ascii.lowerCase (withoutPort s))) := canonical_eq _
    _ = withoutPort (Ascii.lowerCase (withoutPort s)) := by rw [Ascii.lowerCase_lowerCase]
    _ = withoutPort (withoutPort (Ascii.lowerCase s)) := by rw [← canonical_eq s, canonical]
    _ = canonical s := by rw [withoutPort_withoutPort, canonical_eq]

theorem ofUri_lowerCase (uri : String) : ofUri (Ascii.lowerCase uri) = ofUri uri := by
  unfold ofUri
  rw [Ascii.toList_lowerCase, Uri.hostPort?_map_toLower]
  cases Uri.hostPort? uri.toList with
  | none => rfl
  | some s =>
    have hlower : String.ofList (s.map Char.toLower) = Ascii.lowerCase (String.ofList s) := by
      unfold Ascii.lowerCase
      rw [String.toList_ofList]
    show canonical (String.ofList (s.map Char.toLower)) = canonical (String.ofList s)
    rw [hlower, canonical_eq, Ascii.lowerCase_lowerCase, ← canonical_eq]

end Host

namespace Request

/-- Whoever asks for the host is told the same by both, but for the case of letters: the targets
differ in it alone, and so do the names of the fields and what the `Host` field holds. -/
structure Recased (q q' : Request) : Prop where
  uri : Ascii.lowerCase q.uri = Ascii.lowerCase q'.uri
  fields : q.headers.fields.Forall₂ (fun f f' =>
    Ascii.SameName (Ascii.bytes f.1) (Ascii.bytes f'.1) ∧
    (Ascii.SameName (Ascii.bytes f.1) (Ascii.bytes "Host") →
      Ascii.lowerCase f.2 = Ascii.lowerCase f'.2)) q'.headers.fields

theorem Recased.get?_host {q q' : Request} (h : q.Recased q') :
    (q.headers.get? "Host").map Ascii.lowerCase = (q'.headers.get? "Host").map Ascii.lowerCase := by
  have hfields := h.fields
  unfold Headers.get?
  generalize q.headers.fields = l at hfields ⊢
  generalize q'.headers.fields = l' at hfields ⊢
  induction hfields with
  | nil => rfl
  | @cons f f' rest rest' hf _ ih =>
    obtain ⟨hname, hvalue⟩ := hf
    have hkey : Ascii.foldKey f.1 = Ascii.foldKey f'.1 :=
      (Ascii.map_lowerByte_eq_iff _ _).mpr hname
    rw [List.find?_cons, List.find?_cons, ← hkey]
    cases hhost : Ascii.foldKey f.1 == Ascii.foldKey "Host" with
    | true =>
      have hsame := (Ascii.map_lowerByte_eq_iff _ _).mp (beq_iff_eq.mp hhost)
      exact congrArg some (hvalue hsame)
    | false => exact ih

theorem Recased.host_eq {q q' : Request} (h : q.Recased q') : q.host = q'.host := by
  have huri : Host.ofUri q.uri = Host.ofUri q'.uri := by
    rw [← Host.ofUri_lowerCase, h.uri, Host.ofUri_lowerCase]
  have hget := h.get?_host
  cases hv : q.headers.get? "Host" with
  | none =>
    have hv' : q'.headers.get? "Host" = none := by
      rw [hv] at hget
      exact Option.map_eq_none_iff.mp hget.symm
    have hnone {q : Request} (hq : q.headers.get? "Host" = none) : q.host = Host.ofUri q.uri :=
      host_of_target fun v hsome => nomatch hq.symm.trans hsome
    rw [hnone hv, hnone hv', huri]
  | some v =>
    rw [hv] at hget
    obtain ⟨v', hv', hlower⟩ := Option.map_eq_some_iff.mp hget.symm
    have hempty : v = "" ↔ v' = "" := by
      rw [← String.isEmpty_iff, ← String.isEmpty_iff, ← Ascii.isEmpty_lowerCase v, ← hlower,
        Ascii.isEmpty_lowerCase]
    by_cases hv0 : v = ""
    · rw [host_of_target fun w hw => (Option.some.inj (hv.symm.trans hw)).symm.trans hv0,
        host_of_target fun w hw => (Option.some.inj (hv'.symm.trans hw)).symm.trans (hempty.mp hv0),
        huri]
    · rw [host_of_field hv hv0, host_of_field hv' fun h0 => hv0 (hempty.mpr h0),
        Host.canonical_eq, Host.canonical_eq, hlower]

/-- There is no host, or it is a canonical text. -/
theorem host_cases (q : Request) : q.host = "" ∨ ∃ s, q.host = Host.canonical s := by
  by_cases hfield : ∃ v, q.headers.get? "Host" = some v ∧ v ≠ ""
  · obtain ⟨v, hget, hne⟩ := hfield
    exact .inr ⟨v, host_of_field hget hne⟩
  · have hempty (v : String) (hget : q.headers.get? "Host" = some v) : v = "" :=
      Decidable.byContradiction fun hne => hfield ⟨v, hget, hne⟩
    rw [host_of_target hempty]
    unfold Host.ofUri
    cases Uri.hostPort? q.uri.toList with
    | none => exact .inl rfl
    | some s => exact .inr ⟨_, rfl⟩

/-- The host of a request is in canonical form.

Dropping the port of any text, or of bytes of any kind, leaves no port behind, and comes to the same
before and after the letters are written small.  Requests that differ in the case of letters alone
have the same host.  There is no capital in it, and a request whose `Host` field holds it, if it is
not empty, has the same host. -/
theorem host_canonical :
    (∀ s, Host.withoutPort (Host.withoutPort s) = Host.withoutPort s ∧
      Host.withoutPort (Ascii.lowerCase s) = Ascii.lowerCase (Host.withoutPort s)) ∧
    (∀ bytes, ∃ left, left <+: bytes ∧ Host.dropPort (Ascii.text bytes) = Ascii.text left ∧
      Host.dropPort (Ascii.text left) = Ascii.text left ∧
      Host.dropPort (Ascii.text (bytes.map Ascii.lowerByte)) =
        Ascii.text (left.map Ascii.lowerByte)) ∧
    (∀ q q' : Request, q.Recased q' → q.host = q'.host) ∧
    ∀ q : Request, (∀ c ∈ q.host.toList, c.isUpper = false) ∧
      (q.host ≠ "" →
        ∀ q' : Request, q'.headers.get? "Host" = some q.host → q'.host = q.host) := by
  refine ⟨fun s => ⟨Host.withoutPort_withoutPort s, (Host.canonical_eq s).symm⟩, fun bytes => ?_,
    fun q q' h => h.host_eq, fun q => ⟨?_, fun hne q' hget => ?_⟩⟩
  · obtain ⟨left, hprefix, hleft⟩ := Host.dropPort_text bytes
    refine ⟨left, hprefix, hleft, ?_, ?_⟩
    · rw [← hleft, Host.dropPort_dropPort]
    · rw [Ascii.text_map_lowerByte, Host.dropPort_map_toLower, hleft, Ascii.text_map_lowerByte]
  · rcases q.host_cases with h | ⟨s, h⟩
    · rw [h]
      exact fun c hc => absurd hc List.not_mem_nil
    · rw [h]
      exact Ascii.toList_lowerCase_isUpper _
  · rw [host_of_field hget hne]
    rcases q.host_cases with h | ⟨s, h⟩
    · exact absurd h hne
    · rw [h, Host.canonical_canonical]

theorem host_canonical_literal :
    let q : Request :=
      { uri := "http://Other.example/",
        headers := .ofList [("hOST", "[2001:DB8::A]:8080"), ("Accept", "*/*")] }
    let q' : Request :=
      { uri := "HTTP://other.EXAMPLE/",
        headers := .ofList [("ACCEPT", "text/html"), ("Host", "[2001:db8::A]:8080")] }
    let p : Request := { headers := .ofList [("HOST", "[2001:db8::a]")] }
    (q.Recased q' ∧ q.host ≠ "" ∧ p.headers.get? "Host" = some q.host) ∧
      q.host = "[2001:db8::a]" ∧ q.host = q'.host ∧ p.host = q.host := by
  intro q q' p
  have hsame (a b : String) : Ascii.foldKey a = Ascii.foldKey b ↔
      Ascii.SameName (Ascii.bytes a) (Ascii.bytes b) := Ascii.map_lowerByte_eq_iff _ _
  have hother : ¬ Ascii.SameName (Ascii.bytes "Accept") (Ascii.bytes "Host") := by
    rw [← hsame]
    decide +kernel
  have hrecased : q.Recased q' :=
    ⟨by decide +kernel, .cons ⟨(hsame _ _).mp (by decide +kernel), fun h => absurd h hother⟩
      (.cons ⟨(hsame _ _).mp (by decide +kernel), fun _ => by decide +kernel⟩ .nil)⟩
  have hne : q.host ≠ "" := by decide +kernel
  have hasks : p.headers.get? "Host" = some q.host := by decide +kernel
  obtain ⟨-, -, hinvariant, hcanonical⟩ := host_canonical
  exact ⟨⟨hrecased, hne, hasks⟩, by decide +kernel, hinvariant q q' hrecased,
    (hcanonical q).2 hne p hasks⟩

end Request
end ApiGateway
