/-!
# Texts cut at a separator

A text is cut at the first place where a separator stands.

* `takeWhile_append_cons`, `dropWhile_append_cons`   what stands before it and from it on;
* `dropWhile_ne`   a text without the separator in front of another.
-/

namespace ApiGateway

section
variable {p : Char} {a : List Char} (ha : p ∉ a) (rest : List Char)
include ha

theorem bne_of_not_mem : ∀ c ∈ a, (c != p) = true :=
  fun _ hc => bne_iff_ne.mpr fun heq => ha (heq ▸ hc)

theorem takeWhile_append_cons : (a ++ p :: rest).takeWhile (· != p) = a := by
  rw [List.takeWhile_append_of_pos (bne_of_not_mem ha), List.takeWhile_cons]
  simp

/-- What precedes the first separator is dropped. -/
theorem dropWhile_ne : (a ++ rest).dropWhile (· != p) = rest.dropWhile (· != p) :=
  List.dropWhile_append_of_pos (bne_of_not_mem ha)

theorem dropWhile_append_cons : (a ++ p :: rest).dropWhile (· != p) = p :: rest := by
  rw [dropWhile_ne ha, List.dropWhile_cons]
  simp

end
end ApiGateway
