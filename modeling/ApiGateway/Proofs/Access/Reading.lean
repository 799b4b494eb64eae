import Mathlib
import ApiGateway.Access.Record
import ApiGateway.Proofs.Text.Separators

/-!
# Access lines can be read back

The texts of an access line stand between quotes as they are, so they may hold whatever else the
line is made of: commas, braces, colons, the names of the other fields.  As long as they hold no
quote, a line is read back by cutting it at its quotes, and a number is what stands between the `:`
and the `,` behind the name of its field.

* `AccessRecord.shown`     what the line tells of a record;
* `AccessRecord.pieces`    the pieces of a line between its quotes;
* `Shown.read?`            the reader;
* `AccessRecord.line_read_back`   the reader finds what the line tells, so records that differ in
  this have different lines.
-/

namespace ApiGateway
namespace AccessRecord

/-- What an access line tells of a record, apart from the response time. -/
structure Shown where
  requestId : String
  method : String
  host : String
  path : String
  contextPath : String
  status : Int
  /-- Whole milliseconds; a part of one is dropped, before the epoch as well. -/
  millis : Int
deriving DecidableEq, Repr

def shown (r : AccessRecord) : Shown where
  requestId := r.requestId
  method := r.method
  host := r.host
  path := r.path
  contextPath := r.contextPath
  status := r.status
  millis := r.timestamp.tdiv 1000000

/-- No text of the record holds a quote. -/
structure Unquoted (r : AccessRecord) : Prop where
  requestId : '"' ∉ r.requestId.toList
  method : '"' ∉ r.method.toList
  host : '"' ∉ r.host.toList
  path : '"' ∉ r.path.toList
  contextPath : '"' ∉ r.contextPath.toList

namespace Shown

/-- The number between a colon and a comma. -/
def number? (s : List Char) : Option Int :=
  (String.ofList ((s.drop 1).takeWhile (· != ','))).toInt?

/-- Reads an access line by cutting it at its quotes. -/
def read? (s : String) : Option Shown :=
  match s.toList.splitOn '"' with
  | [_, _, _, requestId, _, _, ts, _, _, method, _, _, _, host, _, _, _, path, _, _, _, contextPath,
      _, _, status, _, _] => do
    let millis ← number? ts
    let status ← number? status
    return {
      requestId := .ofList requestId, method := .ofList method, host := .ofList host,
      path := .ofList path, contextPath := .ofList contextPath, status, millis }
  | _ => none

end Shown

/-! ### Numbers -/

theorem quote_not_mem_digits (n : Nat) : '"' ∉ Nat.toDigits 10 n :=
  fun h => absurd (Nat.isDigit_of_mem_toDigits (by decide) (by decide) h) (by decide)

/-- Numbers are made of digits and a sign. -/
theorem not_mem_repr {p : Char} (hp : ¬ p.isDigit = true) (hsign : p ≠ '-') (n : Int) :
    p ∉ n.repr.toList := by
  have hdigits (m : Nat) : p ∉ m.repr.toList := by
    rw [Nat.repr_eq_ofList_toDigits, String.toList_ofList]
    exact fun h => hp (Nat.isDigit_of_mem_toDigits (by decide) (by decide) h)
  rw [Int.repr_eq_if]
  split
  · exact hdigits _
  · rw [String.toList_append, List.mem_append]
    rintro (h | h)
    · exact hsign (List.mem_singleton.mp h)
    · exact hdigits _ h

theorem number?_repr (n : Int) (rest : List Char) :
    Shown.number? (':' :: n.repr.toList ++ ',' :: rest) = some n := by
  have hcomma : ',' ∉ n.repr.toList := not_mem_repr (by decide) (by decide) n
  unfold Shown.number?
  rw [List.cons_append, List.drop_one, List.tail_cons, takeWhile_append_cons hcomma,
    String.ofList_toList]
  exact Int.toInt?_repr n

theorem quote_not_mem_format (ns : Int) : '"' ∉ (Milliseconds.format ns).toList := by
  have hthree (n : Nat) : '"' ∉ (Milliseconds.threeDigits n).toList := by
    unfold Milliseconds.threeDigits
    split
    · simp [quote_not_mem_digits]
    · split <;> simp [quote_not_mem_digits]
  unfold Milliseconds.format
  split <;> simp [quote_not_mem_digits, hthree]

/-! ### The pieces of a line -/

/-- What stands between the quotes of a line, and in front of them and behind. -/
def pieces (r : AccessRecord) : List (List Char) :=
  ["\x7b".toList, "id".toList, ":".toList, r.requestId.toList,
    ",".toList, "ts".toList, ':' :: r.shown.millis.repr.toList ++ [','],
    "method".toList, ":".toList, r.method.toList, ",".toList,
    "host".toList, ":".toList, r.host.toList, ",".toList,
    "path".toList, ":".toList, r.path.toList, ",".toList,
    "context".toList, ":".toList, r.contextPath.toList, ",".toList,
    "status".toList, ':' :: r.status.repr.toList ++ [','],
    "response_time_ms".toList, ':' :: (Milliseconds.format r.responseTime).toList ++ ['\x7d']]

theorem toList_line (r : AccessRecord) : r.line.toList = ['"'].intercalate r.pieces := by
  unfold line pieces List.intercalate
  simp only [String.toList_append, List.append_assoc, List.intersperse, List.flatten_cons,
    List.flatten_nil, List.cons_append, List.nil_append]
  rfl

section
variable {r : AccessRecord} (h : r.Unquoted)
include h

theorem quote_not_mem_pieces : ∀ s ∈ r.pieces, '"' ∉ s := by
  have hnumber (n : Int) : '"' ∉ n.repr.toList := not_mem_repr (by decide) (by decide) n
  simp [pieces, h.requestId, h.method, h.host, h.path, h.contextPath, hnumber,
    quote_not_mem_format]

theorem splitOn_line : r.line.toList.splitOn '"' = r.pieces := by
  rw [toList_line]
  exact List.splitOn_intercalate '"' (quote_not_mem_pieces h) (List.cons_ne_nil _ _)

theorem read?_line : Shown.read? r.line = some r.shown := by
  unfold Shown.read?
  rw [splitOn_line h]
  unfold pieces
  simp only [number?_repr, String.ofList_toList]
  rfl

end

/-- Access lines are read back: the reader finds in the line of a record whose texts hold no quote
what the line tells of the record.  So two such records with the same line have the same request id,
method, host, path, context path and status, and their timestamps agree up to whole milliseconds,
cut toward zero. -/
theorem line_read_back :
    (∀ r : AccessRecord, r.Unquoted → Shown.read? r.line = some r.shown) ∧
    ∀ r r' : AccessRecord, r.Unquoted → r'.Unquoted → r.line = r'.line →
      r.requestId = r'.requestId ∧ r.method = r'.method ∧ r.host = r'.host ∧ r.path = r'.path ∧
      r.contextPath = r'.contextPath ∧ r.status = r'.status ∧
      r.timestamp.tdiv 1000000 = r'.timestamp.tdiv 1000000 := by
  refine ⟨fun r h => read?_line h, fun r r' h h' hline => ?_⟩
  have hshown : r.shown = r'.shown := by
    rw [← Option.some.injEq, ← read?_line h, ← read?_line h', hline]
  exact ⟨congrArg (·.requestId) hshown, congrArg (·.method) hshown, congrArg (·.host) hshown,
    congrArg (·.path) hshown, congrArg (·.contextPath) hshown, congrArg (·.status) hshown,
    congrArg (·.millis) hshown⟩

/-- Texts that look like the rest of a line, a negative status, and a time before the epoch. -/
def tricky : AccessRecord where
  requestId := ",ts:1,"
  method := "GET\x7d"
  path := "/a\\,status:\x7b404\x7d"
  host := ":"
  contextPath := ""
  status := -500
  timestamp := -1999999
  responseTime := -1

theorem line_read_back_tricky :
    let r' := { tricky with timestamp := -1000000 }
    (tricky.Unquoted ∧ Shown.read? tricky.line = some tricky.shown) ∧
      r'.Unquoted ∧ tricky.line = r'.line ∧
      tricky.timestamp.tdiv 1000000 = r'.timestamp.tdiv 1000000 := by
  intro r'
  have h : tricky.Unquoted := ⟨by decide, by decide, by decide, by decide, by decide⟩
  have h' : r'.Unquoted := ⟨h.1, h.2, h.3, h.4, h.5⟩
  have hline : tricky.line = r'.line := by decide +kernel
  obtain ⟨-, -, -, -, -, -, hmillis⟩ := line_read_back.2 tricky r' h h' hline
  exact ⟨⟨h, line_read_back.1 tricky h⟩, h', hline, hmillis⟩

end AccessRecord
end ApiGateway
