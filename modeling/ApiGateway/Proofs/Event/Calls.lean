import Mathlib.Data.List.Nodup
import ApiGateway.Event.Bus

/-!
# The accounts of an event bus

An event bus changes when someone subscribes or unsubscribes.  A book keeps the bus beside the ids
that it gave out and the ids whose subscription it ended.

* `EventBus.after`     the bus after a list of calls;
* `isActive_after`     an id that was given out is active until it is unsubscribed, and never again;
* `BusBook.Sound`      the present subscriptions are those that were given out and not ended;
* `accounts_kept`      so it is after every list of calls, and this is what the bus answers.
-/

namespace ApiGateway

inductive BusCall
  | subscribe (listener : Listener)
  | unsubscribe (id : SubscriptionId)
deriving DecidableEq, Repr

namespace EventBus

/-- The ids of the present subscriptions. -/
def ids (b : EventBus) : List SubscriptionId :=
  b.subscriptions.map (·.id)

/-- The bus after a call. -/
def called (b : EventBus) : BusCall → EventBus
  | .subscribe l => (b.subscribe l).2
  | .unsubscribe id => (b.unsubscribe id).2

/-- The bus after a list of calls, the first one first. -/
def after (b : EventBus) (cs : List BusCall) : EventBus :=
  cs.foldl called b

variable {b : EventBus} {id : SubscriptionId}

theorem after_nil : b.after [] = b := rfl
theorem after_cons (c : BusCall) (cs : List BusCall) : b.after (c :: cs) = (b.called c).after cs :=
  rfl
theorem after_append (cs cs' : List BusCall) : b.after (cs ++ cs') = (b.after cs).after cs' :=
  List.foldl_append

theorem isActive_iff : b.isActive id = true ↔ id ∈ b.ids := by
  unfold isActive ids
  rw [List.any_eq_true, List.mem_map]
  exact exists_congr fun s => and_congr_right fun _ => beq_iff_eq

theorem ids_subscribe (l : Listener) : (b.subscribe l).2.ids = b.ids ++ [b.nextId] :=
  List.map_append

theorem length_ids (b : EventBus) : b.ids.length = b.size :=
  List.length_map _

theorem ids_unsubscribe (id : SubscriptionId) :
    (b.unsubscribe id).2.ids = b.ids.filter (· != id) := by
  show (b.subscriptions.filter _).map _ = (b.subscriptions.map _).filter _
  rw [List.filter_map]
  rfl

theorem nextId_le_called (c : BusCall) : b.nextId ≤ (b.called c).nextId := by
  cases c with
  | subscribe l => exact Nat.le_succ _
  | unsubscribe id => exact Nat.le_refl _

theorem nextId_le_after (cs : List BusCall) : b.nextId ≤ (b.after cs).nextId := by
  induction cs generalizing b with
  | nil => exact Nat.le_refl _
  | cons c rest ih => exact Nat.le_trans (nextId_le_called c) ih

theorem isActive_called (h : id < b.nextId) (c : BusCall) :
    (b.called c).isActive id = true ↔ b.isActive id = true ∧ c ≠ .unsubscribe id := by
  cases c with
  | subscribe l =>
    have hne : (id == b.nextId) = false := beq_false_of_ne (Nat.ne_of_lt h)
    show (b.subscribe l).2.isActive id = true ↔ _
    rw [isActive_subscribe, hne, Bool.or_false]
    simp
  | unsubscribe id' =>
    show (b.unsubscribe id').2.isActive id = true ↔ _
    rw [isActive_unsubscribe, Bool.and_eq_true, bne_iff_ne, ne_comm]
    exact and_congr_right fun _ => not_congr (BusCall.unsubscribe.injEq id' id).to_iff.symm

/-- An id that was given out is active until it is unsubscribed. -/
theorem isActive_after (h : id < b.nextId) (cs : List BusCall) :
    (b.after cs).isActive id = true ↔ b.isActive id = true ∧ .unsubscribe id ∉ cs := by
  induction cs generalizing b with
  | nil => simp [after_nil]
  | cons c rest ih =>
    rw [after_cons, ih (Nat.lt_of_lt_of_le h (nextId_le_called c)), isActive_called h,
      List.mem_cons, not_or, and_assoc]
    exact and_congr_right fun _ => and_congr_left fun _ => ne_comm

end EventBus

/-- A bus with the ids that it gave out and those whose subscription it ended, oldest first. -/
structure BusBook where
  bus : EventBus := {}
  given : List SubscriptionId := []
  ended : List SubscriptionId := []

namespace BusBook

/-- The book after one more call, with what the call answers. -/
def enter (b : BusBook) : BusCall → BusBook
  | .subscribe l =>
    { b with bus := (b.bus.subscribe l).2, given := b.given ++ [(b.bus.subscribe l).1] }
  | .unsubscribe id =>
    { b with
      bus := (b.bus.unsubscribe id).2
      ended := if (b.bus.unsubscribe id).1 then b.ended ++ [id] else b.ended }

/-- The book of a new bus after a list of calls. -/
def kept (cs : List BusCall) : BusBook :=
  cs.foldl enter {}

/-- No id is given out twice, and the present subscriptions are those that were given out and not
ended. -/
structure Sound (b : BusBook) : Prop where
  below : ∀ id ∈ b.given, id < b.bus.nextId
  unique : b.given.Nodup
  nodup : b.bus.ids.Nodup
  ended : ∀ id ∈ b.ended, id ∈ b.given
  present : ∀ id, id ∈ b.bus.ids ↔ id ∈ b.given ∧ id ∉ b.ended
  size : b.bus.size + b.ended.length = b.given.length

variable {b : BusBook}

theorem sound_empty : Sound {} where
  below _ h := absurd h List.not_mem_nil
  unique := List.nodup_nil
  nodup := List.nodup_nil
  ended _ h := absurd h List.not_mem_nil
  present id := by simp [EventBus.ids]
  size := rfl

theorem bus_enter (c : BusCall) : (b.enter c).bus = b.bus.called c := by
  cases c <;> rfl

theorem Sound.subscribe (h : b.Sound) (l : Listener) : (b.enter (.subscribe l)).Sound := by
  obtain ⟨hbelow, hunique, hnodup, hgave, hpresent, hsize⟩ := h
  have hids : (b.enter (.subscribe l)).bus.ids = b.bus.ids ++ [b.bus.nextId] :=
    EventBus.ids_subscribe l
  have hgiven : (b.enter (.subscribe l)).given = b.given ++ [b.bus.nextId] := rfl
  have hended : (b.enter (.subscribe l)).ended = b.ended := rfl
  have hfresh : b.bus.nextId ∉ b.given := fun hmem => Nat.lt_irrefl _ (hbelow _ hmem)
  have habsent : b.bus.nextId ∉ b.bus.ids := fun hmem => hfresh ((hpresent _).mp hmem).1
  have hopen : b.bus.nextId ∉ b.ended := fun hmem => hfresh (hgave _ hmem)
  refine ⟨fun id hid => ?_, ?_, ?_, fun id hid => ?_, fun id => ?_, ?_⟩
  · rw [hgiven] at hid
    rcases List.mem_append.mp hid with hid | hid
    · exact Nat.lt_succ_of_lt (hbelow id hid)
    · exact Nat.lt_succ_of_le (Nat.le_of_eq (List.mem_singleton.mp hid))
  · rw [hgiven]
    exact hunique.append (List.nodup_singleton _) (List.disjoint_singleton.mpr hfresh)
  · rw [hids]
    exact hnodup.append (List.nodup_singleton _) (List.disjoint_singleton.mpr habsent)
  · exact List.mem_append_left _ (hgave id hid)
  · rw [hids, hgiven, hended, List.mem_append, List.mem_append, List.mem_singleton, hpresent]
    constructor
    · rintro (⟨hid, hnot⟩ | rfl)
      · exact ⟨.inl hid, hnot⟩
      · exact ⟨.inr rfl, hopen⟩
    · rintro ⟨hid | rfl, hnot⟩
      · exact .inl ⟨hid, hnot⟩
      · exact .inr rfl
  · rw [← EventBus.length_ids] at hsize ⊢
    rw [hids, hgiven, hended, List.length_append, List.length_append]
    show _ + 1 + _ = _ + 1
    omega

theorem Sound.unsubscribe (h : b.Sound) (id : SubscriptionId) :
    (b.enter (.unsubscribe id)).Sound := by
  obtain ⟨hbelow, hunique, hnodup, hgave, hpresent, hsize⟩ := h
  have hids : (b.enter (.unsubscribe id)).bus.ids = b.bus.ids.filter (· != id) :=
    EventBus.ids_unsubscribe id
  rw [← EventBus.length_ids] at hsize
  have hgiven : (b.enter (.unsubscribe id)).given = b.given := rfl
  cases hactive : b.bus.isActive id with
  | true =>
    have hended : (b.enter (.unsubscribe id)).ended = b.ended ++ [id] := if_pos hactive
    have hmem : id ∈ b.bus.ids := EventBus.isActive_iff.mp hactive
    refine ⟨hbelow, hunique, ?_, fun id' hid => ?_, fun id' => ?_, ?_⟩
    · rw [hids]
      exact hnodup.filter _
    · rw [hended] at hid
      rcases List.mem_append.mp hid with hid | hid
      · exact hgave id' hid
      · rw [List.mem_singleton.mp hid]
        exact ((hpresent id).mp hmem).1
    · rw [hids, hgiven, hended, List.mem_filter, hpresent, bne_iff_ne, List.mem_append,
        List.mem_singleton, not_or, and_assoc]
    · have hlen : (b.bus.ids.erase id).length + 1 = b.bus.ids.length := by
        have hpos := List.length_pos_of_mem hmem
        rw [List.length_erase_of_mem hmem]
        omega
      rw [hnodup.erase_eq_filter] at hlen
      rw [← EventBus.length_ids, hids, hgiven, hended, List.length_append]
      show _ + (_ + 1) = _
      omega
  | false =>
    have hended : (b.enter (.unsubscribe id)).ended = b.ended :=
      if_neg (Bool.eq_false_iff.mp hactive)
    have hmem : id ∉ b.bus.ids :=
      fun h => Bool.eq_false_iff.mp hactive (EventBus.isActive_iff.mpr h)
    have hsame : b.bus.ids.filter (· != id) = b.bus.ids := by
      rw [List.filter_eq_self]
      intro id' h'
      exact bne_iff_ne.mpr fun heq => hmem (heq ▸ h')
    rw [hsame] at hids
    refine ⟨hbelow, hunique, ?_, ?_, ?_, ?_⟩
    · rwa [hids]
    · rwa [hended]
    · rwa [hids, hended]
    · rwa [← EventBus.length_ids, hids, hended]

theorem sound_foldl (h : b.Sound) (cs : List BusCall) : (cs.foldl enter b).Sound := by
  induction cs generalizing b with
  | nil => exact h
  | cons c rest ih =>
    cases c with
    | subscribe l => exact ih (h.subscribe l)
    | unsubscribe id => exact ih (h.unsubscribe id)

theorem sound_kept (cs : List BusCall) : (kept cs).Sound :=
  sound_foldl sound_empty cs

/-- What a book says of the answers of its bus. -/
structure Accounts (b : BusBook) : Prop extends Sound b where
  fresh : ∀ l, (b.bus.subscribe l).1 ∉ b.given
  answer : ∀ id, (b.bus.unsubscribe id).1 = true ↔ id ∈ b.given ∧ id ∉ b.ended
  count : b.bus.size = b.given.length - b.ended.length

/-- An id is given out once, and unsubscribing answers whether it is subscribed. -/
theorem accounts_kept (cs : List BusCall) : (kept cs).Accounts := by
  have h := sound_kept cs
  have hsize := h.size
  exact
    { toSound := h
      fresh := fun _ hmem => Nat.lt_irrefl _ (h.below _ hmem)
      answer := fun id => EventBus.isActive_iff.trans (h.present id)
      count := by omega }

theorem bus_kept (cs : List BusCall) : (kept cs).bus = ({} : EventBus).after cs := by
  suffices h : ∀ b : BusBook, (cs.foldl enter b).bus = b.bus.after cs from h {}
  induction cs with
  | nil => exact fun b => rfl
  | cons c rest ih =>
    intro b
    rw [List.foldl_cons, ih, bus_enter, EventBus.after_cons]

end BusBook
end ApiGateway
