import GlideClient.Protocol
import Mathlib.Data.List.Perm.Basic

namespace GlideClient

open response

def assign {α : Type} (xs : List (Option α)) (i : Nat) (a : α) : List (Option α) :=
  if i < xs.length then xs.set i (some a) else xs ++ List.replicate (i - xs.length) none ++ [some a]

section Assign

variable {α : Type} (xs : List (Option α)) (i : Nat) (a : α)

theorem length_assign : (assign xs i a).length = max xs.length (i + 1) := by
  unfold assign
  split <;> simp <;> omega

theorem assign_getElem?_self : (assign xs i a)[i]?.join = some a := by
  unfold assign
  split
  · simp [List.getElem?_set, *]
  · rw [List.getElem?_append_right (by simp; omega)]
    simp [show xs.length + (i - xs.length) = i by omega]

theorem assign_getElem?_ne {j : Nat} (h : j ≠ i) : (assign xs i a)[j]?.join = xs[j]?.join := by
  unfold assign
  split
  · simp [List.getElem?_set, Ne.symm h]
  · by_cases hj : j < xs.length
    · rw [List.append_assoc, List.getElem?_append_left hj]
    · rw [List.getElem?_eq_none (by omega : xs.length ≤ j), List.append_assoc,
        List.getElem?_append_right (by omega), List.getElem?_append]
      split
      · simp [List.getElem?_replicate]
      · next hk =>
        simp only [List.length_replicate, not_lt] at hk
        rw [List.length_replicate, List.getElem?_eq_none (by simp; omega)]

end Assign

structure Dispatcher where
  promiseCallbackFunctions : List (Option Nat)
  availableCallbackSlots : List Nat
  isClosed : Bool
  created : Nat
  calls : List (Nat × Outcome)
  deriving DecidableEq, Repr

namespace Dispatcher

def fresh : Dispatcher := ⟨[],[],false,0,[]⟩

def entry (d : Dispatcher) (i : Nat) : Option Nat := d.promiseCallbackFunctions[i]?.join

def outcome (d : Dispatcher) (p : Nat) : Option Outcome := (d.calls.find? (·.1 = p)).map (·.2)

def getCallbackIndex (d : Dispatcher) : Nat × Dispatcher :=
  (d.availableCallbackSlots.getLast?.getD d.promiseCallbackFunctions.length,
    { d with availableCallbackSlots := d.availableCallbackSlots.dropLast })

def registerCallbacks (callbackIndex : Nat) (d : Dispatcher) : Dispatcher :=
  { d with promiseCallbackFunctions := assign d.promiseCallbackFunctions callbackIndex d.created,
           created := d.created + 1 }

def newWritePromise (d : Dispatcher) : Nat × Dispatcher :=
  let (callbackIndex,d') := d.getCallbackIndex
  (callbackIndex,registerCallbacks callbackIndex d')

def call (p : Nat) (o : Outcome) (d : Dispatcher) : Dispatcher := { d with calls := d.calls ++ [(p,o)] }

def pushSlot (i : Nat) (d : Dispatcher) : Dispatcher :=
  { d with availableCallbackSlots := d.availableCallbackSlots ++ [i] }

def dispatch (message : Response) (d : Dispatcher) : Option Dispatcher :=
  (d.entry message.callbackIdx).map fun p =>
    call p (responseOutcome message) (pushSlot message.callbackIdx d)

def dispatchAll : List Response → Dispatcher → Option Dispatcher
  | [], d => some d
  | r :: rs, d => (d.dispatch r).bind (dispatchAll rs)

theorem isClosed_dispatch {d d' : Dispatcher} {message : Response} (h : d.dispatch message = some d') :
    d'.isClosed = d.isClosed := by
  obtain ⟨p,-,rfl⟩ := Option.map_eq_some'.mp h
  rfl

theorem created_dispatch {d d' : Dispatcher} {message : Response} (h : d.dispatch message = some d') :
    d'.created = d.created := by
  obtain ⟨p,-,rfl⟩ := Option.map_eq_some'.mp h
  rfl

def closingRejections (errorMessage : Option String) (table : List (Option Nat)) : List (Nat × Outcome) :=
  table.filterMap fun e => e.map fun p => (p,.rejected ⟨.ClosingError,errorMessage⟩)

def close (errorMessage : Option String) (d : Dispatcher) : Dispatcher :=
  { d with isClosed := true,
           calls := d.calls ++ closingRejections errorMessage d.promiseCallbackFunctions }

def TableSettled (d : Dispatcher) : Prop := ∀ p, some p ∈ d.promiseCallbackFunctions → d.outcome p ≠ none

section Lemmas

variable (d : Dispatcher)

@[simp] theorem newWritePromise_isClosed : d.newWritePromise.2.isClosed = d.isClosed := rfl
@[simp] theorem newWritePromise_calls : d.newWritePromise.2.calls = d.calls := rfl
@[simp] theorem newWritePromise_created : d.newWritePromise.2.created = d.created + 1 := rfl
@[simp] theorem newWritePromise_slots :
    d.newWritePromise.2.availableCallbackSlots = d.availableCallbackSlots.dropLast := rfl
@[simp] theorem close_isClosed (m : Option String) : (d.close m).isClosed = true := rfl
@[simp] theorem close_table (m : Option String) :
    (d.close m).promiseCallbackFunctions = d.promiseCallbackFunctions := rfl
@[simp] theorem close_slots (m : Option String) :
    (d.close m).availableCallbackSlots = d.availableCallbackSlots := rfl
@[simp] theorem close_created (m : Option String) : (d.close m).created = d.created := rfl

theorem newWritePromise_slots_of_nil (h : d.availableCallbackSlots = []) :
    d.newWritePromise.1 = d.promiseCallbackFunctions.length ∧
      d.newWritePromise.2.availableCallbackSlots = [] := by
  simp [newWritePromise, getCallbackIndex, registerCallbacks, h]

theorem newWritePromise_slots_of_pop {rest : List Nat} {i : Nat}
    (h : d.availableCallbackSlots = rest ++ [i]) :
    d.newWritePromise.1 = i ∧ d.newWritePromise.2.availableCallbackSlots = rest := by
  simp [newWritePromise, getCallbackIndex, registerCallbacks, h]

theorem newWritePromise_table :
    d.newWritePromise.2.promiseCallbackFunctions =
      assign d.promiseCallbackFunctions d.newWritePromise.1 d.created := rfl

@[simp] theorem entry_pushSlot (i j : Nat) : (pushSlot i d).entry j = d.entry j := rfl
@[simp] theorem outcome_pushSlot (i p : Nat) : (pushSlot i d).outcome p = d.outcome p := rfl
@[simp] theorem pushSlot_slots (i : Nat) :
    (pushSlot i d).availableCallbackSlots = d.availableCallbackSlots ++ [i] := rfl
@[simp] theorem entry_call (p : Nat) (o : Outcome) (j : Nat) : (call p o d).entry j = d.entry j := rfl
@[simp] theorem call_slots (p : Nat) (o : Outcome) :
    (call p o d).availableCallbackSlots = d.availableCallbackSlots := rfl
@[simp] theorem call_created (p : Nat) (o : Outcome) : (call p o d).created = d.created := rfl
@[simp] theorem call_isClosed (p : Nat) (o : Outcome) : (call p o d).isClosed = d.isClosed := rfl
@[simp] theorem call_table (p : Nat) (o : Outcome) :
    (call p o d).promiseCallbackFunctions = d.promiseCallbackFunctions := rfl
@[simp] theorem pushSlot_created (i : Nat) : (pushSlot i d).created = d.created := rfl
@[simp] theorem pushSlot_isClosed (i : Nat) : (pushSlot i d).isClosed = d.isClosed := rfl
@[simp] theorem pushSlot_table (i : Nat) :
    (pushSlot i d).promiseCallbackFunctions = d.promiseCallbackFunctions := rfl
@[simp] theorem call_calls (p : Nat) (o : Outcome) : (call p o d).calls = d.calls ++ [(p,o)] := rfl
@[simp] theorem pushSlot_calls (i : Nat) : (pushSlot i d).calls = d.calls := rfl

theorem dispatch_eq_some {message : Response} {p : Nat} (h : d.entry message.callbackIdx = some p) :
    d.dispatch message = some (call p (responseOutcome message) (pushSlot message.callbackIdx d)) := by
  simp [dispatch, h]

theorem dispatch_eq_none {message : Response} (h : d.entry message.callbackIdx = none) :
    d.dispatch message = none := by
  simp [dispatch, h]

theorem entry_newWritePromise (j : Nat) :
    d.newWritePromise.2.entry j = if j = d.newWritePromise.1 then some d.created else d.entry j := by
  simp only [entry, newWritePromise_table]
  split
  · next h => rw [h, assign_getElem?_self]
  · next h => rw [assign_getElem?_ne _ _ _ h]

theorem outcome_eq_none {p : Nat} (h : ∀ c ∈ d.calls, c.1 ≠ p) : d.outcome p = none := by
  simp only [outcome, Option.map_eq_none', List.find?_eq_none, decide_eq_true_eq]
  exact h

theorem outcome_append_of_settled {p : Nat} {o : Outcome} (l : List (Nat × Outcome))
    (h : d.outcome p = some o) : { d with calls := d.calls ++ l }.outcome p = some o := by
  obtain ⟨c,hc,rfl⟩ := Option.map_eq_some'.mp h
  simp [outcome, List.find?_append, hc]

theorem outcome_append_of_ne {p : Nat} (l : List (Nat × Outcome)) (h : ∀ c ∈ l, c.1 ≠ p) :
    { d with calls := d.calls ++ l }.outcome p = d.outcome p := by
  have hl : l.find? (·.1 = p) = none := by simpa [List.find?_eq_none] using h
  simp only [outcome, List.find?_append, hl, Option.or_none]

theorem outcome_call_of_ne {p q : Nat} (o : Outcome) (h : q ≠ p) :
    (call q o d).outcome p = d.outcome p :=
  d.outcome_append_of_ne [(q,o)] (by simpa using h)

theorem outcome_call_of_settled {p q : Nat} {o : Outcome} (o' : Outcome) (h : d.outcome p = some o) :
    (call q o' d).outcome p = some o :=
  d.outcome_append_of_settled [(q,o')] h

theorem outcome_call_self {p : Nat} (o : Outcome) (h : d.outcome p = none) :
    (call p o d).outcome p = some o := by
  simp only [outcome, Option.map_eq_none'] at h
  simp [outcome, call, List.find?_append, h]

theorem outcome_call_ne_none (p : Nat) (o : Outcome) : (call p o d).outcome p ≠ none := by
  cases h : d.outcome p with
  | none => simp [d.outcome_call_self o h]
  | some o' => simp [d.outcome_append_of_settled [(p,o)] h, call]

theorem mem_closingRejections {m : Option String} {table : List (Option Nat)} {c : Nat × Outcome} :
    c ∈ closingRejections m table ↔ some c.1 ∈ table ∧ c.2 = .rejected ⟨.ClosingError,m⟩ := by
  obtain ⟨p,o⟩ := c
  simp only [closingRejections, List.mem_filterMap]
  constructor
  · rintro ⟨e,he,hm⟩
    cases e with
    | none => cases hm
    | some q => simp only [Option.map_some', Option.some.injEq, Prod.mk.injEq] at hm; simp_all
  · rintro ⟨hp,rfl⟩
    exact ⟨some p,hp,rfl⟩

theorem outcome_close_of_mem {p : Nat} (m : Option String) (hp : some p ∈ d.promiseCallbackFunctions)
    (h : d.outcome p = none) : (d.close m).outcome p = some (.rejected ⟨.ClosingError,m⟩) := by
  simp only [outcome, Option.map_eq_none'] at h
  obtain ⟨c,hc,hcp⟩ : ∃ c ∈ closingRejections m d.promiseCallbackFunctions, c.1 = p :=
    ⟨(p,.rejected ⟨.ClosingError,m⟩),mem_closingRejections.mpr ⟨hp,rfl⟩,rfl⟩
  obtain ⟨c',hc'⟩ := Option.isSome_iff_exists.mp
    (List.find?_isSome (p := fun x => decide (x.1 = p)) |>.mpr ⟨c,hc,by simpa using hcp⟩)
  have h1 := List.find?_some hc'
  have h2 := mem_closingRejections.mp (List.mem_of_find?_eq_some hc')
  simp only [decide_eq_true_eq] at h1
  simp only [outcome, close, List.find?_append, h, hc', Option.none_or, Option.map_some', h2.2]

theorem outcome_close_of_settled {p : Nat} {o : Outcome} (m : Option String)
    (h : d.outcome p = some o) : (d.close m).outcome p = some o :=
  d.outcome_append_of_settled _ h

theorem tableSettled_close (m : Option String) : (d.close m).TableSettled := by
  intro p hp
  cases h : d.outcome p with
  | none => simp [d.outcome_close_of_mem m hp h]
  | some o => simp [d.outcome_close_of_settled m h]

theorem TableSettled.of_frozen {d d' : Dispatcher} (h : d.TableSettled)
    (ht : d'.promiseCallbackFunctions = d.promiseCallbackFunctions) (ho : ∀ p, d'.outcome p = d.outcome p) :
    d'.TableSettled := fun p hp => by
  rw [ho]
  exact h p (ht ▸ hp)

theorem outcome_close_of_tableSettled (h : d.TableSettled) (m : Option String) (p : Nat) :
    (d.close m).outcome p = d.outcome p := by
  cases ho : d.outcome p with
  | some o => exact d.outcome_close_of_settled m ho
  | none => exact (d.outcome_append_of_ne (p := p) _ fun c hc hcp => h p (hcp ▸ (mem_closingRejections.mp hc).1) ho).trans ho

theorem dispatch_of_tableSettled (h : d.TableSettled) {message : Response} {d' : Dispatcher}
    (hd : d.dispatch message = some d') :
    d'.promiseCallbackFunctions = d.promiseCallbackFunctions ∧ ∀ p, d'.outcome p = d.outcome p := by
  obtain ⟨q,hq,rfl⟩ := Option.map_eq_some'.mp hd
  obtain ⟨o,ho⟩ := Option.ne_none_iff_exists'.mp (h q (List.mem_iff_getElem?.mpr ⟨_,Option.join_eq_some.mp hq⟩))
  refine ⟨rfl,fun p => ?_⟩
  by_cases hqp : q = p
  · subst hqp
    simpa [ho] using (pushSlot message.callbackIdx d).outcome_call_of_settled (responseOutcome message) ho
  · simpa using (pushSlot message.callbackIdx d).outcome_call_of_ne (responseOutcome message) hqp

end Lemmas

end Dispatcher

end GlideClient
