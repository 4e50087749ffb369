import GlideClient.Client.Dispatcher
import Mathlib.Data.List.Nodup

namespace GlideClient

open response

structure Request where
  callbackIdx : Nat
  promise : Nat
  deriving DecidableEq, Repr

structure Session where
  dispatcher : Dispatcher
  pending : List Request
  deriving DecidableEq, Repr

inductive Event where
  | createWritePromise
  | handleResponse (message : Response)
  | close (errorMessage : Option String)
  deriving DecidableEq, Repr

namespace Session

def init : Session := ⟨Dispatcher.fresh.registerCallbacks 0,[⟨0,0⟩]⟩

def step (s : Session) : Event → Option Session
  | .createWritePromise =>
    if s.dispatcher.isClosed then some s
    else some ⟨s.dispatcher.newWritePromise.2,
      s.pending ++ [⟨s.dispatcher.newWritePromise.1,s.dispatcher.created⟩]⟩
  | .handleResponse message =>
    match message.closingError with
    | some e => some ⟨s.dispatcher.close (some e),s.pending⟩
    | none =>
      match s.pending.find? (·.callbackIdx = message.callbackIdx) with
      | none => none
      | some q => (s.dispatcher.dispatch message).map (⟨·,s.pending.erase q⟩)
  | .close errorMessage => some ⟨s.dispatcher.close errorMessage,s.pending⟩

inductive Reachable : Session → Prop
  | init : Reachable init
  | step {s s' : Session} (e : Event) : Reachable s → s.step e = some s' → Reachable s'

def run (s : Session) : List Event → Option Session
  | [] => some s
  | e :: es => (s.step e).bind (run · es)

theorem reachable_run {s s' : Session} {es : List Event} (hs : Reachable s)
    (h : s.run es = some s') : Reachable s' := by
  induction es generalizing s with
  | nil => simp only [run, Option.some.injEq] at h; exact h ▸ hs
  | cons e es ih =>
    simp only [run] at h
    obtain ⟨s1,h1,h2⟩ := Option.bind_eq_some.mp h
    exact ih (hs.step e h1) h2

end Session

theorem newWritePromise_index (d : Dispatcher) {P : List Nat}
    (h : (P ++ d.availableCallbackSlots).Perm (List.range d.promiseCallbackFunctions.length)) :
    (P ++ [d.newWritePromise.1] ++ d.newWritePromise.2.availableCallbackSlots).Perm
      (List.range d.newWritePromise.2.promiseCallbackFunctions.length) := by
  rw [Dispatcher.newWritePromise_table, length_assign]
  rcases List.eq_nil_or_concat d.availableCallbackSlots with he | ⟨rest,i,he⟩
  · obtain ⟨h1,h2⟩ := d.newWritePromise_slots_of_nil he
    rw [he, List.append_nil] at h
    rw [h1, h2, List.append_nil, max_eq_right (by omega), List.range_succ]
    exact h.append_right _
  · rw [List.concat_eq_append] at he
    obtain ⟨h1,h2⟩ := d.newWritePromise_slots_of_pop he
    have hi : i < d.promiseCallbackFunctions.length :=
      List.mem_range.mp (h.subset (by simp [he]))
    rw [h1, h2, max_eq_left (by omega)]
    rw [he] at h
    refine List.Perm.trans ?_ h
    simpa only [List.append_assoc] using (@List.perm_append_comm _ [i] rest).append_left P

structure Invariant (d : Dispatcher) (pending : List Request) : Prop where
  partition : (pending.map (·.callbackIdx) ++ d.availableCallbackSlots).Perm
    (List.range d.promiseCallbackFunctions.length)
  own : ∀ q ∈ pending, d.entry q.callbackIdx = some q.promise
  entry_lt : ∀ i p, d.entry i = some p → p < d.created
  calls_lt : ∀ c ∈ d.calls, c.1 < d.created
  promises_nodup : (pending.map (·.promise)).Nodup
  free_settled : ∀ i ∈ d.availableCallbackSlots, ∃ p, d.entry i = some p ∧ d.outcome p ≠ none
  open_unsettled : d.isClosed = false → ∀ q ∈ pending, d.outcome q.promise = none
  unsettled_pending : ∀ p < d.created, d.outcome p = none → ∃ q ∈ pending, q.promise = p

namespace Invariant

variable {d : Dispatcher} {pending : List Request} (hs : Invariant d pending)
include hs

theorem nodup : (pending.map (·.callbackIdx) ++ d.availableCallbackSlots).Nodup :=
  hs.partition.nodup_iff.mpr (List.nodup_range _)

theorem pending_nodup : pending.Nodup :=
  List.Nodup.of_map _ (List.nodup_append.mp hs.nodup).1

theorem length_table :
    d.promiseCallbackFunctions.length = pending.length + d.availableCallbackSlots.length := by
  simpa using hs.partition.length_eq.symm

theorem promise_lt {q : Request} (hq : q ∈ pending) : q.promise < d.created :=
  hs.entry_lt _ _ (hs.own q hq)

theorem close_rejects_unsettled (m : Option String) {p : Nat} (hp : p < d.created) (ho : d.outcome p = none) :
    (d.close m).outcome p = some (.rejected ⟨.ClosingError,m⟩) := by
  obtain ⟨q,hq,rfl⟩ := hs.unsettled_pending p hp ho
  exact d.outcome_close_of_mem _ (List.mem_iff_getElem?.mpr ⟨_,Option.join_eq_some.mp (hs.own q hq)⟩) ho

theorem drained (hp : pending = []) :
    (∀ p < d.created, d.outcome p ≠ none) ∧
      d.availableCallbackSlots.Perm (List.range d.promiseCallbackFunctions.length) := by
  subst hp
  refine ⟨fun p hp ho => ?_,by simpa using hs.partition⟩
  obtain ⟨q,hq,-⟩ := hs.unsettled_pending p hp ho
  cases hq

theorem createWritePromise (hc : d.isClosed = false) :
    Invariant d.newWritePromise.2 (pending ++ [⟨d.newWritePromise.1,d.created⟩]) := by
  have hperm := newWritePromise_index d hs.partition
  have hnd := hperm.nodup_iff.mpr (List.nodup_range _)
  simp only [List.nodup_append, List.nodup_cons, List.disjoint_singleton, List.singleton_disjoint,
    List.mem_append, List.mem_singleton, not_or] at hnd
  set i := d.newWritePromise.1
  have hiP : i ∉ pending.map (·.callbackIdx) := hnd.1.2.2
  have hiA : i ∉ d.newWritePromise.2.availableCallbackSlots :=
    hnd.2.2 (List.mem_append_right _ (List.mem_singleton_self i))
  constructor
  · simpa using hperm
  · intro q hq
    simp only [List.mem_append, List.mem_singleton] at hq
    rw [Dispatcher.entry_newWritePromise]
    rcases hq with hq | rfl
    · rw [if_neg (fun he => hiP (List.mem_map.mpr ⟨q,hq,he⟩)), hs.own q hq]
    · rw [if_pos rfl]
  · intro j p hj
    rw [Dispatcher.entry_newWritePromise] at hj
    simp only [Dispatcher.newWritePromise_created]
    split at hj
    · cases hj; omega
    · have := hs.entry_lt j p hj; omega
  · intro c hc
    have := hs.calls_lt c hc
    simp only [Dispatcher.newWritePromise_created]
    omega
  · simp only [List.map_append, List.map_cons, List.map_nil, List.nodup_append, List.nodup_cons,
      List.not_mem_nil, not_false_eq_true, List.nodup_nil, and_self, List.disjoint_singleton,
      List.mem_map, not_exists, not_and, true_and]
    exact ⟨hs.promises_nodup,fun q hq he => (he ▸ hs.promise_lt hq).false⟩
  · intro j hj
    obtain ⟨p,hp,ho⟩ := hs.free_settled j (List.mem_of_mem_dropLast (d.newWritePromise_slots ▸ hj))
    refine ⟨p,?_,ho⟩
    rw [Dispatcher.entry_newWritePromise, if_neg (show j ≠ i from fun he => hiA (he ▸ hj)), hp]
  · intro _ q hq
    simp only [List.mem_append, List.mem_singleton] at hq
    rcases hq with hq | rfl
    · exact hs.open_unsettled hc q hq
    · exact d.outcome_eq_none fun c hc' => (hs.calls_lt c hc').ne
  · intro p hp ho
    rcases Nat.lt_succ_iff_lt_or_eq.mp hp with hp | rfl
    · obtain ⟨q,hq,rfl⟩ := hs.unsettled_pending p hp ho
      exact ⟨q,List.mem_append_left _ hq,rfl⟩
    · exact ⟨_,List.mem_append_right _ (List.mem_singleton_self _),rfl⟩

theorem dispatch {q : Request} (hq : q ∈ pending) (o : Outcome) :
    Invariant ((d.pushSlot q.callbackIdx).call q.promise o) (pending.erase q) := by
  have hmem : ∀ {q'}, q' ∈ pending.erase q ↔ q' ≠ q ∧ q' ∈ pending :=
    hs.pending_nodup.mem_erase_iff
  constructor
  · have h1 := (List.perm_cons_erase hq).map (·.callbackIdx)
    rw [List.map_cons] at h1
    refine List.Perm.trans ?_ ((h1.symm.append_right _).trans hs.partition)
    simp only [Dispatcher.call_slots, Dispatcher.pushSlot_slots, Dispatcher.call_table,
      Dispatcher.pushSlot_table, ← List.append_assoc]
    exact List.perm_append_singleton _ _
  · exact fun q' hq' => hs.own q' (List.mem_of_mem_erase hq')
  · exact hs.entry_lt
  · intro c hc
    simp only [Dispatcher.call_calls, Dispatcher.pushSlot_calls, List.mem_append,
      List.mem_singleton] at hc
    rcases hc with hc | rfl
    · exact hs.calls_lt c hc
    · exact hs.promise_lt hq
  · exact hs.promises_nodup.sublist ((List.erase_sublist q _).map _)
  · intro j hj
    simp only [Dispatcher.call_slots, Dispatcher.pushSlot_slots, List.mem_append,
      List.mem_singleton] at hj
    rcases hj with hj | rfl
    · obtain ⟨p,hp,ho⟩ := hs.free_settled j hj
      obtain ⟨o',ho'⟩ := Option.ne_none_iff_exists'.mp ho
      exact ⟨p,hp,by rw [(d.pushSlot q.callbackIdx).outcome_call_of_settled o ho']; simp⟩
    · exact ⟨q.promise,hs.own q hq,Dispatcher.outcome_call_ne_none _ _ _⟩
  · intro hc q' hq'
    obtain ⟨hne,hq'⟩ := hmem.mp hq'
    have hp : q.promise ≠ q'.promise := fun he =>
      hne (List.inj_on_of_nodup_map hs.promises_nodup hq' hq he.symm)
    rw [Dispatcher.outcome_call_of_ne _ _ hp, Dispatcher.outcome_pushSlot]
    exact hs.open_unsettled hc q' hq'
  · intro p hp ho
    have hne : q.promise ≠ p := fun he => (d.pushSlot q.callbackIdx).outcome_call_ne_none _ o (he ▸ ho)
    rw [Dispatcher.outcome_call_of_ne _ _ hne, Dispatcher.outcome_pushSlot] at ho
    obtain ⟨q',hq',rfl⟩ := hs.unsettled_pending _ hp ho
    exact ⟨q',hmem.mpr ⟨fun he => hne (he ▸ rfl),hq'⟩,rfl⟩

theorem close (m : Option String) : Invariant (d.close m) pending where
  partition := hs.partition
  own := hs.own
  entry_lt := hs.entry_lt
  calls_lt c hc := by
    simp only [Dispatcher.close, List.mem_append] at hc
    rcases hc with hc | hc
    · exact hs.calls_lt c hc
    · obtain ⟨i,hi⟩ := List.mem_iff_getElem?.mp (Dispatcher.mem_closingRejections.mp hc).1
      exact hs.entry_lt i c.1 (by simp [Dispatcher.entry, hi])
  promises_nodup := hs.promises_nodup
  free_settled j hj := by
    obtain ⟨p,hp,ho⟩ := hs.free_settled j hj
    obtain ⟨o,ho⟩ := Option.ne_none_iff_exists'.mp ho
    exact ⟨p,hp,by rw [Dispatcher.outcome_close_of_settled _ _ ho]; simp⟩
  open_unsettled h := by simp at h
  unsettled_pending p hp ho := hs.unsettled_pending p hp (by
    cases h : d.outcome p with
    | none => rfl
    | some o => rw [Dispatcher.outcome_close_of_settled _ _ h] at ho; cases ho)

end Invariant

namespace Session

theorem init_invariant : Invariant init.dispatcher init.pending := by
  show Invariant ⟨[some 0],[],false,1,[]⟩ [⟨0,0⟩]
  constructor
  · decide
  · simp [Dispatcher.entry]
  · intro i p h
    rcases i with _ | i <;> simp [Dispatcher.entry] at h
    simp [← h]
  · simp
  · simp
  · simp
  · simp [Dispatcher.outcome]
  · intro p (hp : p < 1) _
    exact ⟨⟨0,0⟩,List.mem_singleton_self _,by show 0 = p; omega⟩

theorem step_invariant {s s' : Session} (hs : Invariant s.dispatcher s.pending) {e : Event}
    (h : s.step e = some s') : Invariant s'.dispatcher s'.pending := by
  cases e with
  | createWritePromise =>
    simp only [step] at h
    split at h
    · exact Option.some.inj h ▸ hs
    · next hc => exact Option.some.inj h ▸ hs.createWritePromise (by simpa using hc)
  | handleResponse message =>
    simp only [step] at h
    split at h
    · exact Option.some.inj h ▸ hs.close _
    · split at h
      · cases h
      · next q hq =>
        have hq' := List.mem_of_find?_eq_some hq
        have hidx : message.callbackIdx = q.callbackIdx :=
          (by simpa using List.find?_some hq : q.callbackIdx = message.callbackIdx).symm
        rw [Dispatcher.dispatch_eq_some _ (hidx ▸ hs.own q hq')] at h
        simp only [Option.map_some', Option.some.injEq] at h
        rw [← h, hidx]
        exact hs.dispatch hq' _
  | close m => exact Option.some.inj h ▸ hs.close m

theorem Reachable.invariant {s : Session} (h : Reachable s) : Invariant s.dispatcher s.pending := by
  induction h with
  | init => exact init_invariant
  | step _ _ hstep ih => exact step_invariant ih hstep

end Session

theorem entry_eq_some_iff {d : Dispatcher} {i p : Nat} :
    d.entry i = some p ↔ d.promiseCallbackFunctions[i]? = some (some p) := by
  simp only [Dispatcher.entry]
  cases d.promiseCallbackFunctions[i]? <;> simp

theorem callback_slots_partition_pending {s : Session} (h : s.Reachable) :
    (s.pending.map (·.callbackIdx) ++ s.dispatcher.availableCallbackSlots).Perm
      (List.range s.dispatcher.promiseCallbackFunctions.length) ∧
    (∀ q ∈ s.pending, s.dispatcher.promiseCallbackFunctions[q.callbackIdx]? = some (some q.promise)) ∧
    (∀ q ∈ s.pending, ∀ message : Response, message.callbackIdx = q.callbackIdx →
      s.dispatcher.dispatch message =
        some ((s.dispatcher.pushSlot q.callbackIdx).call q.promise (responseOutcome message))) := by
  have hs := h.invariant
  refine ⟨hs.partition,fun q hq => entry_eq_some_iff.mp (hs.own q hq),fun q hq message hm => ?_⟩
  rw [Dispatcher.dispatch_eq_some _ (hm ▸ hs.own q hq), hm]

theorem callback_slots_partition_pending_recycled :
    let s : Session := ⟨⟨[some 0,some 2],[],false,3,[(1,.resolved .ok)]⟩,[⟨0,0⟩,⟨1,2⟩]⟩
    s.Reachable ∧
    (s.pending.map (·.callbackIdx) ++ s.dispatcher.availableCallbackSlots).Perm
      (List.range s.dispatcher.promiseCallbackFunctions.length) ∧
    (∀ q ∈ s.pending, s.dispatcher.promiseCallbackFunctions[q.callbackIdx]? = some (some q.promise)) ∧
    (∀ q ∈ s.pending, ∀ message : Response, message.callbackIdx = q.callbackIdx →
      s.dispatcher.dispatch message =
        some ((s.dispatcher.pushSlot q.callbackIdx).call q.promise (responseOutcome message))) :=
  have h : Session.Reachable ⟨⟨[some 0,some 2],[],false,3,[(1,.resolved .ok)]⟩,[⟨0,0⟩,⟨1,2⟩]⟩ :=
    Session.reachable_run .init (by decide : Session.init.run [.createWritePromise,
      .handleResponse ⟨1,none,some .OK,none,none⟩,.createWritePromise] = some _)
  ⟨h,callback_slots_partition_pending h⟩

end GlideClient
