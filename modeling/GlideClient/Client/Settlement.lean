import GlideClient.Client.Session

namespace GlideClient

open response

theorem responseOutcome_ne_closing (message : Response) (m : Option String) :
    responseOutcome message ≠ .rejected ⟨.ClosingError,m⟩ := by
  unfold responseOutcome
  split <;> simp [getRequestErrorClass_is_request_error]

namespace Dispatcher

theorem outcome_eq_none_iff (d : Dispatcher) (p : Nat) : d.outcome p = none ↔ p ∉ d.calls.map (·.1) := by
  simp only [outcome, Option.map_eq_none', List.find?_eq_none, decide_eq_true_eq, List.mem_map, not_exists,
    not_and]

theorem outcome_call (d : Dispatcher) (q p : Nat) (o : Outcome) :
    (call q o d).outcome p = (d.outcome p).or (if q = p then some o else none) := by
  cases h : d.outcome p with
  | some o' => simp [d.outcome_call_of_settled o h]
  | none =>
    by_cases hq : q = p
    · subst hq
      simp [d.outcome_call_self o h]
    · simp [d.outcome_call_of_ne o hq, h, hq]

end Dispatcher

namespace Session

theorem step_handleResponse {s s' : Session} {message : Response} (hm : message.closingError = none)
    (h : s.step (.handleResponse message) = some s') :
    ∃ q ∈ s.pending, q.callbackIdx = message.callbackIdx ∧ ∃ p, s.dispatcher.entry q.callbackIdx = some p ∧
      s' = ⟨(s.dispatcher.pushSlot q.callbackIdx).call p (responseOutcome message),s.pending.erase q⟩ := by
  simp only [step, hm] at h
  split at h
  · cases h
  · next q hq =>
    have hidx : q.callbackIdx = message.callbackIdx := by simpa using List.find?_some hq
    obtain ⟨d,hd,rfl⟩ := Option.map_eq_some'.mp h
    obtain ⟨p,hp,rfl⟩ := Option.map_eq_some'.mp hd
    exact ⟨q,List.mem_of_find?_eq_some hq,hidx,p,hidx ▸ hp,by rw [hidx]⟩

theorem step_cases {s s' : Session} {e : Event} (h : s.step e = some s') :
    (s.dispatcher.isClosed = true ∧ s' = s) ∨
    (s.dispatcher.isClosed = false ∧ s' = ⟨s.dispatcher.newWritePromise.2,
      s.pending ++ [⟨s.dispatcher.newWritePromise.1,s.dispatcher.created⟩]⟩) ∨
    (∃ q ∈ s.pending, ∃ p message, s.dispatcher.entry q.callbackIdx = some p ∧
      s' = ⟨(s.dispatcher.pushSlot q.callbackIdx).call p (responseOutcome message),s.pending.erase q⟩) ∨
    ∃ m, s' = ⟨s.dispatcher.close m,s.pending⟩ := by
  cases e with
  | createWritePromise =>
    simp only [step] at h
    split at h
    · next hc => exact .inl ⟨hc,(Option.some.inj h).symm⟩
    · next hc => exact .inr (.inl ⟨by simpa using hc,(Option.some.inj h).symm⟩)
  | handleResponse message =>
    cases hm : message.closingError with
    | some e =>
      simp only [step, hm] at h
      exact .inr (.inr (.inr ⟨_,(Option.some.inj h).symm⟩))
    | none =>
      obtain ⟨q,hq,-,p,hp,rfl⟩ := step_handleResponse hm h
      exact .inr (.inr (.inl ⟨q,hq,p,message,hp,rfl⟩))
  | close m => exact .inr (.inr (.inr ⟨m,(Option.some.inj h).symm⟩))

end Session

structure Settlement (d : Dispatcher) : Prop where
  closing_only_closed : ∀ p m, d.outcome p = some (.rejected ⟨.ClosingError,m⟩) → d.isClosed = true
  calls_nodup_open : d.isClosed = false → (d.calls.map (·.1)).Nodup
  closed_settled : d.isClosed = true → ∀ p < d.created, d.outcome p ≠ none

namespace Session

theorem step_settlement {s s' : Session} (hi : Invariant s.dispatcher s.pending)
    (hs : Settlement s.dispatcher) {e : Event} (h : s.step e = some s') : Settlement s'.dispatcher := by
  rcases step_cases h with ⟨-,rfl⟩ | ⟨hc,rfl⟩ | ⟨q,hq,p,message,hp,rfl⟩ | ⟨m,rfl⟩
  · exact hs
  · exact ⟨hs.closing_only_closed,hs.calls_nodup_open,fun h => absurd (hc ▸ h) (by simp)⟩
  · have hpq : p = q.promise := Option.some.inj (hp.symm.trans (hi.own q hq))
    subst hpq
    refine ⟨fun p' m ho => ?_,fun hc => ?_,fun hc p' hp' => ?_⟩
    · rw [Dispatcher.outcome_call, Dispatcher.outcome_pushSlot] at ho
      cases h' : s.dispatcher.outcome p' with
      | some o =>
        rw [h', Option.or_some] at ho
        exact hs.closing_only_closed p' m (h'.trans ho)
      | none =>
        rw [h'] at ho
        split at ho
        · exact absurd (Option.some.inj ho) (responseOutcome_ne_closing message m)
        · cases ho
    · have hu := (s.dispatcher.outcome_eq_none_iff _).mp (hi.open_unsettled hc q hq)
      simpa [List.nodup_append, hu] using hs.calls_nodup_open hc
    · obtain ⟨o,ho⟩ := Option.ne_none_iff_exists'.mp (hs.closed_settled hc p' hp')
      rw [(s.dispatcher.pushSlot q.callbackIdx).outcome_call_of_settled _ ho]
      simp
  · refine ⟨fun _ _ _ => rfl,fun h => by simp at h,fun _ p hp => ?_⟩
    cases ho : s.dispatcher.outcome p with
    | none => simp [hi.close_rejects_unsettled m hp ho]
    | some o => simp [s.dispatcher.outcome_close_of_settled m ho]

theorem Reachable.settlement {s : Session} (h : s.Reachable) : Settlement s.dispatcher := by
  induction h with
  | init => exact ⟨fun p m h => (by cases h),fun _ => List.nodup_nil,fun h => (by cases h)⟩
  | step _ hr hstep ih => exact step_settlement hr.invariant ih hstep

theorem run_pending_sublist {s s' : Session} {rs : List Response} (hrs : ∀ r ∈ rs, r.closingError = none)
    (h : s.run (rs.map .handleResponse) = some s') : s'.pending.Sublist s.pending := by
  induction rs generalizing s with
  | nil => cases h; exact .refl _
  | cons r rs ih =>
    obtain ⟨s1,h1,h2⟩ := Option.bind_eq_some.mp h
    obtain ⟨q,-,-,p,-,rfl⟩ := step_handleResponse (hrs r (.head _)) h1
    exact (ih (fun r' hr' => hrs r' (.tail _ hr')) h2).trans (List.erase_sublist q _)

theorem run_answers {s s' : Session} (hi : Invariant s.dispatcher s.pending) (hc : s.dispatcher.isClosed = false)
    {rs : List Response} (hrs : ∀ r ∈ rs, r.closingError = none) (h : s.run (rs.map .handleResponse) = some s') :
    (∀ r ∈ rs, ∃ q ∈ s.pending, q.callbackIdx = r.callbackIdx ∧
      s'.dispatcher.outcome q.promise = some (responseOutcome r)) ∧
    (∀ p, (∀ q ∈ s.pending, q.promise = p → q ∈ s'.pending) → s'.dispatcher.outcome p = s.dispatcher.outcome p) := by
  induction rs generalizing s with
  | nil =>
    cases h
    exact ⟨fun _ h => (nomatch h),fun _ _ => rfl⟩
  | cons r rs ih =>
    obtain ⟨s1,h1,h2⟩ := Option.bind_eq_some.mp h
    obtain ⟨q,hq,hidx,p,hp,rfl⟩ := step_handleResponse (hrs r (.head _)) h1
    obtain rfl : p = q.promise := Option.some.inj (hp.symm.trans (hi.own q hq))
    have hmem : ∀ {q'}, q' ∈ s.pending.erase q ↔ q' ≠ q ∧ q' ∈ s.pending := hi.pending_nodup.mem_erase_iff
    have hne : ∀ q' ∈ s.pending.erase q, q'.promise ≠ q.promise := fun q' hq' he =>
      (hmem.mp hq').1 (List.inj_on_of_nodup_map hi.promises_nodup (hmem.mp hq').2 hq he)
    have hrs' : ∀ r' ∈ rs, r'.closingError = none := fun r' hr' => hrs r' (.tail _ hr')
    obtain ⟨hA,hB⟩ := ih (hi.dispatch hq _) (by simpa using hc) hrs' h2
    have hself : s'.dispatcher.outcome q.promise = some (responseOutcome r) := by
      rw [hB _ fun q' hq' he => absurd he (hne q' hq')]
      exact Dispatcher.outcome_call_self _ _ (hi.open_unsettled hc q hq)
    refine ⟨?_,fun p' hp' => ?_⟩
    · rintro r' (_ | ⟨_,hr'⟩)
      · exact ⟨q,hq,hidx,hself⟩
      · obtain ⟨q',hq',h'⟩ := hA r' hr'
        exact ⟨q',List.mem_of_mem_erase hq',h'⟩
    · have hpq : q.promise ≠ p' := fun he => (hmem.mp ((run_pending_sublist hrs' h2).subset (hp' q hq he))).1 rfl
      rw [hB p' fun q' hq' he => hp' q' (List.mem_of_mem_erase hq') he,
        Dispatcher.outcome_call_of_ne _ _ hpq, Dispatcher.outcome_pushSlot]

theorem step_handleResponse_pending {s : Session} (hi : Invariant s.dispatcher s.pending) {q : Request}
    (hq : q ∈ s.pending) {message : Response} (hm : message.closingError = none)
    (hidx : message.callbackIdx = q.callbackIdx) :
    s.step (.handleResponse message) =
      some ⟨(s.dispatcher.pushSlot q.callbackIdx).call q.promise (responseOutcome message),s.pending.erase q⟩ := by
  have hf : s.pending.find? (·.callbackIdx = message.callbackIdx) = some q := by
    cases hfq : s.pending.find? (·.callbackIdx = message.callbackIdx) with
    | none => exact absurd hidx.symm (by simpa using List.find?_eq_none.mp hfq q hq)
    | some q' =>
      have h1 := (by simpa using List.find?_some hfq : q'.callbackIdx = message.callbackIdx).trans hidx
      rw [List.inj_on_of_nodup_map (List.nodup_append.mp hi.nodup).1 (List.mem_of_find?_eq_some hfq) hq h1]
  simp only [step, hm, hf, Dispatcher.dispatch_eq_some _ (hidx ▸ hi.own q hq), Option.map_some']
  rw [hidx]

def peakPending (s : Session) : List Event → Nat
  | [] => s.pending.length
  | e :: es => max s.pending.length ((s.step e).elim s.pending.length (peakPending · es))

theorem pending_le_peakPending (s : Session) (es : List Event) : s.pending.length ≤ s.peakPending es := by
  cases es <;> simp [peakPending]

theorem step_table_length {s s' : Session} (hi : Invariant s.dispatcher s.pending) {e : Event}
    (h : s.step e = some s') :
    s'.dispatcher.promiseCallbackFunctions.length =
      max s.dispatcher.promiseCallbackFunctions.length s'.pending.length := by
  have h1 := hi.length_table
  have h2 := (step_invariant hi h).length_table
  rcases step_cases h with ⟨-,rfl⟩ | ⟨-,rfl⟩ | ⟨q,hq,p,message,hp,rfl⟩ | ⟨m,rfl⟩
  · omega
  · simp only [Dispatcher.newWritePromise_slots, List.length_dropLast, List.length_append,
      List.length_singleton] at h2 ⊢
    omega
  · have := List.length_pos_of_mem hq
    simp only [Dispatcher.call_slots, Dispatcher.pushSlot_slots, Dispatcher.call_table, Dispatcher.pushSlot_table,
      List.length_append, List.length_singleton, List.length_erase_of_mem hq] at h2 ⊢
    omega
  · simp only [Dispatcher.close_table, Dispatcher.close_slots] at h2 ⊢
    omega

theorem run_table_length {s s' : Session} (hi : Invariant s.dispatcher s.pending) {es : List Event}
    (h : s.run es = some s') :
    s'.dispatcher.promiseCallbackFunctions.length =
      max s.dispatcher.promiseCallbackFunctions.length (s.peakPending es) := by
  induction es generalizing s with
  | nil =>
    cases h
    have := hi.length_table
    simp only [peakPending]
    omega
  | cons e es ih =>
    obtain ⟨s1,h1,h2⟩ := Option.bind_eq_some.mp h
    have := hi.length_table
    have := pending_le_peakPending s1 es
    rw [ih (step_invariant hi h1) h2, step_table_length hi h1]
    simp only [peakPending, h1, Option.elim]
    omega

end Session

open Session

theorem closing_rejection_only_after_close {s : Session} (h : s.Reachable) {p : Nat} {m : Option String}
    (ho : s.dispatcher.outcome p = some (.rejected ⟨.ClosingError,m⟩)) : s.dispatcher.isClosed = true :=
  h.settlement.closing_only_closed p m ho

theorem closing_rejection_only_after_close_closed :
    let s : Session := ⟨⟨[some 0,some 1],[],true,2,[(0,.rejected ⟨.ClosingError,some "closed"⟩),
      (1,.rejected ⟨.ClosingError,some "closed"⟩)]⟩,[⟨0,0⟩,⟨1,1⟩]⟩
    s.Reachable ∧ s.dispatcher.outcome 1 = some (.rejected ⟨.ClosingError,some "closed"⟩) ∧
      s.dispatcher.isClosed = true :=
  have h : Session.Reachable ⟨⟨[some 0,some 1],[],true,2,[(0,.rejected ⟨.ClosingError,some "closed"⟩),
      (1,.rejected ⟨.ClosingError,some "closed"⟩)]⟩,[⟨0,0⟩,⟨1,1⟩]⟩ :=
    reachable_run .init (by decide : init.run [.createWritePromise,.close (some "closed")] = some _)
  ⟨h,by decide,closing_rejection_only_after_close h (p := 1) (m := some "closed") (by decide)⟩

theorem callbacks_called_once_while_open {s : Session} (h : s.Reachable) (ho : s.dispatcher.isClosed = false) :
    (s.dispatcher.calls.map (·.1)).Nodup :=
  h.settlement.calls_nodup_open ho

theorem callbacks_called_once_while_open_answered :
    let s : Session := ⟨⟨[some 0,some 1],[1],false,2,[(1,.resolved .ok)]⟩,[⟨0,0⟩]⟩
    s.Reachable ∧ s.dispatcher.isClosed = false ∧ (s.dispatcher.calls.map (·.1)).Nodup :=
  have h : Session.Reachable ⟨⟨[some 0,some 1],[1],false,2,[(1,.resolved .ok)]⟩,[⟨0,0⟩]⟩ :=
    reachable_run .init (by decide : init.run [.createWritePromise,
      .handleResponse ⟨1,none,some .OK,none,none⟩] = some _)
  ⟨h,rfl,callbacks_called_once_while_open h rfl⟩

theorem closed_client_settled_and_close_idempotent {s : Session} (h : s.Reachable)
    (hc : s.dispatcher.isClosed = true) :
    (∀ p < s.dispatcher.created, s.dispatcher.outcome p ≠ none) ∧
    ∀ m p, (s.dispatcher.close m).outcome p = s.dispatcher.outcome p := by
  have hs := h.settlement
  have hi := h.invariant
  refine ⟨hs.closed_settled hc,fun m => s.dispatcher.outcome_close_of_tableSettled (fun p hp => ?_) m⟩
  obtain ⟨i,hi'⟩ := List.mem_iff_getElem?.mp hp
  exact hs.closed_settled hc p (hi.entry_lt i p (by simp [Dispatcher.entry, hi']))

theorem closed_client_settled_and_close_idempotent_closed :
    let s : Session := ⟨⟨[some 0,some 1],[],true,2,[(0,.rejected ⟨.ClosingError,some "closed"⟩),
      (1,.rejected ⟨.ClosingError,some "closed"⟩)]⟩,[⟨0,0⟩,⟨1,1⟩]⟩
    s.Reachable ∧ s.dispatcher.isClosed = true ∧
    (∀ p < s.dispatcher.created, s.dispatcher.outcome p ≠ none) ∧
    ∀ m p, (s.dispatcher.close m).outcome p = s.dispatcher.outcome p :=
  have h : Session.Reachable ⟨⟨[some 0,some 1],[],true,2,[(0,.rejected ⟨.ClosingError,some "closed"⟩),
      (1,.rejected ⟨.ClosingError,some "closed"⟩)]⟩,[⟨0,0⟩,⟨1,1⟩]⟩ :=
    reachable_run .init (by decide : init.run [.createWritePromise,.close (some "closed")] = some _)
  ⟨h,rfl,closed_client_settled_and_close_idempotent h rfl⟩

theorem Session.run_answers_all {s : Session} (h : s.Reachable) (rs : List Response)
    (hrs : ∀ r ∈ rs, r.closingError = none)
    (hperm : (rs.map (·.callbackIdx)).Perm (s.pending.map (·.callbackIdx))) :
    ∃ s', s.run (rs.map .handleResponse) = some s' ∧ s'.pending = [] := by
  induction rs generalizing s with
  | nil => exact ⟨s,rfl,List.map_eq_nil_iff.mp hperm.symm.eq_nil⟩
  | cons r rs ih =>
    obtain ⟨q,hq,hidx⟩ := List.mem_map.mp (hperm.subset (List.mem_cons_self _ _))
    have hstep := step_handleResponse_pending h.invariant hq (hrs r (.head _)) hidx.symm
    have hperm' : (rs.map (·.callbackIdx)).Perm ((s.pending.erase q).map (·.callbackIdx)) := by
      have h1 := (List.perm_cons_erase hq).map (·.callbackIdx)
      rw [List.map_cons, hidx] at h1
      exact (hperm.trans h1).cons_inv
    obtain ⟨s',hrun,hs'⟩ := ih (h.step _ hstep) (fun r' hr' => hrs r' (.tail _ hr')) hperm'
    exact ⟨s',by simp only [List.map_cons, run, hstep, Option.some_bind]; exact hrun,hs'⟩

theorem answering_every_pending_request_drains {s : Session} (h : s.Reachable) (rs : List Response)
    (hrs : ∀ r ∈ rs, r.closingError = none)
    (hperm : (rs.map (·.callbackIdx)).Perm (s.pending.map (·.callbackIdx))) :
    ∃ s', s.run (rs.map .handleResponse) = some s' ∧ s'.pending = [] ∧
      (∀ p < s'.dispatcher.created, s'.dispatcher.outcome p ≠ none) ∧
      s'.dispatcher.availableCallbackSlots.Perm (List.range s'.dispatcher.promiseCallbackFunctions.length) := by
  obtain ⟨s',hrun,hp⟩ := Session.run_answers_all h rs hrs hperm
  exact ⟨s',hrun,hp,(reachable_run h hrun).invariant.drained hp⟩

theorem answering_every_pending_request_drains_out_of_order :
    let s : Session := ⟨⟨[some 0,some 1],[],false,2,[]⟩,[⟨0,0⟩,⟨1,1⟩]⟩
    let rs : List Response := [⟨1,none,some .OK,none,none⟩,⟨0,none,none,none,none⟩]
    s.Reachable ∧ (∀ r ∈ rs, r.closingError = none) ∧
    (rs.map (·.callbackIdx)).Perm (s.pending.map (·.callbackIdx)) ∧
    ∃ s', s.run (rs.map .handleResponse) = some s' ∧ s'.pending = [] ∧
      (∀ p < s'.dispatcher.created, s'.dispatcher.outcome p ≠ none) ∧
      s'.dispatcher.availableCallbackSlots.Perm (List.range s'.dispatcher.promiseCallbackFunctions.length) :=
  have h : Session.Reachable ⟨⟨[some 0,some 1],[],false,2,[]⟩,[⟨0,0⟩,⟨1,1⟩]⟩ :=
    reachable_run .init (by decide : init.run [.createWritePromise] = some _)
  have hrs : ∀ r ∈ ([⟨1,none,some .OK,none,none⟩,⟨0,none,none,none,none⟩] : List Response),
      r.closingError = none := by simp
  have hperm : (([⟨1,none,some .OK,none,none⟩,⟨0,none,none,none,none⟩] : List Response).map
      (·.callbackIdx)).Perm (([⟨0,0⟩,⟨1,1⟩] : List Request).map (·.callbackIdx)) := List.Perm.swap 0 1 []
  ⟨h,hrs,hperm,answering_every_pending_request_drains h _ hrs hperm⟩

theorem callback_table_length_eq_peak_pending {es : List Event} {s : Session} (h : init.run es = some s) :
    s.dispatcher.promiseCallbackFunctions.length = init.peakPending es := by
  rw [run_table_length init_invariant h]
  exact max_eq_right (pending_le_peakPending init es)

theorem callback_table_length_eq_peak_pending_reused :
    let es : List Event := [.createWritePromise,.createWritePromise,
      .handleResponse ⟨1,none,some .OK,none,none⟩,.createWritePromise]
    let s : Session := ⟨⟨[some 0,some 3,some 2],[],false,4,[(1,.resolved .ok)]⟩,[⟨0,0⟩,⟨2,2⟩,⟨1,3⟩]⟩
    init.run es = some s ∧ s.dispatcher.promiseCallbackFunctions.length = init.peakPending es :=
  have h : init.run [.createWritePromise,.createWritePromise,
      .handleResponse ⟨1,none,some .OK,none,none⟩,.createWritePromise] =
      some ⟨⟨[some 0,some 3,some 2],[],false,4,[(1,.resolved .ok)]⟩,[⟨0,0⟩,⟨2,2⟩,⟨1,3⟩]⟩ := by
    decide
  ⟨h,callback_table_length_eq_peak_pending h⟩

end GlideClient
