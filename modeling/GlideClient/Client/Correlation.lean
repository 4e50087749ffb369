import GlideClient.Client.Simulation
import GlideClient.Client.Settlement

namespace GlideClient

open Wire response redis_request connection_request

theorem Dispatcher.created_dispatchAll {d d' : Dispatcher} {rs : List Response} (h : d.dispatchAll rs = some d') :
    d'.created = d.created := by
  induction rs generalizing d with
  | nil => cases h; rfl
  | cons r rs ih =>
    obtain ⟨d1,h1,h2⟩ := Option.bind_eq_some.mp h
    exact (ih h2).trans (created_dispatch h1)

open BaseClient

namespace Tracked

variable {pb : ProtobufMessage} {c : BaseClient} {s : Session} (ht : Tracked pb c s)
include ht

theorem created_run {rs : List Response} {s1 : Session} (hrs : ∀ r ∈ rs, r.closingError = none)
    (hrun : s.run (rs.map .handleResponse) = some s1) : s1.dispatcher.created = c.created :=
  (Dispatcher.created_dispatchAll (Session.dispatchAll_of_run hrs hrun)).trans
    (congrArg Dispatcher.created ht.dispatcher).symm

end Tracked

theorem handleReadData_settles_answered {pb : ProtobufMessage} {c : BaseClient} {s : Session}
    (ht : Tracks pb c s) (hc : c.isClosed = false) {chunk : Bytes} {rs : List Response} {p : Bytes}
    {s' : Session} (hchunk : c.remainingReadData.getD [] ++ chunk = (rs.map pb.response.frame).flatten ++ p)
    (hp : pb.response.Partial p) (hrs : ∀ r ∈ rs, r.closingError = none)
    (hrun : s.run (rs.map .handleResponse) = some s') :
    ∃ c', handleReadData pb chunk c = .returned c' ∧
      (∀ r ∈ rs, ∃ q ∈ s.pending, q.callbackIdx = r.callbackIdx ∧
        c'.outcome q.promise = some (responseOutcome r)) ∧
      ∀ p', (∀ q ∈ s.pending, q.promise = p' → q ∈ s'.pending) → c'.outcome p' = c.outcome p' := by
  have ht' := ht.tracked
  obtain ⟨hA,hB⟩ := Session.run_answers ht'.reachable.invariant (ht'.dispatcher ▸ hc) hrs hrun
  exact ⟨_,(ht'.frames hchunk hp hrs hrun).1,hA,fun p' hp' => ht'.dispatcher ▸ hB p' hp'⟩

theorem handleReadData_settles_answered_split_reply :
    let pb := ProtobufMessage.sample
    let rs := [sampleReply 0,sampleReply 1]
    let s' : Session :=
      ⟨⟨[some 0,some 1,some 2],[2,0,1],false,3,[(2,.resolved .ok),(0,.resolved .ok),(1,.resolved .ok)]⟩,[]⟩
    Tracks pb sampleOutOfOrder sampleOutOfOrderSession ∧ sampleOutOfOrder.isClosed = false ∧
    sampleOutOfOrder.remainingReadData.getD [] ++ sampleRestChunk = (rs.map pb.response.frame).flatten ++ [] ∧
    pb.response.Partial [] ∧ (∀ r ∈ rs, r.closingError = none) ∧
    sampleOutOfOrderSession.run (rs.map .handleResponse) = some s' ∧
    ∃ c', handleReadData pb sampleRestChunk sampleOutOfOrder = .returned c' ∧
      (∀ r ∈ rs, ∃ q ∈ sampleOutOfOrderSession.pending, q.callbackIdx = r.callbackIdx ∧
        c'.outcome q.promise = some (responseOutcome r)) ∧
      ∀ p', (∀ q ∈ sampleOutOfOrderSession.pending, q.promise = p' → q ∈ s'.pending) →
        c'.outcome p' = sampleOutOfOrder.outcome p' :=
  have ht : Tracks ProtobufMessage.sample sampleOutOfOrder sampleOutOfOrderSession := ⟨_,_,_,traced_sampleOutOfOrder⟩
  have hc : sampleOutOfOrder.isClosed = false := by rw [ht.tracked.dispatcher]; rfl
  have hrs : ∀ r ∈ [sampleReply 0,sampleReply 1], r.closingError = none := by decide
  have hrun : sampleOutOfOrderSession.run ([sampleReply 0,sampleReply 1].map .handleResponse) =
      some ⟨⟨[some 0,some 1,some 2],[2,0,1],false,3,[(2,.resolved .ok),(0,.resolved .ok),(1,.resolved .ok)]⟩,[]⟩ := by
    decide
  ⟨ht,hc,sampleOutOfOrder_buffered,.inl rfl,hrs,hrun,
    handleReadData_settles_answered ht hc sampleOutOfOrder_buffered (.inl rfl) hrs hrun⟩

theorem handleReadData_answering_all_settles_all {pb : ProtobufMessage} {c : BaseClient} {s : Session}
    (ht : Tracks pb c s) {chunk : Bytes} {rs : List Response} {q : Bytes}
    (hchunk : c.remainingReadData.getD [] ++ chunk = (rs.map pb.response.frame).flatten ++ q)
    (hq : pb.response.Partial q) (hrs : ∀ r ∈ rs, r.closingError = none)
    (hperm : (rs.map (·.callbackIdx)).Perm (s.pending.map (·.callbackIdx))) :
    ∃ c', handleReadData pb chunk c = .returned c' ∧ c'.created = c.created ∧
      (∀ p < c'.created, c'.outcome p ≠ none) ∧
      c'.availableCallbackSlots.Perm (List.range c'.promiseCallbackFunctions.length) := by
  have ht' := ht.tracked
  obtain ⟨s',hrun,hp⟩ := Session.run_answers_all ht'.reachable rs hrs hperm
  have hd := (Session.reachable_run ht'.reachable hrun).invariant.drained hp
  exact ⟨_,(ht'.frames hchunk hq hrs hrun).1,ht'.created_run hrs hrun,hd⟩

theorem handleReadData_answering_all_settles_all_split_reply :
    let pb := ProtobufMessage.sample
    let rs := [sampleReply 0,sampleReply 1]
    Tracks pb sampleOutOfOrder sampleOutOfOrderSession ∧
    sampleOutOfOrder.remainingReadData.getD [] ++ sampleRestChunk = (rs.map pb.response.frame).flatten ++ [] ∧
    pb.response.Partial [] ∧ (∀ r ∈ rs, r.closingError = none) ∧
    (rs.map (·.callbackIdx)).Perm (sampleOutOfOrderSession.pending.map (·.callbackIdx)) ∧
    ∃ c', handleReadData pb sampleRestChunk sampleOutOfOrder = .returned c' ∧
      c'.created = sampleOutOfOrder.created ∧ (∀ p < c'.created, c'.outcome p ≠ none) ∧
      c'.availableCallbackSlots.Perm (List.range c'.promiseCallbackFunctions.length) :=
  have ht : Tracks ProtobufMessage.sample sampleOutOfOrder sampleOutOfOrderSession := ⟨_,_,_,traced_sampleOutOfOrder⟩
  have hrs : ∀ r ∈ [sampleReply 0,sampleReply 1], r.closingError = none := by decide
  have hperm : ([sampleReply 0,sampleReply 1].map (·.callbackIdx)).Perm
      (sampleOutOfOrderSession.pending.map (·.callbackIdx)) := .refl _
  ⟨ht,sampleOutOfOrder_buffered,.inl rfl,hrs,hperm,
    handleReadData_answering_all_settles_all ht sampleOutOfOrder_buffered (.inl rfl) hrs hperm⟩

inductive ClosingTail (pb : ProtobufMessage) : Bytes → Option String → Prop
  | failed {bad : Bytes} {err : String} : bad ≠ [] → pb.response.decodeDelimited bad = .failed err →
    ClosingTail pb bad (some ("Failed to decode the response: " ++ err))
  | closingError {message : Response} {e : String} (rest : Bytes) : message.closingError = some e →
    ClosingTail pb (pb.response.frame message ++ rest) (some e)

theorem readLoop_closingTail {pb : ProtobufMessage} {c : BaseClient} {tail : Bytes} {msg : Option String}
    (h : ClosingTail pb tail msg) : readLoop pb c tail = .returned (c.close msg) := by
  cases h with
  | failed hne hbad => exact readLoop_failed pb hne hbad
  | closingError rest he => exact readLoop_closingError pb (pb.response.decodeDelimited_frame _ rest) he

theorem handleReadData_close_rejects_waiting {pb : ProtobufMessage} {c : BaseClient} {s : Session}
    (ht : Tracks pb c s) (hc : c.isClosed = false) {chunk : Bytes} {rs : List Response} {tail : Bytes}
    {msg : Option String} {s1 : Session}
    (hchunk : c.remainingReadData.getD [] ++ chunk = (rs.map pb.response.frame).flatten ++ tail)
    (htail : ClosingTail pb tail msg) (hrs : ∀ r ∈ rs, r.closingError = none)
    (hrun : s.run (rs.map .handleResponse) = some s1) :
    handleReadData pb chunk c = .returned ({ c with toDispatcher := s1.dispatcher }.close msg) ∧
    (∀ r ∈ rs, ∃ q ∈ s.pending, q.callbackIdx = r.callbackIdx ∧
      ({ c with toDispatcher := s1.dispatcher }.close msg).outcome q.promise = some (responseOutcome r)) ∧
    ∀ p < c.created, s1.dispatcher.outcome p = none →
      ({ c with toDispatcher := s1.dispatcher }.close msg).outcome p = some (.rejected ⟨.ClosingError,msg⟩) := by
  have ht' := ht.tracked
  obtain ⟨hA,-⟩ := Session.run_answers ht'.reachable.invariant (ht'.dispatcher ▸ hc) hrs hrun
  have hi := (Session.reachable_run ht'.reachable hrun).invariant
  refine ⟨by rw [ht'.handleReadData_run hchunk hrs hrun, readLoop_closingTail htail],
    fun r hr => ?_,fun p hp ho => hi.close_rejects_unsettled msg ((ht'.created_run hrs hrun).symm ▸ hp) ho⟩
  obtain ⟨q,hq,hidx,ho⟩ := hA r hr
  exact ⟨q,hq,hidx,Dispatcher.outcome_close_of_settled _ _ ho⟩

theorem handleReadData_close_rejects_waiting_after_reply :
    let pb := ProtobufMessage.sample
    let s := sampleRequestedSession
    let s1 := sampleOutOfOrderSession
    let chunk (tail : Bytes) := ([sampleReply 2].map pb.response.frame).flatten ++ tail
    let closed (msg : Option String) := { sampleRequested with toDispatcher := s1.dispatcher }.close msg
    let failed := "Failed to decode the response: " ++ "invalid response"
    let closing : Response := ⟨0,none,none,none,some "Server closed"⟩
    Tracks pb sampleRequested s ∧ sampleRequested.isClosed = false ∧
    (∀ r ∈ [sampleReply 2], r.closingError = none) ∧ s.run ([sampleReply 2].map .handleResponse) = some s1 ∧
    (sampleRequested.remainingReadData.getD [] ++ chunk [2,0,0] =
        ([sampleReply 2].map pb.response.frame).flatten ++ [2,0,0] ∧
      ClosingTail pb [2,0,0] (some failed) ∧
      handleReadData pb (chunk [2,0,0]) sampleRequested = .returned (closed (some failed)) ∧
      (∀ r ∈ [sampleReply 2], ∃ q ∈ s.pending, q.callbackIdx = r.callbackIdx ∧
        (closed (some failed)).outcome q.promise = some (responseOutcome r)) ∧
      ∀ p < sampleRequested.created, s1.dispatcher.outcome p = none →
        (closed (some failed)).outcome p = some (.rejected ⟨.ClosingError,some failed⟩)) ∧
    (sampleRequested.remainingReadData.getD [] ++ chunk (pb.response.frame closing ++ []) =
        ([sampleReply 2].map pb.response.frame).flatten ++ (pb.response.frame closing ++ []) ∧
      ClosingTail pb (pb.response.frame closing ++ []) (some "Server closed") ∧
      handleReadData pb (chunk (pb.response.frame closing ++ [])) sampleRequested =
        .returned (closed (some "Server closed")) ∧
      (∀ r ∈ [sampleReply 2], ∃ q ∈ s.pending, q.callbackIdx = r.callbackIdx ∧
        (closed (some "Server closed")).outcome q.promise = some (responseOutcome r)) ∧
      ∀ p < sampleRequested.created, s1.dispatcher.outcome p = none →
        (closed (some "Server closed")).outcome p = some (.rejected ⟨.ClosingError,some "Server closed"⟩)) :=
  have ht : Tracks ProtobufMessage.sample sampleRequested sampleRequestedSession := ⟨_,_,_,traced_sampleRequested⟩
  have hc : sampleRequested.isClosed = false := rfl
  have hrs : ∀ r ∈ [sampleReply 2], r.closingError = none := by decide
  have hrun : sampleRequestedSession.run ([sampleReply 2].map .handleResponse) = some sampleOutOfOrderSession := by
    decide
  have hbuf : sampleRequested.remainingReadData = none := rfl
  have hfail : ClosingTail ProtobufMessage.sample [2,0,0] (some ("Failed to decode the response: " ++ "invalid response")) :=
    .failed (by decide) (by decide)
  have hclosing : ClosingTail ProtobufMessage.sample
      (ProtobufMessage.sample.response.frame ⟨0,none,none,none,some "Server closed"⟩ ++ []) (some "Server closed") :=
    .closingError [] rfl
  have hchunk1 := getD_append_of_none hbuf (([sampleReply 2].map ProtobufMessage.sample.response.frame).flatten ++ [2,0,0])
  have hchunk2 := getD_append_of_none hbuf (([sampleReply 2].map ProtobufMessage.sample.response.frame).flatten ++
    (ProtobufMessage.sample.response.frame ⟨0,none,none,none,some "Server closed"⟩ ++ []))
  ⟨ht,hc,hrs,hrun,⟨hchunk1,hfail,handleReadData_close_rejects_waiting ht hc hchunk1 hfail hrs hrun⟩,
    ⟨hchunk2,hclosing,handleReadData_close_rejects_waiting ht hc hchunk2 hclosing hrs hrun⟩⟩

structure Transcript (pb : ProtobufMessage) (c : BaseClient) (s : Session) (conn : ConnectionRequest)
    (reqs : List RedisRequest) : Prop where
  created : reqs.length + 1 = c.created
  writer : Writer.Invariant c.toWriter (pb.encodeConnectionRequest conn :: reqs.map pb.encodeRedisRequest)
  sent_idx : ∀ q ∈ s.pending, (0 :: reqs.map (·.callbackIdx))[q.promise]? = some q.callbackIdx

theorem sent_idx_append {reqs : List RedisRequest} (r : RedisRequest) {i n : Nat}
    (h : (0 :: reqs.map (·.callbackIdx))[i]? = some n) : (0 :: (reqs ++ [r]).map (·.callbackIdx))[i]? = some n := by
  rw [List.map_append, ← List.cons_append, List.getElem?_append_left (List.getElem?_eq_some_iff.mp h).1, h]

namespace Transcript

variable {pb : ProtobufMessage} {c : BaseClient} {s : Session} {conn : ConnectionRequest}
  {reqs : List RedisRequest} (ht : Transcript pb c s conn reqs)
include ht

theorem frame {c' : BaseClient} {s' : Session} (hw : c'.toWriter = c.toWriter) (hc : c'.created = c.created)
    (hp : s'.pending ⊆ s.pending) : Transcript pb c' s' conn reqs :=
  ⟨hc ▸ ht.created,hw ▸ ht.writer,fun q hq => ht.sent_idx q (hp hq)⟩

theorem writeCompleted {c' : BaseClient} (h : c.writeCompleted = some c') : Transcript pb c' s conn reqs := by
  obtain ⟨w,hw,rfl⟩ := Option.map_eq_some'.mp h
  exact ⟨ht.created,ht.writer.writeCompleted hw,ht.sent_idx⟩

theorem createWritePromise (hc : c.isClosed = false) (command : RequestBody) (route : Option Routes) :
    Transcript pb (BaseClient.createWritePromise pb command route c).2
      ⟨c.newWritePromise.2,s.pending ++ [⟨c.newWritePromise.1,c.created⟩]⟩ conn
      (reqs ++ [⟨c.newWritePromise.1,command,route⟩]) := by
  refine ⟨by simp [BaseClient.createWritePromise, hc, writeOrBufferRedisRequest, ← ht.created],?_,?_⟩
  · simpa [BaseClient.createWritePromise, hc, writeOrBufferRedisRequest] using
      ht.writer.writeOrBufferRequest (pb.encodeRedisRequest ⟨c.newWritePromise.1,command,route⟩)
  · intro q hq
    rcases List.mem_append.mp hq with hq | hq
    · exact sent_idx_append _ (ht.sent_idx q hq)
    · rw [List.mem_singleton.mp hq, ← ht.created]
      simp

end Transcript

theorem Traced.transcript {pb : ProtobufMessage} {createClientRequest : BaseClientConfiguration → ConnectionRequest}
    {options : BaseClientConfiguration} {log : List RedisRequest} {c : BaseClient} {s : Session}
    (h : Traced pb createClientRequest options log c s) : Transcript pb c s (createClientRequest options) log := by
  induction h with
  | connectToServer => exact ⟨rfl,Writer.invariant_empty.writeOrBufferRequest _,by simp [Session.init]⟩
  | @createWritePromise log c s s' command route ht hs ih =>
    simp only [Session.step, ← ht.tracked.dispatcher] at hs
    cases hc : c.isClosed with
    | true =>
      simp only [hc, if_true, Option.some.injEq] at hs
      rw [createWritePromise_closed pb hc, ← hs]
      simpa [hc] using ih
    | false =>
      simp only [hc, Bool.false_eq_true, if_false, Option.some.injEq] at hs
      rw [← hs]
      simpa [hc] using ih.createWritePromise hc command route
  | writeCompleted _ hc ih => exact ih.writeCompleted hc
  | close m _ hs ih =>
    cases hs
    exact ih.frame rfl rfl (List.Subset.refl _)
  | frames chunk rs ht hchunk hp hrs hrun ih =>
    rw [(ht.tracked.frames hchunk hp hrs hrun).1]
    exact ih.frame rfl (ht.tracked.created_run hrs hrun) (Session.run_pending_sublist hrs hrun).subset
  | closingFrame chunk rs message rest ht hchunk hrs he hrun hs' ih =>
    rw [(ht.tracked.closingFrame hchunk hrs he hrun hs').1]
    simp only [Session.step, he, Option.some.injEq] at hs'
    subst hs'
    exact ih.frame rfl (ht.tracked.created_run hrs hrun) (Session.run_pending_sublist hrs hrun).subset

theorem requests_on_socket_carry_their_slots {pb : ProtobufMessage}
    {createClientRequest : BaseClientConfiguration → ConnectionRequest} {options : BaseClientConfiguration}
    {log : List RedisRequest} {c : BaseClient} {s : Session} (h : Traced pb createClientRequest options log c s) :
    log.length + 1 = c.created ∧
      Writer.Invariant c.toWriter
        (pb.encodeConnectionRequest (createClientRequest options) :: log.map pb.encodeRedisRequest) ∧
      ∀ q ∈ s.pending, (0 :: log.map (·.callbackIdx))[q.promise]? = some q.callbackIdx ∧
        c.entry q.callbackIdx = some q.promise := by
  have hr := h.transcript
  have hi : Invariant c.toDispatcher s.pending := h.tracked.dispatcher ▸ h.tracked.reachable.invariant
  exact ⟨hr.created,hr.writer,fun q hq => ⟨hr.sent_idx q hq,hi.own q hq⟩⟩

theorem requests_on_socket_carry_their_slots_out_of_order :
    Traced ProtobufMessage.sample createClientRequest sampleOptions sampleLog sampleOutOfOrder
      sampleOutOfOrderSession ∧
    sampleLog.length + 1 = sampleOutOfOrder.created ∧
      Writer.Invariant sampleOutOfOrder.toWriter
        (ProtobufMessage.sample.encodeConnectionRequest (createClientRequest sampleOptions) ::
          sampleLog.map ProtobufMessage.sample.encodeRedisRequest) ∧
      ∀ q ∈ sampleOutOfOrderSession.pending, (0 :: sampleLog.map (·.callbackIdx))[q.promise]? = some q.callbackIdx ∧
        sampleOutOfOrder.entry q.callbackIdx = some q.promise :=
  ⟨traced_sampleOutOfOrder,requests_on_socket_carry_their_slots traced_sampleOutOfOrder⟩

end GlideClient
