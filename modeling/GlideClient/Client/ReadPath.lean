import GlideClient.Client.BaseClient

namespace GlideClient

open Wire response

namespace BaseClient

variable (pb : ProtobufMessage)

theorem decoded_ne_nil {buf rest : Bytes} {message : Response}
    (h : pb.response.decodeDelimited buf = .decoded message rest) : buf ≠ [] := by
  rintro rfl
  simpa using pb.response.decodeDelimited_shortens h

theorem readLoop_rangeError {c : BaseClient} {buf : Bytes} (hne : buf ≠ [])
    (h : pb.response.decodeDelimited buf = .rangeError) :
    readLoop pb c buf = .returned { c with remainingReadData := some buf } := by
  obtain ⟨b,bs,rfl⟩ := List.exists_cons_of_ne_nil hne
  rw [readLoop]
  split <;> simp_all

theorem readLoop_dispatch {c : BaseClient} {buf rest : Bytes} {message : Response} {d : Dispatcher}
    (h : pb.response.decodeDelimited buf = .decoded message rest) (hm : message.closingError = none)
    (hd : c.dispatch message = some d) :
    readLoop pb c buf = readLoop pb { c with toDispatcher := d } rest := by
  obtain ⟨b,bs,rfl⟩ := List.exists_cons_of_ne_nil (decoded_ne_nil pb h)
  rw [readLoop]
  split <;> simp_all

theorem readLoop_typeError {c : BaseClient} {buf rest : Bytes} {message : Response}
    (h : pb.response.decodeDelimited buf = .decoded message rest) (hm : message.closingError = none)
    (hd : c.dispatch message = none) : readLoop pb c buf = .typeError c := by
  obtain ⟨b,bs,rfl⟩ := List.exists_cons_of_ne_nil (decoded_ne_nil pb h)
  rw [readLoop]
  split <;> simp_all

theorem readLoop_failed {c : BaseClient} {buf : Bytes} {err : String} (hne : buf ≠ [])
    (h : pb.response.decodeDelimited buf = .failed err) :
    readLoop pb c buf = .returned (c.close (some ("Failed to decode the response: " ++ err))) := by
  obtain ⟨b,bs,rfl⟩ := List.exists_cons_of_ne_nil hne
  rw [readLoop]
  split <;> simp_all

theorem readLoop_closingError {c : BaseClient} {buf rest : Bytes} {message : Response} {e : String}
    (h : pb.response.decodeDelimited buf = .decoded message rest) (hm : message.closingError = some e) :
    readLoop pb c buf = .returned (c.close (some e)) := by
  obtain ⟨b,bs,rfl⟩ := List.exists_cons_of_ne_nil (decoded_ne_nil pb h)
  rw [readLoop]
  split <;> simp_all

theorem readLoop_frames_append (rs : List Response) (c : BaseClient) (rest : Bytes)
    (hrs : ∀ r ∈ rs, r.closingError = none) {d : Dispatcher} (hd : c.dispatchAll rs = some d) :
    readLoop pb c ((rs.map pb.response.frame).flatten ++ rest) = readLoop pb { c with toDispatcher := d } rest := by
  induction rs generalizing c with
  | nil => cases hd; rfl
  | cons r rs ih =>
    obtain ⟨d1,h1,h2⟩ := Option.bind_eq_some.mp hd
    rw [List.map_cons, List.flatten_cons, List.append_assoc,
      readLoop_dispatch pb (pb.response.decodeDelimited_frame r _) (hrs r (.head _)) h1]
    exact ih { c with toDispatcher := d1 } (fun r hr => hrs r (.tail _ hr)) h2

theorem readLoop_partial (c : BaseClient) {q : Bytes} (hq : pb.response.Partial q) :
    readLoop pb c q = .returned { c with remainingReadData := remainder q } := by
  by_cases hq0 : q = []
  · subst hq0
    simp [readLoop, remainder]
  · rw [readLoop_rangeError pb hq0 (pb.response.decodeDelimited_partial hq hq0)]
    simp [remainder, hq0]

theorem handleReadData_eq (data : Bytes) (c : BaseClient) :
    handleReadData pb data c = readLoop pb c (c.remainingReadData.getD [] ++ data) := by
  unfold handleReadData
  split <;> simp_all

theorem getD_append_of_none {c : BaseClient} (hc : c.remainingReadData = none) (data : Bytes) :
    c.remainingReadData.getD [] ++ data = data := by
  rw [hc, Option.getD_none, List.nil_append]

theorem remainder_getD (q : Bytes) : (remainder q).getD [] = q := by
  unfold remainder
  split <;> simp_all

theorem handleReadData_frame {c : BaseClient} (hc : c.remainingReadData = none) {message : Response}
    (hm : message.closingError = none) {d : Dispatcher} (hd : c.dispatch message = some d) :
    handleReadData pb (pb.response.frame message) c = .returned { c with toDispatcher := d } := by
  have hf : pb.response.decodeDelimited (pb.response.frame message) = .decoded message [] := by
    simpa using pb.response.decodeDelimited_frame message []
  rw [handleReadData_eq, hc, Option.getD_none, List.nil_append, readLoop_dispatch pb hf hm hd]
  simp [readLoop, ← hc]

theorem handleReadData_frame_typeError {c : BaseClient} (hc : c.remainingReadData = none)
    {message : Response} (hm : message.closingError = none) (hd : c.dispatch message = none) :
    handleReadData pb (pb.response.frame message) c = .typeError c := by
  have hf : pb.response.decodeDelimited (pb.response.frame message) = .decoded message [] := by
    simpa using pb.response.decodeDelimited_frame message []
  rw [handleReadData_eq, hc, Option.getD_none, List.nil_append, readLoop_typeError pb hf hm hd]

end BaseClient

open BaseClient

def sampleOptions : BaseClientConfiguration := ⟨[⟨"localhost",some 6379⟩],none,none,none,none,none,none⟩

def sampleConnected : BaseClient :=
  (BaseClient.connectToServer ProtobufMessage.sample createClientRequest sampleOptions BaseClient.create).2

theorem handleReadData_unanswerable_index (pb : ProtobufMessage) {s : Session} (hs : s.Reachable)
    (c : BaseClient) (hc : c.toDispatcher = s.dispatcher) (hr : c.remainingReadData = none)
    (message : Response) (hm : message.closingError = none) :
    (c.promiseCallbackFunctions.length ≤ message.callbackIdx →
      handleReadData pb (pb.response.frame message) c = .typeError c) ∧
    (message.callbackIdx ∈ c.availableCallbackSlots →
      ∃ c', handleReadData pb (pb.response.frame message) c = .returned c' ∧
        c'.isClosed = c.isClosed ∧ c'.promiseCallbackFunctions = c.promiseCallbackFunctions ∧
        c'.availableCallbackSlots = c.availableCallbackSlots ++ [message.callbackIdx] ∧
        ∀ p, c'.outcome p = c.outcome p) := by
  refine ⟨fun hlen => handleReadData_frame_typeError pb hr hm
    (c.toDispatcher.dispatch_eq_none (by simp [Dispatcher.entry, List.getElem?_eq_none hlen])),fun hmem => ?_⟩
  obtain ⟨p,hp,hset⟩ := hs.invariant.free_settled _ (hc ▸ hmem)
  rw [← hc] at hp hset
  obtain ⟨o,ho⟩ := Option.ne_none_iff_exists'.mp hset
  refine ⟨_,handleReadData_frame pb hr hm (c.toDispatcher.dispatch_eq_some hp),rfl,rfl,rfl,fun p' => ?_⟩
  by_cases h : p = p'
  · subst h
    exact (Dispatcher.outcome_call_of_settled _ _ (by simpa using ho)).trans ho.symm
  · exact Dispatcher.outcome_call_of_ne _ _ h

theorem handleReadData_unanswerable_index_freed_slot :
    let s : Session := ⟨⟨[some 0,some 1],[1],false,2,[(1,.resolved .ok)]⟩,[⟨0,0⟩]⟩
    let c : BaseClient := { sampleConnected with toDispatcher := s.dispatcher }
    let message : Response := ⟨1,none,none,none,none⟩
    s.Reachable ∧ c.toDispatcher = s.dispatcher ∧ c.remainingReadData = none ∧
    message.closingError = none ∧
    (c.promiseCallbackFunctions.length ≤ message.callbackIdx →
      handleReadData ProtobufMessage.sample (ProtobufMessage.sample.response.frame message) c = .typeError c) ∧
    (message.callbackIdx ∈ c.availableCallbackSlots →
      ∃ c', handleReadData ProtobufMessage.sample (ProtobufMessage.sample.response.frame message) c =
          .returned c' ∧
        c'.isClosed = c.isClosed ∧ c'.promiseCallbackFunctions = c.promiseCallbackFunctions ∧
        c'.availableCallbackSlots = c.availableCallbackSlots ++ [message.callbackIdx] ∧
        ∀ p, c'.outcome p = c.outcome p) :=
  have h : Session.Reachable ⟨⟨[some 0,some 1],[1],false,2,[(1,.resolved .ok)]⟩,[⟨0,0⟩]⟩ :=
    Session.reachable_run .init (by decide : Session.init.run [.createWritePromise,
      .handleResponse ⟨1,none,some .OK,none,none⟩] = some _)
  ⟨h,rfl,rfl,rfl,handleReadData_unanswerable_index _ h _ rfl rfl _ rfl⟩

theorem handleReadData_duplicate_reply_reuses_slot :
    let s : Session := ⟨⟨[some 0,some 1],[1],false,2,[(1,.resolved .ok)]⟩,[⟨0,0⟩]⟩
    let c : BaseClient := { sampleConnected with toDispatcher := s.dispatcher }
    s.Reachable ∧ 1 ∈ c.availableCallbackSlots ∧
    ∃ c', handleReadData ProtobufMessage.sample
        (ProtobufMessage.sample.response.frame ⟨1,none,none,none,none⟩) c = .returned c' ∧
      c'.isClosed = false ∧ c'.availableCallbackSlots = [1,1] ∧
      c'.newWritePromise.1 = 1 ∧ c'.newWritePromise.2.newWritePromise.1 = 1 :=
  ⟨Session.reachable_run .init (by decide : Session.init.run [.createWritePromise,
      .handleResponse ⟨1,none,some .OK,none,none⟩] = some _),
    by decide,_,handleReadData_frame _ rfl rfl rfl,rfl,rfl,rfl,rfl⟩

end GlideClient
