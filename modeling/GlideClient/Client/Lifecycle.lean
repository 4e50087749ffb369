import GlideClient.Client.ReadPath

namespace GlideClient

open Wire response redis_request

inductive ClientEvent where
  | createWritePromise (command : RequestBody) (route : Option Routes)
  | data (chunk : Bytes)
  | writeCompleted
  | close (errorMessage : Option String)

def submittedRequests : List ClientEvent → List (RequestBody × Option Routes)
  | [] => []
  | .createWritePromise command route :: es => (command,route) :: submittedRequests es
  | _ :: es => submittedRequests es

theorem submittedRequests_cons (e : ClientEvent) (es : List ClientEvent) :
    submittedRequests (e :: es) = submittedRequests [e] ++ submittedRequests es := by
  cases e <;> rfl

def ReadResult.client : ReadResult → BaseClient
  | .returned c => c
  | .typeError c => c

namespace BaseClient

variable (pb : ProtobufMessage)

def step (c : BaseClient) : ClientEvent → Option BaseClient
  | .createWritePromise command route => some (createWritePromise pb command route c).2
  | .data chunk => some (handleReadData pb chunk c).client
  | .writeCompleted => c.writeCompleted
  | .close errorMessage => some (c.close errorMessage)

def run (c : BaseClient) : List ClientEvent → Option BaseClient
  | [] => some c
  | e :: es => (step pb c e).bind fun c' => run c' es

theorem createWritePromise_closed {c : BaseClient} (h : c.isClosed = true) (command : RequestBody)
    (route : Option Routes) : createWritePromise pb command route c = (.error closedClientError,c) := by
  simp [createWritePromise, h]

theorem readLoop_isClosed {c : BaseClient} {buf : Bytes} (h : c.isClosed = true) :
    (readLoop pb c buf).client.isClosed = true := by
  induction c, buf using readLoop.induct pb with
  | case1 c => rw [readLoop]; exact h
  | case2 c b bs hd => rw [readLoop_rangeError pb (List.cons_ne_nil b bs) hd]; exact h
  | case3 c b bs err hd => rw [readLoop_failed pb (List.cons_ne_nil b bs) hd]; rfl
  | case4 c b bs message rest hd e he => rw [readLoop_closingError pb hd he]; rfl
  | case5 c b bs message rest hd hm hn => rw [readLoop_typeError pb hd hm hn]; exact h
  | case6 c b bs message rest hd hm d hdd _ ih =>
    rw [readLoop_dispatch pb hd hm hdd]
    exact ih ((Dispatcher.isClosed_dispatch hdd).trans h)

theorem step_isClosed {c c' : BaseClient} {e : ClientEvent} (h : c.isClosed = true)
    (hs : step pb c e = some c') : c'.isClosed = true := by
  cases e with
  | createWritePromise command route =>
    simp only [step, createWritePromise_closed pb h, Option.some.injEq] at hs
    exact hs ▸ h
  | data chunk =>
    cases hs
    exact readLoop_isClosed pb h
  | writeCompleted =>
    obtain ⟨w,-,rfl⟩ := Option.map_eq_some'.mp hs
    exact h
  | close m =>
    cases hs
    rfl

theorem run_isClosed {c c' : BaseClient} {es : List ClientEvent} (h : c.isClosed = true)
    (hr : run pb c es = some c') : c'.isClosed = true := by
  induction es generalizing c with
  | nil => exact Option.some.inj hr ▸ h
  | cons e es ih =>
    obtain ⟨c1,h1,h2⟩ := Option.bind_eq_some.mp hr
    exact ih (step_isClosed pb h h1) h2

theorem readLoop_frame (c : BaseClient) (buf : Bytes) :
    (readLoop pb c buf).client.toWriter = c.toWriter ∧ (readLoop pb c buf).client.created = c.created ∧
      (c.TableSettled → (readLoop pb c buf).client.promiseCallbackFunctions = c.promiseCallbackFunctions ∧
        ∀ p, (readLoop pb c buf).client.outcome p = c.outcome p) := by
  induction c, buf using readLoop.induct pb with
  | case1 c => rw [readLoop]; exact ⟨rfl,rfl,fun _ => ⟨rfl,fun _ => rfl⟩⟩
  | case2 c b bs hd =>
    rw [readLoop_rangeError pb (List.cons_ne_nil b bs) hd]
    exact ⟨rfl,rfl,fun _ => ⟨rfl,fun _ => rfl⟩⟩
  | case3 c b bs err hd =>
    rw [readLoop_failed pb (List.cons_ne_nil b bs) hd]
    exact ⟨rfl,rfl,fun h => ⟨rfl,c.outcome_close_of_tableSettled h _⟩⟩
  | case4 c b bs message rest hd e he =>
    rw [readLoop_closingError pb hd he]
    exact ⟨rfl,rfl,fun h => ⟨rfl,c.outcome_close_of_tableSettled h _⟩⟩
  | case5 c b bs message rest hd hm hn =>
    rw [readLoop_typeError pb hd hm hn]
    exact ⟨rfl,rfl,fun _ => ⟨rfl,fun _ => rfl⟩⟩
  | case6 c b bs message rest hd hm d hdd _ ih =>
    rw [readLoop_dispatch pb hd hm hdd]
    refine ⟨ih.1,ih.2.1.trans (Dispatcher.created_dispatch hdd),fun h => ?_⟩
    obtain ⟨ht,ho⟩ := c.dispatch_of_tableSettled h hdd
    obtain ⟨ht',ho'⟩ := ih.2.2 (h.of_frozen ht ho)
    exact ⟨ht'.trans ht,fun p => (ho' p).trans (ho p)⟩

theorem handleReadData_writer (chunk : Bytes) (c : BaseClient) :
    (handleReadData pb chunk c).client.toWriter = c.toWriter ∧
      (handleReadData pb chunk c).client.created = c.created :=
  ⟨(readLoop_frame pb c _).1,(readLoop_frame pb c _).2.1⟩

theorem step_sends {c c' : BaseClient} {sent : List Bytes} (hw : Writer.Invariant c.toWriter sent)
    {e : ClientEvent} (h : step pb c e = some c') :
    ∃ new : List RedisRequest, Writer.Invariant c'.toWriter (sent ++ new.map pb.encodeRedisRequest) ∧
      c'.created = c.created + new.length ∧
      new.map (fun r => (r.body,r.route)) = if c.isClosed then [] else submittedRequests [e] := by
  cases e with
  | createWritePromise command route =>
    cases h
    cases hc : c.isClosed with
    | true => exact ⟨[],by simpa [createWritePromise_closed pb hc] using hw,by simp [createWritePromise_closed pb hc],rfl⟩
    | false =>
      refine ⟨[⟨c.newWritePromise.1,command,route⟩],?_,by simp [createWritePromise, hc, writeOrBufferRedisRequest],
        by simp [submittedRequests]⟩
      simpa [createWritePromise, hc, writeOrBufferRedisRequest] using hw.writeOrBufferRequest _
  | data chunk =>
    cases h
    have hd := handleReadData_writer pb chunk c
    exact ⟨[],by simpa [hd.1] using hw,by simp [hd.2],by simp [submittedRequests]⟩
  | writeCompleted =>
    obtain ⟨w,hw',rfl⟩ := Option.map_eq_some'.mp h
    exact ⟨[],by simpa using hw.writeCompleted hw',rfl,by simp [submittedRequests]⟩
  | close m =>
    cases h
    exact ⟨[],by simpa using hw,rfl,by simp [submittedRequests]⟩

theorem run_sends_accepted_requests {c c' : BaseClient} {sent : List Bytes} (hw : Writer.Invariant c.toWriter sent)
    {es : List ClientEvent} (h : run pb c es = some c') :
    ∃ reqs : List RedisRequest, Writer.Invariant c'.toWriter (sent ++ reqs.map pb.encodeRedisRequest) ∧
      c'.created = c.created + reqs.length ∧
      (reqs.map fun r => (r.body,r.route)).Sublist (submittedRequests es) ∧
      (c'.isClosed = false → reqs.map (fun r => (r.body,r.route)) = submittedRequests es) ∧
      (c.isClosed = true → reqs = []) := by
  induction es generalizing c sent with
  | nil => cases h; exact ⟨[],by simpa using hw,rfl,.slnil,fun _ => rfl,fun _ => rfl⟩
  | cons e es ih =>
    obtain ⟨c1,h1,h2⟩ := Option.bind_eq_some.mp h
    obtain ⟨new,hw1,hc1,hnew⟩ := step_sends pb hw h1
    obtain ⟨reqs,hw',hc',hsub,hopen,hclosed⟩ := ih hw1 h2
    refine ⟨new ++ reqs,by simpa using hw',by rw [hc',hc1,List.length_append]; omega,?_,fun ho => ?_,fun hc => ?_⟩
    · rw [List.map_append, hnew, submittedRequests_cons e es]
      split
      · exact hsub.trans (List.sublist_append_right _ _)
      · exact hsub.append_left _
    · have hc : c.isClosed = false := by
        cases hc : c.isClosed with
        | false => rfl
        | true => exact absurd (run_isClosed pb hc h) (by simp [ho])
      rw [List.map_append, hnew, hc, if_neg Bool.false_ne_true, hopen ho, submittedRequests_cons e es]
    · rw [hclosed (step_isClosed pb hc h1), List.append_nil]
      simpa [hc] using hnew

theorem run_sends_accepted_requests_refused_after_close :
    let pb := ProtobufMessage.sample
    let sent := [pb.encodeConnectionRequest
      (createClientRequest ⟨[⟨"localhost",some 6379⟩],none,none,none,none,none,none⟩)]
    let es : List ClientEvent := [.createWritePromise (.singleCommand ⟨1,["key"]⟩) none,
      .close (some "x"),.createWritePromise (.singleCommand ⟨2,[]⟩) none]
    let c' : BaseClient := ⟨⟨[some 0,some 1],[],true,2,
      [(0,.rejected ⟨.ClosingError,some "x"⟩),(1,.rejected ⟨.ClosingError,some "x"⟩)]⟩,⟨delimit [],true,[delimit []],1⟩,none,true⟩
    Writer.Invariant sampleConnected.toWriter sent ∧ run pb sampleConnected es = some c' ∧
    ∃ reqs : List RedisRequest, Writer.Invariant c'.toWriter (sent ++ reqs.map pb.encodeRedisRequest) ∧
      c'.created = sampleConnected.created + reqs.length ∧
      (reqs.map fun r => (r.body,r.route)).Sublist (submittedRequests es) ∧
      (c'.isClosed = false → reqs.map (fun r => (r.body,r.route)) = submittedRequests es) ∧
      (sampleConnected.isClosed = true → reqs = []) :=
  have hw : Writer.Invariant sampleConnected.toWriter [ProtobufMessage.sample.encodeConnectionRequest
      (createClientRequest ⟨[⟨"localhost",some 6379⟩],none,none,none,none,none,none⟩)] :=
    Writer.invariant_empty.writeOrBufferRequest _
  have h : run ProtobufMessage.sample sampleConnected [.createWritePromise (.singleCommand ⟨1,["key"]⟩) none,
      .close (some "x"),.createWritePromise (.singleCommand ⟨2,[]⟩) none] =
      some ⟨⟨[some 0,some 1],[],true,2,[(0,.rejected ⟨.ClosingError,some "x"⟩),(1,.rejected ⟨.ClosingError,some "x"⟩)]⟩,
        ⟨delimit [],true,[delimit []],1⟩,none,true⟩ :=
    rfl
  ⟨hw,h,run_sends_accepted_requests _ hw h⟩

theorem step_frozen {c c' : BaseClient} (hc : c.isClosed = true) (h : c.TableSettled) {e : ClientEvent}
    (hs : step pb c e = some c') :
    c'.promiseCallbackFunctions = c.promiseCallbackFunctions ∧ ∀ p, c'.outcome p = c.outcome p := by
  cases e with
  | createWritePromise command route =>
    simp only [step, createWritePromise_closed pb hc, Option.some.injEq] at hs
    subst hs
    exact ⟨rfl,fun _ => rfl⟩
  | data chunk => cases hs; exact (readLoop_frame pb c _).2.2 h
  | writeCompleted => obtain ⟨w,-,rfl⟩ := Option.map_eq_some'.mp hs; exact ⟨rfl,fun _ => rfl⟩
  | close m => cases hs; exact ⟨rfl,c.outcome_close_of_tableSettled h m⟩

theorem run_frozen {c c' : BaseClient} (hc : c.isClosed = true) (h : c.TableSettled) {es : List ClientEvent}
    (hr : run pb c es = some c') :
    c'.promiseCallbackFunctions = c.promiseCallbackFunctions ∧ ∀ p, c'.outcome p = c.outcome p := by
  induction es generalizing c with
  | nil => cases hr; exact ⟨rfl,fun _ => rfl⟩
  | cons e es ih =>
    obtain ⟨c1,h1,h2⟩ := Option.bind_eq_some.mp hr
    obtain ⟨ht,ho⟩ := step_frozen pb hc h h1
    obtain ⟨ht',ho'⟩ := ih (step_isClosed pb hc h1) (h.of_frozen ht ho) h2
    exact ⟨ht'.trans ht,fun p => (ho' p).trans (ho p)⟩

theorem close_is_final (c : BaseClient) (m : Option String) {es : List ClientEvent} {c' : BaseClient}
    (h : run pb (c.close m) es = some c') :
    c'.promiseCallbackFunctions = c.promiseCallbackFunctions ∧ ∀ p, c'.outcome p = (c.close m).outcome p :=
  run_frozen pb rfl (c.toDispatcher.tableSettled_close m) h

theorem close_is_final_late_events :
    let es : List ClientEvent := [.writeCompleted,.close none,.createWritePromise (.singleCommand ⟨1,["key"]⟩) none]
    let c' : BaseClient := ⟨⟨[some 0],[],true,1,[(0,.rejected ⟨.ClosingError,some "x"⟩),
      (0,.rejected ⟨.ClosingError,none⟩)]⟩,⟨[],false,[delimit []],0⟩,none,true⟩
    run ProtobufMessage.sample (sampleConnected.close (some "x")) es = some c' ∧
    c'.promiseCallbackFunctions = sampleConnected.promiseCallbackFunctions ∧
      ∀ p, c'.outcome p = (sampleConnected.close (some "x")).outcome p :=
  have h : run ProtobufMessage.sample (sampleConnected.close (some "x"))
      [.writeCompleted,.close none,.createWritePromise (.singleCommand ⟨1,["key"]⟩) none] =
      some ⟨⟨[some 0],[],true,1,[(0,.rejected ⟨.ClosingError,some "x"⟩),(0,.rejected ⟨.ClosingError,none⟩)]⟩,
        ⟨[],false,[delimit []],0⟩,none,true⟩ :=
    rfl
  ⟨h,close_is_final _ _ _ h⟩

end BaseClient

open BaseClient

theorem close_fails_pending_and_refuses_requests (pb : ProtobufMessage) {s : Session} (hs : s.Reachable)
    (c : BaseClient) (hc : c.toDispatcher = s.dispatcher) (errorMessage : Option String) :
    (∀ p < c.created, c.outcome p = none →
      (c.close errorMessage).outcome p = some (.rejected ⟨.ClosingError,errorMessage⟩)) ∧
    (∀ p o, c.outcome p = some o → (c.close errorMessage).outcome p = some o) ∧
    ∀ es c', (c.close errorMessage).run pb es = some c' → ∀ command route,
      createWritePromise pb command route c' = (.error closedClientError,c') := by
  have hi : Invariant c.toDispatcher s.pending := hc ▸ hs.invariant
  exact ⟨fun p hp ho => hi.close_rejects_unsettled _ hp ho,fun p o ho => c.toDispatcher.outcome_close_of_settled _ ho,
    fun es c' h => createWritePromise_closed pb (run_isClosed pb rfl h)⟩

theorem close_fails_pending_and_refuses_requests_connecting :
    let c := sampleConnected
    let m : Option String := some "Server closed"
    Session.init.Reachable ∧ c.toDispatcher = Session.init.dispatcher ∧
    (∀ p < c.created, c.outcome p = none →
      (c.close m).outcome p = some (.rejected ⟨.ClosingError,m⟩)) ∧
    (∀ p o, c.outcome p = some o → (c.close m).outcome p = some o) ∧
    ∀ es c', (c.close m).run ProtobufMessage.sample es = some c' → ∀ command route,
      createWritePromise ProtobufMessage.sample command route c' = (.error closedClientError,c') :=
  ⟨.init,rfl,close_fails_pending_and_refuses_requests _ .init _ rfl _⟩

end GlideClient
