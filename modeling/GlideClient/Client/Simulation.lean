import GlideClient.Client.Lifecycle

namespace GlideClient

open Wire response redis_request connection_request

namespace Session

theorem dispatch_of_step_handleResponse {s s' : Session} {message : Response}
    (hm : message.closingError = none) (h : s.step (.handleResponse message) = some s') :
    s.dispatcher.dispatch message = some s'.dispatcher := by
  simp only [step, hm] at h
  split at h
  · cases h
  · obtain ⟨d,hd,rfl⟩ := Option.map_eq_some'.mp h
    exact hd

theorem dispatchAll_of_run {s s' : Session} {rs : List Response} (hrs : ∀ r ∈ rs, r.closingError = none)
    (h : s.run (rs.map .handleResponse) = some s') : s.dispatcher.dispatchAll rs = some s'.dispatcher := by
  induction rs generalizing s with
  | nil => cases h; rfl
  | cons r rs ih =>
    obtain ⟨s1,h1,h2⟩ := Option.bind_eq_some.mp h
    simp only [Dispatcher.dispatchAll, dispatch_of_step_handleResponse (hrs r (.head _)) h1,
      Option.some_bind]
    exact ih (fun r hr => hrs r (.tail _ hr)) h2

end Session

namespace BaseClient

variable (pb : ProtobufMessage)

theorem createWritePromise_dispatcher (command : RequestBody) (route : Option Routes) (c : BaseClient) :
    (createWritePromise pb command route c).2.toDispatcher =
      if c.isClosed then c.toDispatcher else c.newWritePromise.2 := by
  unfold createWritePromise
  split <;> rfl

theorem createWritePromise_remainingReadData (command : RequestBody) (route : Option Routes) (c : BaseClient) :
    (createWritePromise pb command route c).2.remainingReadData = c.remainingReadData := by
  unfold createWritePromise
  split <;> rfl

end BaseClient

open BaseClient

inductive Traced (pb : ProtobufMessage) (createClientRequest : BaseClientConfiguration → ConnectionRequest)
    (options : BaseClientConfiguration) : List RedisRequest → BaseClient → Session → Prop
  | connectToServer :
    Traced pb createClientRequest options [] (connectToServer pb createClientRequest options create).2 Session.init
  | createWritePromise {log : List RedisRequest} {c : BaseClient} {s s' : Session} (command : RequestBody)
    (route : Option Routes) :
    Traced pb createClientRequest options log c s → s.step .createWritePromise = some s' →
    Traced pb createClientRequest options
      (if c.isClosed then log else log ++ [⟨c.newWritePromise.1,command,route⟩]) (createWritePromise pb command route c).2 s'
  | writeCompleted {log : List RedisRequest} {c c' : BaseClient} {s : Session} :
    Traced pb createClientRequest options log c s → c.writeCompleted = some c' →
    Traced pb createClientRequest options log c' s
  | close {log : List RedisRequest} {c : BaseClient} {s s' : Session} (errorMessage : Option String) :
    Traced pb createClientRequest options log c s → s.step (.close errorMessage) = some s' →
    Traced pb createClientRequest options log (c.close errorMessage) s'
  | frames {log : List RedisRequest} {c : BaseClient} {s s' : Session} (chunk : Bytes) (rs : List Response) {p : Bytes} :
    Traced pb createClientRequest options log c s →
    c.remainingReadData.getD [] ++ chunk = (rs.map pb.response.frame).flatten ++ p →
    pb.response.Partial p → (∀ r ∈ rs, r.closingError = none) →
    s.run (rs.map .handleResponse) = some s' → Traced pb createClientRequest options log (handleReadData pb chunk c).client s'
  | closingFrame {log : List RedisRequest} {c : BaseClient} {s s1 s' : Session} (chunk : Bytes) (rs : List Response)
    (message : Response) (rest : Bytes) {e : String} :
    Traced pb createClientRequest options log c s → c.remainingReadData.getD [] ++ chunk =
      (rs.map pb.response.frame).flatten ++ pb.response.frame message ++ rest →
    (∀ r ∈ rs, r.closingError = none) → message.closingError = some e →
    s.run (rs.map .handleResponse) = some s1 → s1.step (.handleResponse message) = some s' →
    Traced pb createClientRequest options log (handleReadData pb chunk c).client s'

def Tracks (pb : ProtobufMessage) (c : BaseClient) (s : Session) : Prop :=
  ∃ createClientRequest options log, Traced pb createClientRequest options log c s

structure Tracked (pb : ProtobufMessage) (c : BaseClient) (s : Session) : Prop where
  reachable : s.Reachable
  dispatcher : c.toDispatcher = s.dispatcher
  buffered : ∃ q, pb.response.Partial q ∧ c.remainingReadData = remainder q

namespace Tracked

variable {pb : ProtobufMessage} {c : BaseClient} {s : Session} (ht : Tracked pb c s)
include ht

theorem handleReadData_run {chunk : Bytes} {rs : List Response} {tail : Bytes} {s' : Session}
    (hchunk : c.remainingReadData.getD [] ++ chunk = (rs.map pb.response.frame).flatten ++ tail)
    (hrs : ∀ r ∈ rs, r.closingError = none) (hrun : s.run (rs.map .handleResponse) = some s') :
    handleReadData pb chunk c = readLoop pb { c with toDispatcher := s'.dispatcher } tail := by
  rw [handleReadData_eq, hchunk,
    readLoop_frames_append pb rs c tail hrs (ht.dispatcher ▸ Session.dispatchAll_of_run hrs hrun)]

theorem frames {chunk : Bytes} {rs : List Response} {p : Bytes} {s' : Session}
    (hchunk : c.remainingReadData.getD [] ++ chunk = (rs.map pb.response.frame).flatten ++ p)
    (hp : pb.response.Partial p) (hrs : ∀ r ∈ rs, r.closingError = none)
    (hrun : s.run (rs.map .handleResponse) = some s') :
    handleReadData pb chunk c = .returned { c with toDispatcher := s'.dispatcher, remainingReadData := remainder p } ∧
      Tracked pb (handleReadData pb chunk c).client s' := by
  rw [ht.handleReadData_run hchunk hrs hrun, readLoop_partial pb _ hp]
  exact ⟨rfl,Session.reachable_run ht.reachable hrun,rfl,p,hp,rfl⟩

theorem closingFrame {chunk : Bytes} {rs : List Response} {message : Response} {rest : Bytes} {e : String}
    {s1 s' : Session}
    (hchunk : c.remainingReadData.getD [] ++ chunk =
      (rs.map pb.response.frame).flatten ++ pb.response.frame message ++ rest)
    (hrs : ∀ r ∈ rs, r.closingError = none) (he : message.closingError = some e)
    (hrun : s.run (rs.map .handleResponse) = some s1) (hs' : s1.step (.handleResponse message) = some s') :
    handleReadData pb chunk c = .returned ({ c with toDispatcher := s1.dispatcher }.close (some e)) ∧
      Tracked pb (handleReadData pb chunk c).client s' := by
  rw [List.append_assoc] at hchunk
  have hs2 := (Session.reachable_run ht.reachable hrun).step _ hs'
  simp only [Session.step, he, Option.some.injEq] at hs'
  subst hs'
  rw [ht.handleReadData_run hchunk hrs hrun, readLoop_closingError pb (pb.response.decodeDelimited_frame message rest) he]
  exact ⟨rfl,hs2,rfl,ht.buffered⟩

theorem createWritePromise {s' : Session} (command : RequestBody) (route : Option Routes)
    (hs' : s.step .createWritePromise = some s') :
    Tracked pb (BaseClient.createWritePromise pb command route c).2 s' := by
  refine ⟨ht.reachable.step _ hs',?_,by rw [createWritePromise_remainingReadData]; exact ht.buffered⟩
  rw [createWritePromise_dispatcher, ht.dispatcher]
  simp only [Session.step] at hs'
  split at hs' <;> cases hs' <;> simp_all

theorem writeCompleted {c' : BaseClient} (hc' : c.writeCompleted = some c') : Tracked pb c' s := by
  obtain ⟨w,-,rfl⟩ := Option.map_eq_some'.mp hc'
  exact ⟨ht.reachable,ht.dispatcher,ht.buffered⟩

theorem close {s' : Session} (errorMessage : Option String) (hs' : s.step (.close errorMessage) = some s') :
    Tracked pb (c.close errorMessage) s' := by
  refine ⟨ht.reachable.step _ hs',?_,ht.buffered⟩
  cases hs'
  exact congrArg (Dispatcher.close errorMessage) ht.dispatcher

end Tracked

theorem Traced.tracked {pb : ProtobufMessage} {createClientRequest : BaseClientConfiguration → ConnectionRequest}
    {options : BaseClientConfiguration} {log : List RedisRequest} {c : BaseClient} {s : Session}
    (h : Traced pb createClientRequest options log c s) : Tracked pb c s := by
  induction h with
  | connectToServer => exact ⟨.init,rfl,[],.inl rfl,rfl⟩
  | createWritePromise command route _ hs ih => exact ih.createWritePromise command route hs
  | writeCompleted _ hc ih => exact ih.writeCompleted hc
  | close m _ hs ih => exact ih.close m hs
  | frames chunk rs _ hchunk hp hrs hrun ih => exact (ih.frames hchunk hp hrs hrun).2
  | closingFrame chunk rs message rest _ hchunk hrs he hrun hs' ih =>
    exact (ih.closingFrame hchunk hrs he hrun hs').2

theorem Tracks.tracked {pb : ProtobufMessage} {c : BaseClient} {s : Session} (h : Tracks pb c s) :
    Tracked pb c s :=
  let ⟨_,_,_,h⟩ := h
  h.tracked

def sampleReply (callbackIdx : Nat) : Response := ⟨callbackIdx,none,some .OK,none,none⟩

def sampleRequested : BaseClient :=
  (createWritePromise ProtobufMessage.sample (.singleCommand ⟨2,["b"]⟩) none
    (createWritePromise ProtobufMessage.sample (.singleCommand ⟨1,["a"]⟩) none sampleConnected).2).2

def sampleRequestedSession : Session := ⟨⟨[some 0,some 1,some 2],[],false,3,[]⟩,[⟨0,0⟩,⟨1,1⟩,⟨2,2⟩]⟩

def sampleLog : List RedisRequest := [⟨1,.singleCommand ⟨1,["a"]⟩,none⟩,⟨2,.singleCommand ⟨2,["b"]⟩,none⟩]

def sampleCut : Nat := (ProtobufMessage.sample.response.frame (sampleReply 0)).length - 1

def sampleSplitChunk : Bytes :=
  ProtobufMessage.sample.response.frame (sampleReply 2) ++
    (ProtobufMessage.sample.response.frame (sampleReply 0)).take sampleCut

def sampleRestChunk : Bytes :=
  (ProtobufMessage.sample.response.frame (sampleReply 0)).drop sampleCut ++
    ProtobufMessage.sample.response.frame (sampleReply 1)

def sampleOutOfOrder : BaseClient := (handleReadData ProtobufMessage.sample sampleSplitChunk sampleRequested).client

def sampleOutOfOrderSession : Session :=
  ⟨⟨[some 0,some 1,some 2],[2],false,3,[(2,.resolved .ok)]⟩,[⟨0,0⟩,⟨1,1⟩]⟩

theorem traced_sampleRequested :
    Traced ProtobufMessage.sample createClientRequest sampleOptions sampleLog sampleRequested
      sampleRequestedSession :=
  .createWritePromise _ _ (.createWritePromise _ _ .connectToServer rfl) rfl

theorem sampleCut_partial :
    ProtobufMessage.sample.response.Partial ((ProtobufMessage.sample.response.frame (sampleReply 0)).take sampleCut) :=
  ProtobufMessage.sample.response.partial_take _ (by
    have := List.length_pos_of_ne_nil (ProtobufMessage.sample.response.frame_ne_nil (sampleReply 0))
    unfold sampleCut
    omega)

theorem sampleSplitChunk_frames :
    sampleRequested.remainingReadData.getD [] ++ sampleSplitChunk =
      ([sampleReply 2].map ProtobufMessage.sample.response.frame).flatten ++
        (ProtobufMessage.sample.response.frame (sampleReply 0)).take sampleCut := by
  have h : sampleRequested.remainingReadData = none := rfl
  simp [h, sampleSplitChunk]

theorem traced_sampleOutOfOrder :
    Traced ProtobufMessage.sample createClientRequest sampleOptions sampleLog sampleOutOfOrder
      sampleOutOfOrderSession :=
  .frames _ _ traced_sampleRequested sampleSplitChunk_frames sampleCut_partial (by decide) (by decide)

theorem sampleOutOfOrder_buffered :
    sampleOutOfOrder.remainingReadData.getD [] ++ sampleRestChunk =
      ([sampleReply 0,sampleReply 1].map ProtobufMessage.sample.response.frame).flatten ++ [] := by
  rw [sampleOutOfOrder, (traced_sampleRequested.tracked.frames sampleSplitChunk_frames sampleCut_partial
    (by decide) (by decide : sampleRequestedSession.run _ = some sampleOutOfOrderSession)).1]
  simp only [ReadResult.client, remainder_getD, sampleRestChunk, ← List.append_assoc, List.take_append_drop]
  simp

theorem Tracks.slot_invariant {pb : ProtobufMessage} {c : BaseClient} {s : Session} (h : Tracks pb c s) :
    Invariant c.toDispatcher s.pending :=
  h.tracked.dispatcher ▸ h.tracked.reachable.invariant

theorem Tracks.slot_invariant_out_of_order :
    Tracks ProtobufMessage.sample sampleOutOfOrder sampleOutOfOrderSession ∧
      Invariant sampleOutOfOrder.toDispatcher sampleOutOfOrderSession.pending :=
  have h : Tracks ProtobufMessage.sample sampleOutOfOrder sampleOutOfOrderSession := ⟨_,_,_,traced_sampleOutOfOrder⟩
  ⟨h,h.slot_invariant⟩

end GlideClient
