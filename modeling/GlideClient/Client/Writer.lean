import GlideClient.Wire.Frame

namespace GlideClient

open Wire

/-- Modelled from the spec: the generated `encodeDelimited` of the ProtobufMessage module is not
among the sources; the spec appends each request to the write buffer as its own length-delimited
frame. -/
def encodeDelimited (message : Bytes) (writer : Bytes) : Bytes := writer ++ delimit message

structure Writer where
  requestWriter : Bytes
  writeInProgress : Bool
  written : List Bytes
  outstanding : Nat
  deriving DecidableEq, Repr

inductive WriterEvent where
  | writeOrBufferRequest (message : Bytes)
  | writeCompleted
  deriving DecidableEq, Repr

namespace Writer

def empty : Writer := ⟨[],false,[],0⟩

def writeBufferedRequestsToSocket (w : Writer) : Writer :=
  { w with writeInProgress := true, requestWriter := [], written := w.written ++ [w.requestWriter],
           outstanding := w.outstanding + 1 }

def writeOrBufferRequest (message : Bytes) (w : Writer) : Writer :=
  let w := { w with requestWriter := encodeDelimited message w.requestWriter }
  if w.writeInProgress then w else w.writeBufferedRequestsToSocket

def writeCompleted (w : Writer) : Option Writer :=
  if w.outstanding = 0 then none
  else
    let w := { w with outstanding := w.outstanding - 1 }
    some (if w.requestWriter.length > 0 then w.writeBufferedRequestsToSocket
      else { w with writeInProgress := false })

def step (w : Writer) : WriterEvent → Option Writer
  | .writeOrBufferRequest message => some (w.writeOrBufferRequest message)
  | .writeCompleted => w.writeCompleted

def run (w : Writer) : List WriterEvent → Option Writer
  | [] => some w
  | e :: es => (w.step e).bind (run · es)

end Writer

def submitted : List WriterEvent → List Bytes
  | [] => []
  | .writeOrBufferRequest message :: es => message :: submitted es
  | .writeCompleted :: es => submitted es

theorem submitted_replicate (k : Nat) :
    submitted (List.replicate k WriterEvent.writeCompleted) = [] := by
  induction k with
  | zero => rfl
  | succ k ih => simp [List.replicate_succ, submitted, ih]

namespace Writer

structure Invariant (w : Writer) (sent : List Bytes) : Prop where
  outstanding_eq : w.outstanding = if w.writeInProgress then 1 else 0
  idle_empty : w.writeInProgress = false → w.requestWriter = []
  stream : w.written.flatten ++ w.requestWriter = (sent.map delimit).flatten

theorem invariant_empty : Invariant empty [] := ⟨rfl,fun _ => rfl,rfl⟩

theorem Invariant.writeOrBufferRequest {w : Writer} {sent : List Bytes} (hw : Invariant w sent)
    (message : Bytes) : Invariant (w.writeOrBufferRequest message) (sent ++ [message]) := by
  have hs : w.written.flatten ++ (w.requestWriter ++ delimit message) =
      ((sent ++ [message]).map delimit).flatten := by
    rw [← List.append_assoc, hw.stream]
    simp
  have ho := hw.outstanding_eq
  cases hp : w.writeInProgress with
  | true =>
    simp only [hp, if_true] at ho
    exact ⟨by simp [Writer.writeOrBufferRequest, hp, ho],by simp [Writer.writeOrBufferRequest, hp],
      by simpa [Writer.writeOrBufferRequest, encodeDelimited, hp] using hs⟩
  | false =>
    simp only [hp] at ho
    refine ⟨by simp [Writer.writeOrBufferRequest, writeBufferedRequestsToSocket, hp, ho],
      by simp [Writer.writeOrBufferRequest, writeBufferedRequestsToSocket, hp],?_⟩
    simpa [Writer.writeOrBufferRequest, writeBufferedRequestsToSocket, encodeDelimited, hp,
      hw.idle_empty hp] using hs

theorem Invariant.writeCompleted {w w' : Writer} {sent : List Bytes} (hw : Invariant w sent)
    (h : w.writeCompleted = some w') : Invariant w' sent := by
  unfold Writer.writeCompleted at h
  split at h
  · cases h
  · next h0 =>
    have hp : w.writeInProgress = true := by
      cases hp : w.writeInProgress <;> simp_all [hw.outstanding_eq]
    have h1 : w.outstanding = 1 := by simpa [hp] using hw.outstanding_eq
    simp only [Option.some.injEq] at h
    subst h
    split
    · refine ⟨by simp [writeBufferedRequestsToSocket, h1],by simp [writeBufferedRequestsToSocket],?_⟩
      simpa [writeBufferedRequestsToSocket] using hw.stream
    · next hl =>
      have hn : w.requestWriter = [] := by simpa using hl
      exact ⟨by simp [h1],fun _ => hn,by simpa using hw.stream⟩

theorem Invariant.run {w w' : Writer} {sent : List Bytes} (hw : Invariant w sent) {es : List WriterEvent}
    (h : w.run es = some w') : Invariant w' (sent ++ submitted es) := by
  induction es generalizing w sent with
  | nil => simp only [Writer.run, Option.some.injEq] at h; simpa [submitted, ← h] using hw
  | cons e es ih =>
    simp only [Writer.run] at h
    obtain ⟨w1,h1,h2⟩ := Option.bind_eq_some.mp h
    cases e with
    | writeOrBufferRequest message =>
      simp only [step, Option.some.injEq] at h1
      subst h1
      simpa [submitted] using ih (hw.writeOrBufferRequest message) h2
    | writeCompleted => simpa [submitted] using ih (hw.writeCompleted h1) h2

theorem run_append (w : Writer) (es es' : List WriterEvent) :
    w.run (es ++ es') = (w.run es).bind (·.run es') := by
  induction es generalizing w with
  | nil => rfl
  | cons e es ih =>
    simp only [List.cons_append, Writer.run]
    cases w.step e <;> simp [ih]

theorem Invariant.drain {w : Writer} {sent : List Bytes} (hw : Invariant w sent) :
    ∃ k ≤ 2, ∃ w', w.run (List.replicate k .writeCompleted) = some w' ∧ w'.outstanding = 0 := by
  cases hp : w.writeInProgress with
  | false => exact ⟨0,by omega,w,rfl,by simpa [hp] using hw.outstanding_eq⟩
  | true =>
    have h1 : w.outstanding = 1 := by simpa [hp] using hw.outstanding_eq
    by_cases hl : w.requestWriter.length > 0
    · refine ⟨2,le_rfl,?_⟩
      simp [Writer.run, step, Writer.writeCompleted, writeBufferedRequestsToSocket, h1, hl]
    · refine ⟨1,by omega,?_⟩
      simp [Writer.run, step, Writer.writeCompleted, h1, hl]

end Writer

theorem write_path_never_loses_requests {es : List WriterEvent} {w : Writer}
    (h : Writer.empty.run es = some w) :
    w.outstanding ≤ 1 ∧
    (w.writeInProgress = false → w.requestWriter = [] ∧ w.outstanding = 0) ∧
    w.written.flatten ++ w.requestWriter = ((submitted es).map delimit).flatten ∧
    ∃ k ≤ 2, ∃ w', Writer.empty.run (es ++ List.replicate k .writeCompleted) = some w' ∧
      w'.outstanding = 0 ∧ w'.written.flatten = ((submitted es).map delimit).flatten := by
  have hw := Writer.invariant_empty.run h
  refine ⟨?_,fun hp => ⟨hw.idle_empty hp,by simpa [hp] using hw.outstanding_eq⟩,hw.stream,?_⟩
  · rw [hw.outstanding_eq]
    split <;> omega
  · obtain ⟨k,hk,w',hr,ho⟩ := hw.drain
    have hw' := hw.run hr
    have hidle : w'.writeInProgress = false := by
      cases hp : w'.writeInProgress <;> simp_all [hw'.outstanding_eq]
    refine ⟨k,hk,w',by rw [Writer.run_append, h]; exact hr,ho,?_⟩
    simpa [hw'.idle_empty hidle, submitted_replicate] using hw'.stream

theorem write_path_never_loses_requests_two :
    Writer.empty.run [.writeOrBufferRequest [7],.writeOrBufferRequest [8]] = some ⟨[1,8],true,[[1,7]],1⟩ ∧
    (1 ≤ 1 ∧ (true = false → ([1,8] : Bytes) = [] ∧ 1 = 0) ∧
      [[(1 : UInt8),7]].flatten ++ [1,8] = ((submitted [.writeOrBufferRequest [7],.writeOrBufferRequest [8]]).map delimit).flatten ∧
      ∃ k ≤ 2, ∃ w', Writer.empty.run ([.writeOrBufferRequest [7],.writeOrBufferRequest [8]] ++
        List.replicate k .writeCompleted) = some w' ∧ w'.outstanding = 0 ∧
        w'.written.flatten = ((submitted [.writeOrBufferRequest [7],.writeOrBufferRequest [8]]).map delimit).flatten) :=
  have h : Writer.empty.run [.writeOrBufferRequest [7],.writeOrBufferRequest [8]] = some ⟨[1,8],true,[[1,7]],1⟩ := by
    simp [Writer.run, Writer.step, Writer.writeOrBufferRequest, Writer.empty,
      Writer.writeBufferedRequestsToSocket, encodeDelimited, delimit, writeVarint32_small]
  ⟨h,write_path_never_loses_requests h⟩

end GlideClient
