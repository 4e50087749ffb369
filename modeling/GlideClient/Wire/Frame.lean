import GlideClient.Wire.Varint

namespace GlideClient.Wire

inductive Decoded (α : Type) where
  | decoded (message : α) (rest : Bytes)
  | rangeError
  | failed (error : String)
  deriving DecidableEq, Repr

structure FrameCodec (α : Type) where
  frame : α → Bytes
  decodeDelimited : Bytes → Decoded α
  decodeDelimited_frame : ∀ a rest, decodeDelimited (frame a ++ rest) = .decoded a rest
  decodeDelimited_prefix : ∀ a p, p ≠ [] → p <+: frame a → p ≠ frame a →
    decodeDelimited p = .rangeError
  decodeDelimited_shortens : ∀ {buf a rest}, decodeDelimited buf = .decoded a rest →
    rest.length < buf.length

namespace FrameCodec

variable {α : Type} (codec : FrameCodec α)

theorem frame_ne_nil (a : α) : codec.frame a ≠ [] := by
  have h := codec.decodeDelimited_shortens (codec.decodeDelimited_frame a [])
  intro he
  simp [he] at h

def Partial (p : Bytes) : Prop := p = [] ∨ ∃ a, p <+: codec.frame a ∧ p ≠ codec.frame a

theorem partial_take (a : α) {k : Nat} (hk : k < (codec.frame a).length) :
    codec.Partial ((codec.frame a).take k) :=
  .inr ⟨a,List.take_prefix _ _,fun h => by
    have := congrArg List.length h
    simp only [List.length_take] at this
    omega⟩

theorem decodeDelimited_partial {p : Bytes} (hp : codec.Partial p) (hne : p ≠ []) :
    codec.decodeDelimited p = .rangeError := by
  rcases hp with rfl | ⟨a,hpa,hne'⟩
  · exact absurd rfl hne
  · exact codec.decodeDelimited_prefix a p hne hpa hne'

end FrameCodec

theorem prefix_append_cases {p x y : Bytes} (h : p <+: x ++ y) :
    (p <+: x ∧ p ≠ x) ∨ ∃ y', p = x ++ y' ∧ y' <+: y := by
  rcases List.prefix_or_prefix_of_prefix h (List.prefix_append x y) with hx | ⟨y',rfl⟩
  · by_cases he : p = x
    · exact .inr ⟨[],by simp [he],List.nil_prefix⟩
    · exact .inl ⟨hx,he⟩
  · exact .inr ⟨y',rfl,(List.prefix_append_right_inj x).mp h⟩

theorem length_lt_of_strict_prefix {p x : Bytes} (h : p <+: x) (hne : p ≠ x) :
    p.length < x.length :=
  lt_of_le_of_ne h.length_le fun he => hne (h.eq_of_length he)

def delimit (message : Bytes) : Bytes := writeVarint32 message.length ++ message

structure MessageCodec (α : Type) where
  encode : α → Bytes
  decode : Bytes → Except String α
  decode_encode : ∀ a, decode (encode a) = .ok a

namespace MessageCodec

variable {α : Type} (m : MessageCodec α)

def decodeDelimited (buf : Bytes) : Decoded α :=
  match readVarint buf with
  | none => .rangeError
  | some (len,rest) =>
    if len ≤ rest.length then
      match m.decode (rest.take len) with
      | .ok a => .decoded a (rest.drop len)
      | .error e => .failed e
    else .rangeError

def encodeDelimited (a : α) : Bytes := delimit (m.encode a)

theorem decodeDelimited_encodeDelimited (a : α) (rest : Bytes) :
    m.decodeDelimited (m.encodeDelimited a ++ rest) = .decoded a rest := by
  simp [decodeDelimited, encodeDelimited, delimit, readVarint_writeVarint32, m.decode_encode]

theorem decodeDelimited_strict_prefix (a : α) (p : Bytes) (hne : p ≠ [])
    (hp : p <+: m.encodeDelimited a) (hne' : p ≠ m.encodeDelimited a) :
    m.decodeDelimited p = .rangeError := by
  rcases prefix_append_cases (by simpa only [encodeDelimited, delimit] using hp) with ⟨hv,he⟩ | ⟨b,rfl,hb⟩
  · simp [decodeDelimited, readVarint_strict_prefix hv he]
  · have hlt := length_lt_of_strict_prefix hb (by rintro rfl; exact hne' rfl)
    simp [decodeDelimited, readVarint_writeVarint32, Nat.not_le.mpr hlt]

theorem decodeDelimited_shortens {buf rest : Bytes} {a : α}
    (h : m.decodeDelimited buf = .decoded a rest) : rest.length < buf.length := by
  unfold decodeDelimited at h
  split at h
  · cases h
  · next len r hr =>
    split at h
    · split at h
      · cases h
        have := readVarint_shortens hr
        simp only [List.length_drop]
        omega
      · cases h
    · cases h

def delimited : FrameCodec α where
  frame := m.encodeDelimited
  decodeDelimited := m.decodeDelimited
  decodeDelimited_frame := m.decodeDelimited_encodeDelimited
  decodeDelimited_prefix := m.decodeDelimited_strict_prefix
  decodeDelimited_shortens := m.decodeDelimited_shortens

end MessageCodec

end GlideClient.Wire
