import GlideClient.Protocol

namespace GlideClient

open response

def toInt32 (x : Nat) : Int := if x % 2^32 < 2^31 then ((x % 2^32 : Nat) : Int) else ((x % 2^32 : Nat) : Int) - 2^32

/-- Modelled from the spec: the generated response decoder reads the uint64 respPointer as a Long,
whose high and low halves are signed 32-bit numbers, or without Long support as a JS number. -/
def decodeUint64 (longSupport : Bool) (p : Nat) : RespPointer :=
  if longSupport then .long (toInt32 (p / 2^32)) (toInt32 p) else .number p

/-- Modelled from the spec: the native valueFromSplitPointer binding takes each argument as an
unsigned 32-bit integer, reduced modulo 2^32. -/
def u32 (x : Int) : Nat := (x % 2^32).toNat

def pointerHalves (pointer : RespPointer) : Nat × Nat :=
  (u32 (splitPointer pointer).1,u32 (splitPointer pointer).2)

def reassemble (halves : Nat × Nat) : Nat := halves.1 * 2^32 + halves.2

theorem u32_toInt32 (x : Nat) : u32 (toInt32 x) = x % 2^32 := by
  unfold u32 toInt32
  split <;> omega

theorem u32_natCast (x : Nat) : u32 x = x % 2^32 := by
  unfold u32
  omega

theorem pointerHalves_long {p : Nat} (hp : p < 2^64) :
    pointerHalves (decodeUint64 true p) = (p / 2^32,p % 2^32) := by
  simp only [pointerHalves, decodeUint64, if_true, splitPointer, u32_toInt32, Prod.mk.injEq, and_true]
  omega

theorem pointerHalves_number (p : Nat) : pointerHalves (decodeUint64 false p) = (0,p % 2^32) :=
  Prod.ext rfl (u32_natCast p)

theorem reassemble_decodeUint64 {p : Nat} (hp : p < 2^64) (longSupport : Bool) :
    reassemble (pointerHalves (decodeUint64 longSupport p)) = p ↔ longSupport = true ∨ p < 2^32 := by
  cases longSupport with
  | true => simp only [pointerHalves_long hp, reassemble, true_or, iff_true]; omega
  | false => simp only [pointerHalves_number, reassemble, Bool.false_eq_true, false_or]; omega

theorem responseOutcome_reassembles {p : Nat} (hp : p < 2^64) (longSupport : Bool) {message : Response}
    (he : message.requestError = none) (hr : message.respPointer = some (decodeUint64 longSupport p)) :
    ∃ high low, responseOutcome message = .resolved (.fromSplitPointer high low) ∧
      (reassemble (u32 high,u32 low) = p ↔ longSupport = true ∨ p < 2^32) :=
  ⟨_,_,by simp [responseOutcome, he, hr],reassemble_decodeUint64 hp longSupport⟩

theorem responseOutcome_reassembles_long :
    let message : Response := ⟨0,some (decodeUint64 true (2^40 + 7)),none,none,none⟩
    2^40 + 7 < 2^64 ∧ message.requestError = none ∧ message.respPointer = some (decodeUint64 true (2^40 + 7)) ∧
    ∃ high low, responseOutcome message = .resolved (.fromSplitPointer high low) ∧
      (reassemble (u32 high,u32 low) = 2^40 + 7 ↔ true = true ∨ 2^40 + 7 < 2^32) :=
  ⟨by decide,rfl,rfl,responseOutcome_reassembles (by decide) true rfl rfl⟩

theorem split_number_pointer_drops_high_half :
    responseOutcome ⟨0,some (decodeUint64 false 4294967296),none,none,none⟩ =
      .resolved (.fromSplitPointer 0 4294967296) ∧
    reassemble (u32 0,u32 4294967296) = 0 := by
  decide

end GlideClient
