import Mathlib.Data.Set.Function
import WordMachine.Instruction

/-! The layout of an instruction word, bit by bit. Packing and unpacking undo each other between
the words that leave the reserved bits clear and the instructions whose fields have four bits. -/
namespace WordMachine

namespace Word

theorem bit_eq_testBit (w : Word) (k : Nat) : w.bit k = w.toNat.testBit k := rfl

theorem bit_shiftRight (w : Word) {s : Word} (hs : s.toNat < 32) (k : Nat) :
    (w >>> s).bit k = w.bit (s.toNat + k) := by
  rw [bit_eq_testBit, UInt32.toNat_shiftRight, Nat.mod_eq_of_lt hs, Nat.testBit_shiftRight]
  rfl

theorem bit_shiftLeft (w : Word) {s : Word} (hs : s.toNat < 32) {k : Nat} (hk : k < 32) :
    (w <<< s).bit k = (decide (s.toNat ≤ k) && w.bit (k - s.toNat)) := by
  rw [bit_eq_testBit, UInt32.toNat_shiftLeft, Nat.mod_eq_of_lt hs, Nat.testBit_mod_two_pow,
    Nat.testBit_shiftLeft]
  simp [hk, bit_eq_testBit]

theorem bit_fifteen (k : Nat) : bit 0xF k = decide (k < 4) := Nat.testBit_two_pow_sub_one 4 k

end Word

namespace Modes

theorem bit_toWord_ofWord (w : Word) (k : Nat) :
    Word.bit (ofWord w).toWord k = (decide (24 ≤ k ∧ k < 28) && w.bit k) := by
  rw [bit_toWord]
  by_cases hk : 24 ≤ k ∧ k < 28
  · obtain rfl | rfl | rfl | rfl : k = 24 ∨ k = 25 ∨ k = 26 ∨ k = 27 := by omega
    all_goals simp [ofWord, immediateBit, derefABit, derefBBit, derefCBit]
  · have h27 : k ≠ 27 := by omega
    have h26 : k ≠ 26 := by omega
    have h25 : k ≠ 25 := by omega
    have h24 : k ≠ 24 := by omega
    simp [hk, immediateBit, derefABit, derefBBit, derefCBit, h27, h26, h25, h24]

theorem bit_toWord_eq_false (m : Modes) {k : Nat} (hk : ¬(24 ≤ k ∧ k < 28)) :
    Word.bit m.toWord k = false := by
  rw [← ofWord_toWord m, bit_toWord_ofWord]
  simp [hk]

end Modes

namespace Instruction

variable {ins : Instruction} {w : Word}

theorem testBit_nibble (x : UInt8) (j : Nat) :
    (nibble x).toNat.testBit j = (decide (j < 4) && x.toNat.testBit j) := by
  have h : (15 : Nat).testBit j = decide (j < 4) := Nat.testBit_two_pow_sub_one 4 j
  rw [nibble, UInt8.toNat_and, Nat.testBit_and, Bool.and_comm, ← h]
  rfl

theorem testBit_field (w : Word) {s : Word} (hs : s.toNat < 32) (j : Nat) :
    (field w s).toNat.testBit j = (decide (j < 4) && w.bit (s.toNat + j)) := by
  rw [field, UInt32.toNat_toUInt8, Nat.testBit_mod_two_pow, ← Word.bit_eq_testBit, Word.bit_and,
    Word.bit_shiftRight w hs, Word.bit_fifteen]
  by_cases hj : j < 4
  · have hj8 : j < 8 := by omega
    simp [hj, hj8]
  · simp [hj]

theorem bit_nibble_shiftLeft (x : UInt8) {s : Word} (hs : s.toNat < 32) {k : Nat} (hk : k < 32) :
    Word.bit ((nibble x).toUInt32 <<< s) k =
      (decide (s.toNat ≤ k ∧ k < s.toNat + 4) && x.toNat.testBit (k - s.toNat)) := by
  rw [Word.bit_shiftLeft _ hs hk, Word.bit_eq_testBit, UInt8.toNat_toUInt32, testBit_nibble]
  by_cases hle : s.toNat ≤ k
  · have hlt : k - s.toNat < 4 ↔ k < s.toNat + 4 := by omega
    simp [hle, hlt]
  · simp [hle]

/-- Where each bit of an encoded instruction comes from. -/
theorem bit_encode (ins : Instruction) {k : Nat} (hk : k < 32) : (encode ins).bit k =
    (decide (28 ≤ k ∧ k < 32) && ins.code.toNat.testBit (k - 28) || ins.modes.toWord.bit k ||
      decide (8 ≤ k ∧ k < 12) && ins.c.toNat.testBit (k - 8) ||
      decide (4 ≤ k ∧ k < 8) && ins.b.toNat.testBit (k - 4) ||
      decide (0 ≤ k ∧ k < 4) && ins.a.toNat.testBit (k - 0)) := by
  have hcode := bit_nibble_shiftLeft ins.code (s := 28) (by decide) hk
  have hc := bit_nibble_shiftLeft ins.c (s := 8) (by decide) hk
  have hb := bit_nibble_shiftLeft ins.b (s := 4) (by decide) hk
  have ha := bit_nibble_shiftLeft ins.a (s := 0) (by decide) hk
  rw [UInt32.shiftLeft_zero] at ha
  simp only [encode, Word.bit_or, hcode, hc, hb, ha]
  rfl

/-- The bits between the modes and the field c are clear. -/
def Unreserved (w : Word) : Prop := ∀ k, 12 ≤ k → k ≤ 23 → w.bit k = false

def clearReserved (w : Word) : Word := w &&& ~~~reservedMask

theorem bit_reservedMask (k : Nat) : Word.bit reservedMask k = decide (12 ≤ k ∧ k < 24) := by
  have h : Word.bit reservedMask k = ((2 ^ 12 - 1) <<< 12).testBit k := rfl
  rw [h, Nat.testBit_shiftLeft, Nat.testBit_two_pow_sub_one, Bool.eq_iff_iff]
  simp only [Bool.and_eq_true, decide_eq_true_eq]
  omega

theorem bit_clearReserved (w : Word) {k : Nat} (hk : k < 32) :
    (clearReserved w).bit k = (w.bit k && !decide (12 ≤ k ∧ k < 24)) := by
  rw [clearReserved, Word.bit_and, Word.bit_not _ hk, bit_reservedMask]

theorem and_reservedMask_eq_zero_iff : w &&& reservedMask = 0 ↔ Unreserved w := by
  constructor
  · intro h k h12 h23
    have hb : (w &&& reservedMask).bit k = false := by rw [h, Word.bit_zero]
    rw [Word.bit_and, bit_reservedMask] at hb
    have hr : 12 ≤ k ∧ k < 24 := by omega
    simpa [hr] using hb
  · intro h
    apply Word.ext_bit
    intro k _
    rw [Word.bit_and, bit_reservedMask, Word.bit_zero]
    by_cases hr : 12 ≤ k ∧ k < 24
    · rw [h k hr.1 (by omega), Bool.false_and]
    · simp [hr]

theorem unreserved_encode (ins : Instruction) : Unreserved (encode ins) := by
  intro k h12 h23
  have hk : k < 32 := by omega
  have h : ¬28 ≤ k ∧ ¬k < 12 ∧ ¬k < 8 ∧ ¬k < 4 := by omega
  rw [bit_encode ins hk, Modes.bit_toWord_eq_false _ (by omega)]
  simp [h]

/-- Each of the four fields has four bits. -/
structure Fits (ins : Instruction) : Prop where
  code : ins.code.toNat < 16
  a : ins.a.toNat < 16
  b : ins.b.toNat < 16
  c : ins.c.toNat < 16

/-- The instruction with its four fields taken modulo sixteen. -/
def narrow (ins : Instruction) : Instruction :=
  { ins with code := ins.code % 16, a := ins.a % 16, b := ins.b % 16, c := ins.c % 16 }

theorem mod_eq_self_iff (x : UInt8) : x % 16 = x ↔ x.toNat < 16 := by
  rw [← UInt8.toNat_inj, UInt8.toNat_mod]
  exact Nat.mod_eq_iff_lt (by decide)

theorem narrow_eq_self_iff : ins.narrow = ins ↔ ins.Fits := by
  constructor
  · intro h
    have hcode : ins.code % 16 = ins.code := congrArg code h
    have ha : ins.a % 16 = ins.a := congrArg Instruction.a h
    have hb : ins.b % 16 = ins.b := congrArg Instruction.b h
    have hc : ins.c % 16 = ins.c := congrArg Instruction.c h
    exact ⟨(mod_eq_self_iff _).mp hcode, (mod_eq_self_iff _).mp ha, (mod_eq_self_iff _).mp hb,
      (mod_eq_self_iff _).mp hc⟩
  · intro h
    simp only [narrow, (mod_eq_self_iff _).mpr h.code, (mod_eq_self_iff _).mpr h.a,
      (mod_eq_self_iff _).mpr h.b, (mod_eq_self_iff _).mpr h.c]

theorem fits_decode (w : Word) : (decode w).Fits :=
  ⟨field_lt w 28, field_lt w 0, field_lt w 4, field_lt w 8⟩

theorem testBit_field_sub (w : Word) {s : Word} (hs : s.toNat < 32) (k : Nat) :
    (decide (s.toNat ≤ k ∧ k < s.toNat + 4) && (field w s).toNat.testBit (k - s.toNat)) =
      (decide (s.toNat ≤ k ∧ k < s.toNat + 4) && w.bit k) := by
  rw [testBit_field w hs]
  by_cases hk : s.toNat ≤ k ∧ k < s.toNat + 4
  · have hlt : k - s.toNat < 4 := by omega
    have hadd : s.toNat + (k - s.toNat) = k := by omega
    simp [hlt, hadd]
  · simp [hk]

/-- Unpacking looks at all bits but the reserved ones, and packing puts them back. -/
theorem encode_decode (w : Word) : encode (decode w) = clearReserved w := by
  apply Word.ext_bit
  intro k hk
  have hcode : (decide (28 ≤ k ∧ k < 32) && (decode w).code.toNat.testBit (k - 28)) =
      (decide (28 ≤ k ∧ k < 32) && w.bit k) := testBit_field_sub w (s := 28) (by decide) k
  have hc : (decide (8 ≤ k ∧ k < 12) && (decode w).c.toNat.testBit (k - 8)) =
      (decide (8 ≤ k ∧ k < 12) && w.bit k) := testBit_field_sub w (s := 8) (by decide) k
  have hb : (decide (4 ≤ k ∧ k < 8) && (decode w).b.toNat.testBit (k - 4)) =
      (decide (4 ≤ k ∧ k < 8) && w.bit k) := testBit_field_sub w (s := 4) (by decide) k
  have ha : (decide (0 ≤ k ∧ k < 4) && (decode w).a.toNat.testBit (k - 0)) =
      (decide (0 ≤ k ∧ k < 4) && w.bit k) := testBit_field_sub w (s := 0) (by decide) k
  have hmodes : (decode w).modes.toWord.bit k = (decide (24 ≤ k ∧ k < 28) && w.bit k) :=
    Modes.bit_toWord_ofWord w k
  rw [bit_encode _ hk, bit_clearReserved w hk, hcode, hmodes, hc, hb, ha]
  -- the five places together are all that the reserved bits leave
  cases w.bit k with
  | false => simp
  | true =>
    rw [Bool.eq_iff_iff]
    simp only [Bool.and_true, Bool.true_and, Bool.or_eq_true, decide_eq_true_eq,
      Bool.not_eq_true', decide_eq_false_iff_not]
    omega

theorem bit_encode_field (ins : Instruction) {j : Nat} (hj : j < 4) :
    (encode ins).bit (28 + j) = ins.code.toNat.testBit j ∧
    (encode ins).bit (0 + j) = ins.a.toNat.testBit j ∧
    (encode ins).bit (4 + j) = ins.b.toNat.testBit j ∧
    (encode ins).bit (8 + j) = ins.c.toNat.testBit j := by
  refine ⟨?_, ?_, ?_, ?_⟩
  all_goals
    rw [bit_encode ins (by omega), Modes.bit_toWord_eq_false _ (by omega)]
  · have h : ¬28 + j < 12 ∧ ¬28 + j < 8 ∧ ¬28 + j < 4 ∧ 28 + j < 32 := by omega
    simp [h]
  · have h : ¬28 ≤ j ∧ ¬8 ≤ j ∧ ¬4 ≤ j := by omega
    simp [h, hj]
  · have h : ¬28 ≤ 4 + j ∧ ¬8 ≤ 4 + j ∧ ¬4 + j < 4 ∧ 4 + j < 8 := by omega
    simp [h]
  · have h : ¬28 ≤ 8 + j ∧ ¬8 + j < 8 ∧ ¬8 + j < 4 ∧ 8 + j < 12 := by omega
    simp [h]

theorem ofWord_encode (ins : Instruction) : Modes.ofWord (encode ins) = ins.modes := by
  have hbit {k : Nat} (h24 : 24 ≤ k) (h28 : k < 28) :
      (encode ins).bit k = ins.modes.toWord.bit k := by
    have h : ¬28 ≤ k ∧ ¬k < 12 ∧ ¬k < 8 ∧ ¬k < 4 := by omega
    rw [bit_encode ins (by omega)]
    simp [h]
  have hmodes := Modes.ofWord_toWord ins.modes
  simp only [Modes.ofWord, Modes.immediateBit, Modes.derefABit, Modes.derefBBit,
    Modes.derefCBit] at hmodes ⊢
  rw [hbit (by decide) (by decide), hbit (by decide) (by decide), hbit (by decide) (by decide),
    hbit (by decide) (by decide)]
  exact hmodes

/-- A field whose bits stand in a word is read back from there, modulo sixteen. -/
theorem field_eq_mod {s : Word} {x : UInt8} (hs : s.toNat < 32)
    (h : ∀ j < 4, w.bit (s.toNat + j) = x.toNat.testBit j) : field w s = x % 16 := by
  apply UInt8.toNat_inj.mp
  apply Nat.eq_of_testBit_eq
  intro j
  have hmod : (x % 16).toNat.testBit j = (decide (j < 4) && x.toNat.testBit j) := by
    rw [UInt8.toNat_mod]
    exact Nat.testBit_mod_two_pow x.toNat 4 j
  rw [testBit_field _ hs, hmod]
  by_cases hj : j < 4
  · rw [h j hj]
  · simp [hj]

theorem decode_encode (ins : Instruction) : decode (encode ins) = ins.narrow := by
  have hcode : field (encode ins) 28 = ins.code % 16 :=
    field_eq_mod (by decide) fun j hj => (bit_encode_field ins hj).1
  have ha : field (encode ins) 0 = ins.a % 16 :=
    field_eq_mod (by decide) fun j hj => (bit_encode_field ins hj).2.1
  have hb : field (encode ins) 4 = ins.b % 16 :=
    field_eq_mod (by decide) fun j hj => (bit_encode_field ins hj).2.2.1
  have hc : field (encode ins) 8 = ins.c % 16 :=
    field_eq_mod (by decide) fun j hj => (bit_encode_field ins hj).2.2.2
  simp only [decode, narrow, hcode, ha, hb, hc, ofWord_encode]

theorem decode_clearReserved (w : Word) : decode (clearReserved w) = decode w := by
  rw [← encode_decode, decode_encode, narrow_eq_self_iff.mpr (fits_decode w)]

theorem clearReserved_eq_self_iff : clearReserved w = w ↔ Unreserved w := by
  constructor
  · intro h
    rw [← h, ← encode_decode]
    exact unreserved_encode _
  · intro h
    apply Word.ext_bit
    intro k hk
    rw [bit_clearReserved w hk]
    by_cases hr : 12 ≤ k ∧ k < 24
    · rw [h k hr.1 (by omega), Bool.false_and]
    · simp [hr]

theorem decodeChecked_encode (ins : Instruction) :
    decodeChecked (encode ins) = .ok ins.narrow :=
  decodeChecked_eq_ok_iff.mpr
    ⟨and_reservedMask_eq_zero_iff.mpr (unreserved_encode ins), decode_encode ins⟩

/-- Checked unpacking is packing read backwards. -/
theorem decodeChecked_eq_ok_iff_encode :
    decodeChecked w = .ok ins ↔ ins.Fits ∧ encode ins = w := by
  constructor
  · intro h
    obtain ⟨hw, rfl⟩ := decodeChecked_eq_ok_iff.mp h
    refine ⟨fits_decode w, ?_⟩
    rw [encode_decode]
    exact clearReserved_eq_self_iff.mpr (and_reservedMask_eq_zero_iff.mp hw)
  · rintro ⟨hf, rfl⟩
    rw [decodeChecked_encode, narrow_eq_self_iff.mpr hf]

/-- The instructions made from an operation and three bytes, and then given modes. -/
inductive Built : Instruction → Prop
  | of (op : Opcode) (a b c : UInt8) : Built (of op a b c)
  | withModes {ins : Instruction} (h : Built ins) (modes : Modes) : Built (ins.withModes modes)
  | withImmediate {ins : Instruction} (h : Built ins) : Built ins.withImmediate
  | withDerefA {ins : Instruction} (h : Built ins) : Built ins.withDerefA
  | withDerefB {ins : Instruction} (h : Built ins) : Built ins.withDerefB
  | withDerefC {ins : Instruction} (h : Built ins) : Built ins.withDerefC

theorem nibble_lt (x : UInt8) : (nibble x).toNat < 16 := by
  rw [nibble, UInt8.toNat_and]
  exact Nat.and_lt_two_pow _ (show 15 < 2 ^ 4 by decide)

theorem Fits.withModes (h : ins.Fits) (modes : Modes) : (ins.withModes modes).Fits :=
  ⟨h.code, h.a, h.b, h.c⟩

theorem Built.fits (h : ins.Built) : ins.Fits := by
  induction h with
  | of op a b c => exact ⟨op.code_lt, nibble_lt a, nibble_lt b, nibble_lt c⟩
  | withModes _ modes ih => exact ih.withModes modes
  | withImmediate _ ih | withDerefA _ ih | withDerefB _ ih | withDerefC _ ih =>
    exact ih.withModes _

/-- Packing an unpacked word clears its reserved bits and nothing else, and unpacking does not look
at them; what is unpacked has fields of four bits and an operation, and the checked form refuses a
word exactly for a reserved bit. An instruction is packed without reserved bits and unpacked with
its fields modulo sixteen, so it comes back exactly if they have four bits, as those of every built
instruction have. So checked unpacking is a bijection from the unreserved words to the instructions
with fields of four bits, and packing is its inverse. -/
theorem layout_bijective :
    (∀ w : Word, encode (decode w) = clearReserved w ∧ decode w = decode (clearReserved w) ∧
      (decode w).Fits ∧ (∃ op, (decode w).opcode = .ok op) ∧
      (Unreserved w → decodeChecked w = .ok (decode w)) ∧
      (¬Unreserved w → decodeChecked w = .error (.reservedBits w))) ∧
    (∀ ins : Instruction, Unreserved (encode ins) ∧ decodeChecked (encode ins) = .ok ins.narrow ∧
      (decode (encode ins) = ins ↔ ins.Fits) ∧ (ins.Built → ins.Fits)) ∧
    (∀ (w : Word) (ins : Instruction), decodeChecked w = .ok ins ↔ ins.Fits ∧ encode ins = w) ∧
    Set.BijOn decodeChecked {w | Unreserved w} (Except.ok '' {ins | ins.Fits}) := by
  have hok {w : Word} (h : Unreserved w) : decodeChecked w = .ok (decode w) :=
    decodeChecked_eq_ok_iff.mpr ⟨and_reservedMask_eq_zero_iff.mpr h, rfl⟩
  refine ⟨fun w => ⟨encode_decode w, (decode_clearReserved w).symm, fits_decode w,
    opcode_decode_isOk w, hok, fun h => ?_⟩, fun ins => ⟨unreserved_encode ins,
    decodeChecked_encode ins, ?_, Built.fits⟩, fun w ins => decodeChecked_eq_ok_iff_encode, ?_⟩
  · exact decodeChecked_eq_error_iff.mpr ⟨fun h0 => h (and_reservedMask_eq_zero_iff.mp h0), rfl⟩
  · rw [decode_encode]
    exact narrow_eq_self_iff
  · refine ⟨fun w hw => ⟨decode w, fits_decode w, (hok hw).symm⟩, fun v hv w hw he => ?_, ?_⟩
    · have hv' := (decodeChecked_eq_ok_iff_encode.mp (hok hv)).2
      have hw' := (decodeChecked_eq_ok_iff_encode.mp (he.symm.trans (hok hv))).2
      exact hv'.symm.trans hw'
    · rintro _ ⟨ins, hf, rfl⟩
      exact ⟨encode ins, unreserved_encode ins, decodeChecked_eq_ok_iff_encode.mpr ⟨hf, rfl⟩⟩

def additionThrough : Instruction := (of (.arithmetic .add) 0x11 2 3).withImmediate.withDerefA

theorem additionThrough_unpacked :
    additionThrough.Built ∧ encode additionThrough = 0x29000321 ∧
    decode 0x29000321 = additionThrough ∧ ¬Unreserved 0x29001321 ∧
    decodeChecked 0x29001321 = .error (.reservedBits 0x29001321) ∧
    encode (decode 0x29001321) = 0x29000321 := by
  obtain ⟨hword, hins, -, -⟩ := layout_bijective
  have hb : additionThrough.Built := .withDerefA (.withImmediate (.of _ _ _ _))
  have he : encode additionThrough = 0x29000321 := by decide
  obtain ⟨-, -, hback, hfits⟩ := hins additionThrough
  have hd := hback.mpr (hfits hb)
  rw [he] at hd
  have hr : ¬Unreserved 0x29001321 := fun h => absurd (h 12 (by decide) (by decide)) (by decide)
  obtain ⟨hclear, -, -, -, -, herror⟩ := hword 0x29001321
  exact ⟨hb, he, hd, hr, herror hr, hclear.trans (by decide)⟩

end Instruction
end WordMachine
