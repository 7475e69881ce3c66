import Mathlib.Algebra.Group.Nat.Defs
import WordMachine.Image

/-! Program images and programs are two forms of the same thing: the images whose length is a
multiple of four are exactly what programs are written as, and they are read back word by word. -/
namespace WordMachine.Image

variable {bytes : List UInt8} {program : List Word}

/-- The four bytes from a position on make up the word, the highest one first. -/
def HoldsAt (bytes : List UInt8) (i : Nat) (w : Word) : Prop :=
  ∃ a b c d : UInt8, bytes[i]? = some a ∧ bytes[i + 1]? = some b ∧ bytes[i + 2]? = some c ∧
    bytes[i + 3]? = some d ∧
    w.toNat = a.toNat * 2 ^ 24 + b.toNat * 2 ^ 16 + c.toNat * 2 ^ 8 + d.toNat

theorem toBytes_ofBytes (a b c d : UInt8) : toBytes (ofBytes a b c d) = [a, b, c, d] := by
  have ha := a.toNat_lt
  have hb := b.toNat_lt
  have hc := c.toNat_lt
  have hd := d.toNat_lt
  have hw := toNat_ofBytes a b c d
  simp only [toBytes, List.cons.injEq, and_true, ← UInt8.toNat_inj, UInt32.toNat_toUInt8,
    UInt32.toNat_shiftRight, Nat.shiftRight_eq_div_pow, UInt32.toNat_ofNat, Nat.reduceMod,
    Nat.reducePow, hw]
  omega

theorem encode_append (program program' : List Word) :
    encode (program ++ program') = encode program ++ encode program' := List.flatMap_append

/-- Bytes that come in fours are those of some program. -/
theorem exists_eq_encode : ∀ {bytes : List UInt8}, 4 ∣ bytes.length →
    ∃ program, bytes = encode program
  | [], _ => ⟨[], rfl⟩
  | a :: b :: c :: d :: rest, h => by
    have hrest : 4 ∣ rest.length := (Nat.dvd_add_left (Nat.dvd_refl 4)).mp h
    obtain ⟨program, rfl⟩ := exists_eq_encode hrest
    refine ⟨ofBytes a b c d :: program, ?_⟩
    rw [encode_cons, toBytes_ofBytes]
    rfl
  | [_], h | [_, _], h | [_, _, _], h => by
    simp only [List.length_cons, List.length_nil] at h
    omega

theorem drop_encode (program : List Word) (k : Nat) :
    (encode program).drop (4 * k) = encode (program.drop k) := by
  induction k generalizing program with
  | zero => rfl
  | succ k ih =>
    cases program with
    | nil => rfl
    | cons w program => exact ih program

theorem holdsAt_encode {k : Nat} {w : Word} (h : program[k]? = some w) :
    HoldsAt (encode program) (4 * k) w := by
  obtain ⟨hk, rfl⟩ := List.getElem?_eq_some_iff.mp h
  have hdrop : (encode program).drop (4 * k) =
      toBytes program[k] ++ encode (program.drop (k + 1)) := by
    rw [drop_encode, List.drop_eq_getElem_cons hk, encode_cons]
  have hget (i : Nat) : (encode program)[4 * k + i]? =
      (toBytes program[k] ++ encode (program.drop (k + 1)))[i]? := by
    rw [← hdrop, List.getElem?_drop]
  have hvalue := congrArg UInt32.toNat (ofBytes_toBytes program[k])
  rw [toNat_ofBytes] at hvalue
  exact ⟨_, _, _, _, hget 0, hget 1, hget 2, hget 3, hvalue.symm⟩

theorem parse_of_not_dvd (h : ¬4 ∣ bytes.length) :
    parse bytes = .error (.misalignedImage bytes.length) :=
  parse_eq_error_iff.mpr ⟨fun h0 => h (Nat.dvd_of_mod_eq_zero h0), rfl⟩

/-- Bytes that come in fours are an image, and no others are. The program of an image has a word
for every four bytes, made up of them with the highest first, and it is written as that image;
every program is written with four bytes a word and read back. Two images in a row are the image
of the two programs in a row; an image followed by bytes that are none is none. -/
theorem image_codec :
    (∀ bytes : List UInt8,
      (4 ∣ bytes.length → ∃ program, parse bytes = .ok program ∧
        program.length = bytes.length / 4 ∧ encode program = bytes ∧
        ∀ (k : Nat) (w : Word), program[k]? = some w → HoldsAt bytes (4 * k) w) ∧
      (¬4 ∣ bytes.length → parse bytes = .error (.misalignedImage bytes.length))) ∧
    (∀ program : List Word,
      (encode program).length = 4 * program.length ∧ parse (encode program) = .ok program) ∧
    ∀ xs ys : List UInt8, 4 ∣ xs.length →
      (4 ∣ ys.length → ∃ us vs, parse xs = .ok us ∧ parse ys = .ok vs ∧
        parse (xs ++ ys) = .ok (us ++ vs)) ∧
      (¬4 ∣ ys.length → parse (xs ++ ys) = .error (.misalignedImage (xs ++ ys).length)) := by
  refine ⟨fun bytes => ⟨fun h => ?_, parse_of_not_dvd⟩,
    fun program => ⟨length_encode program, parse_encode program⟩,
    fun xs ys hx => ⟨fun hy => ?_, fun hy => ?_⟩⟩
  · obtain ⟨program, rfl⟩ := exists_eq_encode h
    have hlength : program.length = (encode program).length / 4 := by
      rw [length_encode, Nat.mul_div_cancel_left _ (by decide)]
    exact ⟨program, parse_encode program, hlength, rfl, fun k w => holdsAt_encode⟩
  · obtain ⟨us, rfl⟩ := exists_eq_encode hx
    obtain ⟨vs, rfl⟩ := exists_eq_encode hy
    rw [← encode_append]
    exact ⟨us, vs, parse_encode us, parse_encode vs, parse_encode (us ++ vs)⟩
  · have hxy : ¬4 ∣ (xs ++ ys).length := by
      rw [List.length_append]
      exact fun h => hy ((Nat.dvd_add_right hx).mp h)
    exact parse_of_not_dvd hxy

def additionImage : List UInt8 := [0x28, 0, 0, 0x11, 0, 0, 1, 2]

theorem additionImage_read :
    4 ∣ additionImage.length ∧ parse additionImage = .ok [0x28000011, 258] ∧
    encode [0x28000011, 258] = additionImage ∧ HoldsAt additionImage 4 258 ∧
    parse (additionImage ++ [7]) = .error (.misalignedImage 9) := by
  obtain ⟨himage, -, happend⟩ := image_codec
  have hdvd : 4 ∣ additionImage.length := by decide
  have hread : parse additionImage = .ok [0x28000011, 258] := by rfl
  obtain ⟨program, hparse, -, hencode, hholds⟩ := (himage additionImage).1 hdvd
  cases hread.symm.trans hparse
  exact ⟨hdvd, hread, hencode, hholds 1 258 rfl, (happend additionImage [7] hdvd).2 (by decide)⟩

end WordMachine.Image
