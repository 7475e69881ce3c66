import WordMachine.Fault

/-! Program images: the words of a program, each as four bytes with the highest first. -/
namespace WordMachine.Image

def ofBytes (a b c d : UInt8) : Word :=
  (a.toUInt32 <<< 24) + (b.toUInt32 <<< 16) + (c.toUInt32 <<< 8) + d.toUInt32

def toBytes (w : Word) : List UInt8 :=
  [(w >>> 24).toUInt8, (w >>> 16).toUInt8, (w >>> 8).toUInt8, w.toUInt8]

def wordsOnto (acc : List Word) : List UInt8 → List Word
  | a :: b :: c :: d :: rest => wordsOnto (ofBytes a b c d :: acc) rest
  | _ => acc

/-- The words of the bytes, four by four. Fewer than four at the end are left over. -/
def words (bytes : List UInt8) : List Word := (wordsOnto [] bytes).reverse

def parse (bytes : List UInt8) : Except Fault (List Word) :=
  if bytes.length % 4 = 0 then .ok (words bytes) else .error (.misalignedImage bytes.length)

def encode (program : List Word) : List UInt8 := program.flatMap toBytes

theorem wordsOnto_eq : ∀ (bytes : List UInt8) (acc : List Word),
    wordsOnto acc bytes = wordsOnto [] bytes ++ acc
  | a :: b :: c :: d :: rest, acc => by
    rw [wordsOnto, wordsOnto, wordsOnto_eq rest (_ :: acc), wordsOnto_eq rest [_]]
    simp
  | [], _ | [_], _ | [_, _], _ | [_, _, _], _ => rfl

@[simp] theorem words_cons (a b c d : UInt8) (rest : List UInt8) :
    words (a :: b :: c :: d :: rest) = ofBytes a b c d :: words rest := by
  rw [words, wordsOnto, wordsOnto_eq]
  simp [words]

theorem parse_eq_error_iff {bytes : List UInt8} {e : Fault} : parse bytes = .error e ↔
    bytes.length % 4 ≠ 0 ∧ e = .misalignedImage bytes.length := by
  unfold parse
  split <;> simp_all [eq_comm]

@[simp] theorem encode_cons (w : Word) (program : List Word) :
    encode (w :: program) = toBytes w ++ encode program := rfl

@[simp] theorem length_encode (program : List Word) :
    (encode program).length = 4 * program.length := by
  induction program with
  | nil => rfl
  | cons w program ih => simp [toBytes, ih]; omega

theorem toNat_ofBytes (a b c d : UInt8) : (ofBytes a b c d).toNat =
    a.toNat * 0x1000000 + b.toNat * 0x10000 + c.toNat * 0x100 + d.toNat := by
  have ha := a.toNat_lt
  have hb := b.toNat_lt
  have hc := c.toNat_lt
  have hd := d.toNat_lt
  simp only [ofBytes, UInt32.toNat_add, UInt32.toNat_shiftLeft, UInt8.toNat_toUInt32,
    Nat.shiftLeft_eq, UInt32.toNat_ofNat, Nat.reduceMod, Nat.reducePow]
  omega

@[simp] theorem ofBytes_toBytes (w : Word) :
    ofBytes (w >>> 24).toUInt8 (w >>> 16).toUInt8 (w >>> 8).toUInt8 w.toUInt8 = w := by
  have hw := w.toNat_lt
  apply UInt32.toNat_inj.mp
  simp only [toNat_ofBytes, UInt32.toNat_toUInt8, UInt32.toNat_shiftRight,
    Nat.shiftRight_eq_div_pow, UInt32.toNat_ofNat, Nat.reduceMod, Nat.reducePow]
  omega

/-- Reading gives back what was written. -/
@[simp] theorem words_encode (program : List Word) : words (encode program) = program := by
  induction program with
  | nil => rfl
  | cons w program ih => simp [toBytes, ih]

@[simp] theorem parse_encode (program : List Word) : parse (encode program) = .ok program := by
  simp [parse]

end WordMachine.Image
