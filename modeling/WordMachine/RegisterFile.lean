import WordMachine.Register
import WordMachine.Text.Listing

/-! The register file: one word for each register, all zero at the start. -/
namespace WordMachine

structure RegisterFile where
  words : Vector Word Register.count
  deriving DecidableEq

namespace RegisterFile

def zeros : RegisterFile := ⟨Vector.replicate Register.count 0⟩

def get (file : RegisterFile) (r : Register) : Word := file.words[r.index]

def set (file : RegisterFile) (r : Register) (w : Word) : RegisterFile :=
  ⟨file.words.set r.index w⟩

@[simp] theorem get_zeros (r : Register) : zeros.get r = 0 := by
  simp [get, zeros]

theorem get_set (file : RegisterFile) (r s : Register) (w : Word) :
    (file.set r w).get s = if s = r then w else file.get s := by
  simp only [get, set, Fin.getElem_fin, Vector.getElem_set, Register.index_val_inj]
  by_cases h : s = r
  · simp [h]
  · simp [h, Ne.symm h]

@[simp] theorem get_set_self (file : RegisterFile) (r : Register) (w : Word) :
    (file.set r w).get r = w := by simp [get_set]

@[simp] theorem get_set_ne (file : RegisterFile) {r s : Register} (h : s ≠ r) (w : Word) :
    (file.set r w).get s = file.get s := by simp [get_set, h]

/-- A register file is nothing but the words of its registers. -/
theorem ext_get {f g : RegisterFile} (h : ∀ r, f.get r = g.get r) : f = g := by
  obtain ⟨f⟩ := f
  obtain ⟨g⟩ := g
  congr 1
  apply Vector.ext
  intro i hi
  have hr : ∃ r : Register, r.index.val = i := by
    have : i < Register.all.length := hi
    refine ⟨Register.all[i], ?_⟩
    have hn : Register.all.Nodup := by decide
    exact (List.getElem?_inj (Register.all[i]).index.isLt hn).mp
      ((Register.all_getElem?_index _).trans (List.getElem?_eq_getElem this).symm)
  obtain ⟨r, rfl⟩ := hr
  exact h r

@[simp] theorem set_set (file : RegisterFile) (r : Register) (v w : Word) :
    (file.set r v).set r w = file.set r w :=
  ext_get fun s => by by_cases h : s = r <;> simp [h]

theorem set_comm (file : RegisterFile) {r s : Register} (h : r ≠ s) (v w : Word) :
    (file.set r v).set s w = (file.set s w).set r v :=
  ext_get fun t => by
    by_cases ht : t = s
    · subst ht; simp [Ne.symm h]
    · simp [get_set, ht]

@[simp] theorem set_get (file : RegisterFile) (r : Register) : file.set r (file.get r) = file :=
  ext_get fun s => by by_cases h : s = r <;> simp [h]

def read (file : RegisterFile) (field : UInt8) : Except Fault Word :=
  (Register.ofField field).map file.get

/-- The bit of the flags that a difference of zero sets. No instruction clears it
but one that names the flags as its destination. -/
def zeroFlagBit : Word := 2

def zeroFlag (file : RegisterFile) : Bool := file.get .flags &&& zeroFlagBit != 0

def setZeroFlag (file : RegisterFile) : RegisterFile :=
  file.set .flags (file.get .flags ||| zeroFlagBit)

theorem get_setZeroFlag (file : RegisterFile) (r : Register) :
    file.setZeroFlag.get r = if r = .flags then file.get .flags ||| zeroFlagBit else file.get r :=
  get_set ..

def toList (file : RegisterFile) : List Word := Register.all.map file.get

def entries (file : RegisterFile) : List String :=
  Register.all.map fun r => "\"" ++ r.name ++ "\": " ++ Word.hex (file.get r)

def lineText (file : RegisterFile) : String := Text.Listing.braces.line file.entries

def blockText (file : RegisterFile) : String := Text.Listing.braces.block file.entries

end RegisterFile
end WordMachine
