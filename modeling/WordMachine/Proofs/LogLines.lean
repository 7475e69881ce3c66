import Mathlib
import WordMachine.Event

/-! The lines of the log tell what they are about: two events of the machine that make one line are
the same event, with the same instruction, address, registers and fault. -/
namespace WordMachine

namespace Text

theorem notMem_toDigits {b : Nat} {c : Char} (hb : 1 < b) (hle : b ≤ 16)
    (hc : ∀ d < 16, c ≠ Nat.digitChar d) (n : Nat) : c ∉ Nat.toDigits b n := by
  induction n using Nat.strongRecOn with
  | ind n ih =>
    rcases Nat.lt_or_ge n b with hlt | hge
    · rw [Nat.toDigits_of_lt_base hlt]
      simpa using hc n (Nat.lt_of_lt_of_le hlt hle)
    · have hd : n % b < 16 := Nat.lt_of_lt_of_le (Nat.mod_lt n (by omega)) hle
      rw [Nat.toDigits_of_base_le hb hge]
      simpa using ⟨ih _ (Nat.div_lt_self (by omega) hb), hc _ hd⟩

theorem notMem_repr {c : Char} (hc : ∀ d < 16, c ≠ Nat.digitChar d) (n : Nat) :
    c ∉ n.repr.toList := by
  rw [Nat.toList_repr]
  exact notMem_toDigits (by decide) (by decide) hc n

theorem takeWhile_append_cons {c : Char} {cs : List Char} (h : c ∉ cs) (rest : List Char) :
    (cs ++ c :: rest).takeWhile (· != c) = cs := by
  have hcs : ∀ d ∈ cs, (d != c) = true := fun d hd => bne_iff_ne.mpr fun he => h (he ▸ hd)
  rw [List.takeWhile_append_of_pos hcs, List.takeWhile_cons_of_neg (by simp), List.append_nil]

/-- What stands in two equal texts before the first sign of what both go on with is the same, and so
is what follows. -/
theorem append_inj_of_notMem {a b sep x y : String} {c : Char} {rest : List Char}
    (hsep : sep.toList = c :: rest) (ha : c ∉ a.toList) (hb : c ∉ b.toList)
    (h : a ++ (sep ++ x) = b ++ (sep ++ y)) : a = b ∧ x = y := by
  have hchars := congrArg String.toList h
  simp only [String.toList_append, hsep, List.cons_append] at hchars
  have hab : a = b := by
    rw [← String.toList_inj, ← takeWhile_append_cons ha (rest ++ x.toList), hchars,
      takeWhile_append_cons hb]
  subst hab
  exact ⟨rfl, (String.append_right_inj sep).mp ((String.append_right_inj a).mp h)⟩

theorem repr_append_inj {m n : Nat} {sep x y : String} {c : Char} {rest : List Char}
    (hsep : sep.toList = c :: rest) (hc : ∀ d < 16, c ≠ Nat.digitChar d)
    (h : m.repr ++ (sep ++ x) = n.repr ++ (sep ++ y)) : m = n ∧ x = y := by
  obtain ⟨hmn, hxy⟩ := append_inj_of_notMem hsep (notMem_repr hc m) (notMem_repr hc n) h
  exact ⟨Nat.repr_injective hmn, hxy⟩

/-- Entries without a comma are told apart in a row of them. The induction is on what the row is
about, as both rows have an entry for each. -/
theorem eq_of_intercalate {α : Type} {f g : α → String} (hf : ∀ r, ',' ∉ (f r).toList)
    (hg : ∀ r, ',' ∉ (g r).toList) {rs : List α}
    (h : String.intercalate ", " (rs.map f) = String.intercalate ", " (rs.map g)) :
    ∀ r ∈ rs, f r = g r := by
  induction rs with
  | nil => exact nofun
  | cons r rs ih =>
    cases rs with
    | nil => simpa using h
    | cons s rs =>
      simp only [List.map_cons, String.intercalate_cons_cons, String.append_assoc] at h
      obtain ⟨hr, hrest⟩ := append_inj_of_notMem rfl (hf r) (hg r) h
      exact List.forall_mem_cons.mpr ⟨hr, ih (by simpa using hrest)⟩

end Text

namespace Word

/-- The number that a row of hexadecimal digits stands for. -/
def ofDigits (cs : List Char) : Nat :=
  cs.foldl (fun n c => 16 * n + if c.isDigit then c.toNat - 48 else c.toNat - 87) 0

theorem ofDigits_concat_digitChar (cs : List Char) {d : Nat} (h : d < 16) :
    ofDigits (cs ++ [Nat.digitChar d]) = 16 * ofDigits cs + d := by
  have hd : ∀ d < 16, (if (Nat.digitChar d).isDigit then (Nat.digitChar d).toNat - 48
      else (Nat.digitChar d).toNat - 87) = d := by decide
  rw [ofDigits, List.foldl_append, List.foldl_cons, List.foldl_nil, hd d h, ofDigits]

theorem ofDigits_toDigits (n : Nat) : ofDigits (Nat.toDigits 16 n) = n := by
  induction n using Nat.strongRecOn with
  | ind n ih =>
    rcases Nat.lt_or_ge n 16 with hlt | hge
    · rw [Nat.toDigits_of_lt_base hlt]
      simpa [ofDigits] using ofDigits_concat_digitChar [] hlt
    · rw [Nat.toDigits_of_base_le (by decide) hge,
        ofDigits_concat_digitChar _ (Nat.mod_lt n (by decide)), ih _ (by omega), Nat.div_add_mod]

theorem ofDigits_digits (w : Word) : ofDigits w.digits = w.toNat := ofDigits_toDigits _

theorem ofDigits_replicate_append (k : Nat) (cs : List Char) :
    ofDigits (List.replicate k '0' ++ cs) = ofDigits cs := by
  induction k with
  | zero => rfl
  | succ k ih =>
    rw [List.replicate_succ, List.cons_append]
    exact ih

theorem hex_injective {v w : Word} (h : v.hex = w.hex) : v = w := by
  have hdigits := congrArg ofDigits (String.ofList_injective ((String.append_right_inj _).mp h))
  rwa [ofDigits_digits, ofDigits_digits, UInt32.toNat_inj] at hdigits

theorem hexPadded_injective {v w : Word} (h : v.hexPadded = w.hexPadded) : v = w := by
  have hdigits := congrArg ofDigits (String.ofList_injective ((String.append_right_inj _).mp h))
  rwa [ofDigits_replicate_append, ofDigits_replicate_append, ofDigits_digits, ofDigits_digits,
    UInt32.toNat_inj] at hdigits

variable {c : Char}

theorem notMem_hex (hc : ∀ d < 16, c ≠ Nat.digitChar d) (hx : c ≠ 'x') (w : Word) :
    c ∉ w.hex.toList := by
  have hd := Text.notMem_toDigits (b := 16) (by decide) (by decide) hc w.toNat
  simpa [hex] using ⟨hc 0 (by decide), hx, hd⟩

theorem notMem_hexPadded (hc : ∀ d < 16, c ≠ Nat.digitChar d) (hx : c ≠ 'x') (w : Word) :
    c ∉ w.hexPadded.toList := by
  have hd := Text.notMem_toDigits (b := 16) (by decide) (by decide) hc w.toNat
  simpa [hexPadded] using ⟨hc 0 (by decide), hx, fun _ => hc 0 (by decide), hd⟩

theorem hex_append_inj {v w : Word} {sep x y : String} {rest : List Char}
    (hsep : sep.toList = c :: rest) (hc : ∀ d < 16, c ≠ Nat.digitChar d) (hx : c ≠ 'x')
    (h : v.hex ++ (sep ++ x) = w.hex ++ (sep ++ y)) : v = w ∧ x = y := by
  obtain ⟨hvw, hxy⟩ :=
    Text.append_inj_of_notMem hsep (notMem_hex hc hx v) (notMem_hex hc hx w) h
  exact ⟨hex_injective hvw, hxy⟩

end Word

theorem RegisterFile.lineText_injective {f g : RegisterFile} (h : f.lineText = g.lineText) :
    f = g := by
  have hcomma (file : RegisterFile) (r : Register) :
      ',' ∉ ("\"" ++ r.name ++ "\": " ++ Word.hex (file.get r)).toList := by
    have hname : ',' ∉ r.name.toList := by cases r <;> decide
    simpa [hname] using Word.notMem_hex (by decide) (by decide) (file.get r)
  have hrow := (String.append_right_inj _).mp ((String.append_left_inj _).mp h)
  refine ext_get fun r => Word.hex_injective ?_
  exact (String.append_right_inj _).mp (Text.eq_of_intercalate (hcomma f) (hcomma g) hrow r
    (List.mem_of_getElem? (Register.all_getElem?_index r)))

theorem Opcode.notMem_name (op : Opcode) : '(' ∉ op.name.toList := by
  cases op with
  | arithmetic op => cases op <;> decide
  | branch c => cases c <;> decide
  | _ => decide

theorem Opcode.name_injective {p q : Opcode} (h : p.name = q.name) : p = q := by
  have hall : ∀ p ∈ all, ∀ q ∈ all, p.name.toList = q.name.toList → p = q := by decide
  exact hall p (List.mem_of_getElem? (all_getElem?_code p)) q
    (List.mem_of_getElem? (all_getElem?_code q)) (congrArg String.toList h)

theorem Shortage.text_injective {s t : Shortage} (h : s.text = t.text) : s = t := by
  have hlength := congrArg String.length h
  cases s <;> cases t <;> first | rfl | exact absurd hlength (by decide)

theorem ExitStatus.notMem_name (s : ExitStatus) : ' ' ∉ s.name.toList := by
  cases s <;> decide

theorem ExitStatus.name_injective {s t : ExitStatus} (h : s.name = t.name) : s = t := by
  cases s <;> cases t <;> simp_all [name]

namespace Fault

open Text

/-- How the text of a fault begins, which tells the kind of the fault. -/
def opening : Fault → String
  | invalidOpcode _ => "invalid "
  | reservedBits _ => "reserved"
  | divisionByZero => "division"
  | invalidRegister _ => "register"
  | memoryOutOfBounds _ _ => "memory a"
  | invalidBuiltin _ _ => "builtin "
  | stackOverflow _ _ => "stack po"
  | misalignedImage _ => "program "
  | memoryTooLarge _ _ => "memory o"
  | allocation _ => "failed t"
  | io _ => "I/O erro"

theorem take_toList_of_hasText {e : Fault} {t : String} (h : e.HasText t) :
    t.toList.take 8 = e.opening.toList := by
  cases h with
  | divisionByZero => decide
  | _ =>
    simp only [String.append_assoc, opening]
    rw [String.toList_append, List.take_append_of_le_length (by decide)]
    decide

theorem eq_of_hasText {e e' : Fault} {t t' : String} (h : e.HasText t) (h' : e'.HasText t')
    (ht : t = t') : e = e' := by
  have hopening : e.opening = e'.opening := by
    rw [← String.toList_inj, ← take_toList_of_hasText h, ht, take_toList_of_hasText h']
  cases h with
  | invalidOpcode code =>
    cases h' with
    | invalidOpcode code' =>
      rw [String.append_right_inj] at ht
      exact congrArg invalidOpcode (UInt8.toNat_inj.mp (Nat.repr_injective ht))
    | _ => simp [opening] at hopening
  | reservedBits word =>
    cases h' with
    | reservedBits word' =>
      rw [String.append_right_inj] at ht
      exact congrArg reservedBits (Word.hexPadded_injective ht)
    | _ => simp [opening] at hopening
  | divisionByZero =>
    cases h' with
    | divisionByZero => rfl
    | _ => simp [opening] at hopening
  | invalidRegister index =>
    cases h' with
    | invalidRegister index' =>
      rw [String.append_left_inj, String.append_right_inj] at ht
      exact congrArg invalidRegister (UInt8.toNat_inj.mp (Nat.repr_injective ht))
    | _ => simp [opening] at hopening
  | memoryOutOfBounds address length =>
    cases h' with
    | memoryOutOfBounds address' length' =>
      simp only [String.append_assoc, String.append_right_inj] at ht
      obtain ⟨rfl, hlength⟩ := Word.hex_append_inj rfl (by decide) (by decide) ht
      exact congrArg _ (Nat.repr_injective ((String.append_left_inj _).mp hlength))
    | _ => simp [opening] at hopening
  | invalidBuiltin index length =>
    cases h' with
    | invalidBuiltin index' length' =>
      simp only [String.append_assoc, String.append_right_inj] at ht
      obtain ⟨hindex, hlength⟩ := repr_append_inj rfl (by decide) ht
      obtain rfl := UInt32.toNat_inj.mp hindex
      exact congrArg _ (Nat.repr_injective ((String.append_left_inj _).mp hlength))
    | _ => simp [opening] at hopening
  | stackOverflow sp length =>
    cases h' with
    | stackOverflow sp' length' =>
      simp only [String.append_assoc, String.append_right_inj] at ht
      obtain ⟨rfl, hlength⟩ := Word.hex_append_inj rfl (by decide) (by decide) ht
      exact congrArg _ (Nat.repr_injective ((String.append_left_inj _).mp hlength))
    | _ => simp [opening] at hopening
  | misalignedImage bytes =>
    cases h' with
    | misalignedImage bytes' =>
      rw [String.append_left_inj, String.append_right_inj] at ht
      exact congrArg misalignedImage (Nat.repr_injective ht)
    | _ => simp [opening] at hopening
  | memoryTooLarge program stack =>
    cases h' with
    | memoryTooLarge program' stack' =>
      simp only [String.append_assoc, String.append_right_inj] at ht
      obtain ⟨rfl, hstack⟩ := repr_append_inj rfl (by decide) ht
      exact congrArg _ (Nat.repr_injective ((String.append_left_inj _).mp hstack))
    | _ => simp [opening] at hopening
  | allocation cause =>
    cases h' with
    | allocation cause' =>
      exact congrArg allocation (Shortage.text_injective ((String.append_right_inj _).mp ht))
    | _ => simp [opening] at hopening
  | io text =>
    cases h' with
    | io text' => exact congrArg io ((String.append_right_inj _).mp ht)
    | _ => simp [opening] at hopening

end Fault

namespace Event

open Text

/-- Events with one line are one event, but for what a builtin reports of its own. -/
theorem eq_of_hasLine {e e' : Event} {l l' : Log.Entry} (he : ∀ entry, e ≠ .reported entry)
    (he' : ∀ entry, e' ≠ .reported entry) (h : e.HasLine l) (h' : e'.HasLine l') (hl : l = l') :
    e = e' := by
  have hlevel := congrArg Log.Entry.level hl
  have ht := congrArg Log.Entry.text hl
  have hhead := congrArg (fun t : String => t.toList.head?) ht
  cases h with
  | reported entry => exact absurd rfl (he _)
  | created program memory entry =>
    cases h' with
    | reported entry => exact absurd rfl (he' _)
    | created program' memory' entry' =>
      simp only [String.append_assoc, String.append_right_inj] at ht
      obtain ⟨rfl, hmemory⟩ := repr_append_inj rfl (by decide) ht
      obtain ⟨rfl, hentry⟩ := repr_append_inj rfl (by decide) hmemory
      exact congrArg _ (UInt32.toNat_inj.mp (Nat.repr_injective hentry))
    | fetched | failed => cases hlevel
    | called | halted => simp at hhead
  | fetched op word address registers =>
    cases h' with
    | reported entry => exact absurd rfl (he' _)
    | fetched op' word' address' registers' =>
      simp only [String.append_assoc] at ht
      obtain ⟨hop, hrest⟩ := append_inj_of_notMem rfl op.notMem_name op'.notMem_name ht
      obtain ⟨hword, hrest⟩ := append_inj_of_notMem rfl
        (Word.notMem_hexPadded (by decide) (by decide) word)
        (Word.notMem_hexPadded (by decide) (by decide) word') hrest
      obtain ⟨haddress, hregisters⟩ := repr_append_inj rfl (by decide) hrest
      obtain rfl := Opcode.name_injective hop
      obtain rfl := Word.hexPadded_injective hword
      obtain rfl := UInt32.toNat_inj.mp haddress
      exact congrArg _ (RegisterFile.lineText_injective hregisters)
    | created | called | halted | failed => cases hlevel
  | called index name =>
    cases h' with
    | reported entry => exact absurd rfl (he' _)
    | called index' name' =>
      simp only [String.append_assoc, String.append_right_inj] at ht
      obtain ⟨hindex, hname⟩ := repr_append_inj rfl (by decide) ht
      obtain rfl := UInt32.toNat_inj.mp hindex
      exact congrArg _ ((String.append_left_inj _).mp hname)
    | fetched | failed => cases hlevel
    | created | halted => simp at hhead
  | halted address =>
    cases h' with
    | reported entry => exact absurd rfl (he' _)
    | halted address' =>
      have haddress := Nat.repr_injective ((String.append_right_inj _).mp ht)
      exact congrArg halted (UInt32.toNat_inj.mp haddress)
    | fetched | failed => cases hlevel
    | created | called => simp at hhead
  | failed status ip htext =>
    cases h' with
    | reported entry => exact absurd rfl (he' _)
    | failed status' ip' htext' =>
      simp only [String.append_assoc, String.append_right_inj] at ht
      obtain ⟨hstatus, hrest⟩ := append_inj_of_notMem rfl status.notMem_name status'.notMem_name ht
      obtain ⟨hip, hfault⟩ := repr_append_inj rfl (by decide) hrest
      obtain rfl := ExitStatus.name_injective hstatus
      obtain rfl := UInt32.toNat_inj.mp hip
      exact congrArg _ (Fault.eq_of_hasText htext htext' hfault)
    | created | fetched | called | halted => cases hlevel

end Event
end WordMachine
