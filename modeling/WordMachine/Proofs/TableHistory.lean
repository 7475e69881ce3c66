import Mathlib.Data.List.Induction
import WordMachine.Builtin.Kit
import WordMachine.Builtin.Standard

/-! Registrations and calls on a table, in any order. An entry stays where it was registered, and
only its own calls change what it has captured. -/
namespace WordMachine.Builtin

variable {σ : Type}

/-- What is done with a table. A call gets the registers and the memory of its time. -/
inductive Operation (σ : Type)
  | register (b : Builtin σ)
  | call (k : Word) (file : RegisterFile) (mem : Memory)

def registrations : List (Operation σ) → List (Builtin σ)
  | [] => []
  | .register b :: ops => b :: registrations ops
  | .call _ _ _ :: ops => registrations ops

/-- What the entry at `k` is called with by operations on a table of `n` entries. A call with this
index before there is an entry is not one of its calls. -/
def callsOf (k : Word) : Nat → List (Operation σ) → List (RegisterFile × Memory)
  | _, [] => []
  | n, .register _ :: ops => callsOf k (n + 1) ops
  | n, .call k' file mem :: ops =>
    if k' = k ∧ k.toNat < n then (file, mem) :: callsOf k n ops else callsOf k n ops

def afterCalls (b : Builtin σ) (args : List (RegisterFile × Memory)) : Builtin σ :=
  args.foldl (fun b arg => b.capture (b.invoke arg.1 arg.2).captured) b

section Histories

variable {ops ops' : List (Operation σ)} {k : Word} {n : Nat}

theorem registrations_append :
    registrations (ops ++ ops') = registrations ops ++ registrations ops' := by
  induction ops with
  | nil => rfl
  | cons op ops ih =>
    cases op with
    | register b => exact congrArg (b :: ·) ih
    | call k file mem => exact ih

theorem callsOf_append : callsOf k n (ops ++ ops') =
    callsOf k n ops ++ callsOf k (n + (registrations ops).length) ops' := by
  induction ops generalizing n with
  | nil => rfl
  | cons op ops ih =>
    cases op with
    | register b =>
      have hlen : n + (registrations (.register b :: ops)).length =
          n + 1 + (registrations ops).length := by
        rw [registrations, List.length_cons]
        omega
      rw [hlen]
      exact ih
    | call k' file mem =>
      simp only [List.cons_append, callsOf, registrations]
      split
      · rw [ih, List.cons_append]
      · exact ih

theorem callsOf_eq_nil (h : n + (registrations ops).length ≤ k.toNat) : callsOf k n ops = [] := by
  induction ops generalizing n with
  | nil => rfl
  | cons op ops ih =>
    cases op with
    | register b =>
      refine ih ?_
      rw [registrations, List.length_cons] at h
      omega
    | call k' file mem =>
      have hle : n ≤ k.toNat := Nat.le_of_add_right_le h
      rw [callsOf, if_neg fun hown => Nat.not_lt.mpr hle hown.2]
      exact ih h

end Histories

section Calls

variable (b : Builtin σ) (args args' : List (RegisterFile × Memory))

@[simp] theorem name_afterCalls : (b.afterCalls args).name = b.name := by
  induction args generalizing b with
  | nil => rfl
  | cons arg args ih => exact ih (b.capture _)

@[simp] theorem map_afterCalls_nil (o : Option (Builtin σ)) : o.map (·.afterCalls []) = o := by
  cases o <;> rfl

theorem afterCalls_append : b.afterCalls (args ++ args') = (b.afterCalls args).afterCalls args' :=
  List.foldl_append

end Calls

namespace Table

/-- The table after an operation. A call that fails leaves it as it is. -/
def after (t : Table σ) : Operation σ → Table σ
  | .register b => (t.register b).1
  | .call k file mem =>
    match t.call k file mem with
    | .ok c => c.table
    | .error _ => t

def afterAll (t : Table σ) (ops : List (Operation σ)) : Table σ := ops.foldl after t

def registered (t : Table σ) (ops : List (Operation σ)) : List (Builtin σ) :=
  t.entries ++ registrations ops

/-- The call of the index `k` on the table `t` has invoked the callable `b` at this index, and has
touched no other. -/
structure InvokesOnly (t : Table σ) (k : Word) (b : Builtin σ) (file : RegisterFile) (mem : Memory)
    (c : Call σ) : Prop where
  value : c.value = (b.invoke file mem).value
  registers : c.registers = (b.invoke file mem).registers
  memory : c.memory = (b.invoke file mem).memory
  events : c.events = .called k b.name :: (b.invoke file mem).log.map .reported
  entry : c.table.entries[k.toNat]? = some (b.capture (b.invoke file mem).captured)
  others : ∀ i, i ≠ k.toNat → c.table.entries[i]? = t.entries[i]?

variable {t t' : Table σ} {ops : List (Operation σ)} {k : Word} {b : Builtin σ}
  {file : RegisterFile} {mem : Memory}

@[simp] theorem registered_nil (t : Table σ) : t.registered [] = t.entries := List.append_nil _

@[simp] theorem registered_call (t : Table σ) (k : Word) (file : RegisterFile) (mem : Memory) :
    t.registered [.call k file mem] = t.entries := List.append_nil _

theorem registered_append (t : Table σ) (ops ops' : List (Operation σ)) :
    t.registered (ops ++ ops') = t.registered ops ++ registrations ops' := by
  rw [registered, registrations_append, ← List.append_assoc, registered]

theorem length_registered (t : Table σ) (ops : List (Operation σ)) :
    (t.registered ops).length = t.length + (registrations ops).length :=
  List.length_append

theorem exists_invokesOnly (h : t.entries[k.toNat]? = some b) (file : RegisterFile)
    (mem : Memory) :
    ∃ c, t.call k file mem = .ok c ∧ t.InvokesOnly k b file mem c := by
  have hlt : k.toNat < t.entries.length := (List.getElem?_eq_some_iff.mp h).1
  exact ⟨_, call_of_entry h file mem,
    { value := rfl
      registers := rfl
      memory := rfl
      events := rfl
      entry := List.getElem?_set_self hlt
      others := fun i hi => List.getElem?_set_ne hi.symm }⟩

theorem after_call_of_le (h : t.length ≤ k.toNat) : t.after (.call k file mem) = t := by
  rw [after, call_eq_error_iff.mpr ⟨h, rfl⟩]

theorem entry_after (t : Table σ) (op : Operation σ) (k : Word) :
    (t.after op).entries[k.toNat]? =
      (t.registered [op])[k.toNat]?.map (·.afterCalls (callsOf k t.length [op])) := by
  cases op with
  | register b =>
    exact (map_afterCalls_nil _).symm
  | call k' file mem =>
    rw [registered_call, callsOf, callsOf]
    cases hb : t.entries[k'.toNat]? with
    | none =>
      have hle : t.length ≤ k'.toNat := List.getElem?_eq_none_iff.mp hb
      -- a call that fails is nobody's own
      have hown : ¬(k' = k ∧ k.toNat < t.length) := by
        rintro ⟨rfl, hlt⟩
        exact Nat.not_lt.mpr hle hlt
      rw [after_call_of_le hle, if_neg hown, map_afterCalls_nil]
    | some b =>
      obtain ⟨c, hc, hinv⟩ := exists_invokesOnly hb file mem
      have hafter : t.after (.call k' file mem) = c.table := by rw [after, hc]
      rw [hafter]
      by_cases hk : k' = k
      · subst hk
        rw [if_pos ⟨rfl, (List.getElem?_eq_some_iff.mp hb).1⟩, hinv.entry, hb]
        rfl
      · have hne : k.toNat ≠ k'.toNat := fun he => hk (UInt32.toNat_inj.mp he).symm
        rw [if_neg fun hown => hk hown.1, hinv.others _ hne, map_afterCalls_nil]

theorem length_after (t : Table σ) (op : Operation σ) :
    (t.after op).length = (t.registered [op]).length := by
  cases op with
  | register b => rfl
  | call k file mem =>
    rw [registered_call, after]
    split
    · rename_i c hc
      exact length_of_call hc
    · rfl

theorem afterAll_concat (t : Table σ) (ops : List (Operation σ)) (op : Operation σ) :
    t.afterAll (ops ++ [op]) = (t.afterAll ops).after op := List.foldl_append

theorem length_afterAll (t : Table σ) (ops : List (Operation σ)) :
    (t.afterAll ops).length = (t.registered ops).length := by
  induction ops using List.reverseRecOn with
  | nil =>
    rw [registered_nil]
    rfl
  | append_singleton ops op ih =>
    rw [afterAll_concat, length_after, length_registered, ih, registered_append, List.length_append]

/-- Each entry is the builtin that was registered there, after its own calls. The induction is on
the operations so far: an entry that the last one registers has had no calls. -/
theorem entry_afterAll (t : Table σ) (ops : List (Operation σ)) (k : Word) :
    (t.afterAll ops).entries[k.toNat]? =
      (t.registered ops)[k.toNat]?.map (·.afterCalls (callsOf k t.length ops)) := by
  induction ops using List.reverseRecOn with
  | nil =>
    rw [registered_nil, callsOf, map_afterCalls_nil]
    rfl
  | append_singleton ops op ih =>
    have hlen := length_afterAll t ops
    rw [afterAll_concat, entry_after, registered_append, callsOf_append, ← length_registered,
      ← hlen, registered]
    -- an entry that is there has the last call after its earlier ones; a new entry has had none
    by_cases hk : k.toNat < (t.afterAll ops).length
    · rw [List.getElem?_append_left hk, ih, List.getElem?_append_left (hlen ▸ hk), Option.map_map]
      simp only [afterCalls_append, Function.comp_def]
    · have hle : (t.afterAll ops).length ≤ k.toNat := Nat.not_lt.mp hk
      have hnone : callsOf k t.length ops = [] :=
        callsOf_eq_nil (by rw [← length_registered, ← hlen]; exact hle)
      rw [List.getElem?_append_right hle, List.getElem?_append_right (hlen ▸ hle), hnone,
        List.nil_append, ← hlen]
      rfl

theorem name?_afterAll (t : Table σ) (ops : List (Operation σ)) (k : Word) :
    (t.afterAll ops).name? k = (t.registered ops)[k.toNat]?.map (·.name) := by
  rw [name?, entry_afterAll, Option.map_map]
  simp only [Function.comp_def, name_afterCalls]

theorem getElem?_registered_register (t : Table σ) (b : Builtin σ) (ops : List (Operation σ)) :
    ((t.register b).1.registered ops)[t.length]? = some b := by
  have hreg : (t.register b).1.registered ops = t.entries ++ b :: registrations ops :=
    List.append_assoc ..
  rw [hreg, length, List.getElem?_append_right (Nat.le_refl _), Nat.sub_self]
  rfl

/-- Whatever has been registered and called, the table has the builtins of the start and those that
were registered, in this order. A registration gives the number of entries before it, if that is a
word, and from then on the index stays with the name and the callable. A call of an entry invokes
its callable, as its own earlier calls have left it, with the registers and the memory of the call,
and touches no other entry; a call past the end is refused and changes nothing. So a callable with
the same own calls behind it gives the same in any other table, whatever else has happened there. -/
theorem entries_keep_to_themselves (h : t.afterAll ops = t') :
    t'.length = (t.registered ops).length ∧
    (∀ b, t'.length < Word.addressSpace → ∃ k, (t'.register b).2 = k ∧ k.toNat = t'.length ∧
      ∀ later t'', (t'.register b).1.afterAll later = t'' →
        t''.name? k = some b.name ∧
        t''.entries[k.toNat]? = some (b.afterCalls (callsOf k (t'.length + 1) later))) ∧
    (∀ k, t'.name? k = (t.registered ops)[k.toNat]?.map (·.name)) ∧
    (∀ k file mem, k.toNat < t'.length → ∃ b c, (t.registered ops)[k.toNat]? = some b ∧
      t'.call k file mem = .ok c ∧
      t'.InvokesOnly k (b.afterCalls (callsOf k t.length ops)) file mem c) ∧
    (∀ k file mem, t'.length ≤ k.toNat →
      t'.call k file mem = .error (.invalidBuiltin k t'.length) ∧
      t'.after (.call k file mem) = t') ∧
    (∀ (u u' : Table σ) ops' k j b file mem, u.afterAll ops' = u' →
      (t.registered ops)[k.toNat]? = some b → (u.registered ops')[j.toNat]? = some b →
      callsOf k t.length ops = callsOf j u.length ops' →
      ∃ c d, t'.call k file mem = .ok c ∧ u'.call j file mem = .ok d ∧
        c.value = d.value ∧ c.registers = d.registers ∧ c.memory = d.memory) := by
  subst h
  have hlen := length_afterAll t ops
  refine ⟨hlen, fun b hlt => ?_, name?_afterAll t ops, fun k file mem hk => ?_,
    fun k file mem hk => ⟨call_eq_error_iff.mpr ⟨hk, rfl⟩, after_call_of_le hk⟩, ?_⟩
  · have hindex : (UInt32.ofNat (t.afterAll ops).length).toNat = (t.afterAll ops).length :=
      UInt32.toNat_ofNat_of_lt' hlt
    refine ⟨_, rfl, hindex, ?_⟩
    rintro later _ rfl
    have hb := getElem?_registered_register (t.afterAll ops) b later
    rw [← hindex] at hb
    rw [name?_afterAll, entry_afterAll, length_register]
    exact ⟨congrArg (Option.map (·.name)) hb, congrArg (Option.map _) hb⟩
  · obtain ⟨b, hb⟩ : ∃ b, (t.registered ops)[k.toNat]? = some b :=
      ⟨_, List.getElem?_eq_getElem (hlen ▸ hk)⟩
    have hentry := entry_afterAll t ops k
    rw [hb] at hentry
    obtain ⟨c, hc, hinv⟩ := exists_invokesOnly hentry file mem
    exact ⟨b, c, hb, hc, hinv⟩
  · rintro u _ ops' k j b file mem rfl hb hb' hcalls
    have hentry := entry_afterAll t ops k
    have hentry' := entry_afterAll u ops' j
    rw [hb] at hentry
    rw [hb', ← hcalls] at hentry'
    obtain ⟨c, hc, hinv⟩ := exists_invokesOnly hentry file mem
    obtain ⟨d, hd, hinv'⟩ := exists_invokesOnly hentry' file mem
    exact ⟨c, d, hc, hd, hinv.value.trans hinv'.value.symm,
      hinv.registers.trans hinv'.registers.symm, hinv.memory.trans hinv'.memory.symm⟩

def countingHistory : List (Operation Word) :=
  [.call 3 .zeros (.zeros 4), .register (Kit.counter "count" 5), .call 1 .zeros (.zeros 4),
    .call 3 .zeros (.zeros 4), .register (Kit.assign "assign" .r1 7), .call 4 .zeros (.zeros 4),
    .call 3 .zeros (.zeros 4), .call 5 .zeros (.zeros 4)]

theorem counter_keeps_to_itself : ∃ t u : Table Word,
    Table.standard.afterAll countingHistory = t ∧
    ({} : Table Word).afterAll [.register (Kit.counter "count" 5), .call 0 .zeros (.zeros 4),
      .call 0 .zeros (.zeros 4)] = u ∧
    t.length = 5 ∧ t.name? 3 = some "count" ∧ t.name? 5 = none ∧
    (t.register (Kit.constant "six" 6)).2 = 5 ∧
    ((t.register (Kit.constant "six" 6)).1.after (.call 3 .zeros (.zeros 4))).name? 5 =
      some "six" ∧
    t.call 5 .zeros (.zeros 4) = .error (.invalidBuiltin 5 5) ∧
    ∃ c d, t.call 3 .zeros (.zeros 4) = .ok c ∧ u.call 0 .zeros (.zeros 4) = .ok d ∧
      c.value = 8 ∧ d.value = 8 := by
  obtain ⟨t, ht⟩ : ∃ t, Table.standard.afterAll countingHistory = t := ⟨_, rfl⟩
  obtain ⟨u, hu⟩ : ∃ u, ({} : Table Word).afterAll [.register (Kit.counter "count" 5),
    .call 0 .zeros (.zeros 4), .call 0 .zeros (.zeros 4)] = u := ⟨_, rfl⟩
  obtain ⟨hlen, hregister, hname, hcall, herror, hsame⟩ := entries_keep_to_themselves ht
  obtain ⟨k, hk, hindex, hlater⟩ := hregister (Kit.constant "six" 6) (by rw [hlen]; decide)
  obtain rfl : k = 5 := UInt32.toNat_inj.mp (hindex.trans hlen)
  obtain ⟨b, c, hb, hc, hinv⟩ := hcall 3 .zeros (.zeros 4) (by rw [hlen]; decide)
  obtain rfl : Kit.counter "count" 5 = b := Option.some.inj hb
  have hvalue : c.value = 8 := hinv.value
  obtain ⟨c', d, hc', hd, hsame, -⟩ := hsame {} u _ 3 0 _ .zeros (.zeros 4) hu hb rfl rfl
  obtain rfl : c = c' := Except.ok.inj (hc.symm.trans hc')
  have hfull := (herror 5 .zeros (.zeros 4) (by rw [hlen]; decide)).1
  rw [hlen] at hfull
  exact ⟨t, u, ht, hu, hlen, hname 3, hname 5, hk, (hlater [.call 3 .zeros (.zeros 4)] _ rfl).1,
    hfull, c, d, hc, hd, hvalue, hsame.symm.trans hvalue⟩

end Table
end WordMachine.Builtin
