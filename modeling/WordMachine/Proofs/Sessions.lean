import WordMachine.CommandLine.Session
import WordMachine.Proofs.ImageCodec
import WordMachine.Proofs.Lifecycle

/-! A session adds nothing to the machine that it runs: it prints what the machine has written, and
its code tells how the machine has ended. Without a machine it prints nothing and is a failure. -/
namespace WordMachine.CommandLine

/-- The code is the one for how a machine has ended. -/
structure CodeTells (code : UInt8) (s : State) : Prop where
  status : ∃ status, s.exitStatus? = some status ∧ code = status.code
  zero : code = 0 ↔ s = .halted
  one : code = 1 ↔ s = .failed .fail
  two : code = 2 ↔ s = .failed .overflow
  three : code = 3 ↔ s = .failed .illegal

theorem codeTells_halted : CodeTells ExitStatus.success.code .halted where
  status := ⟨.success, rfl, rfl⟩
  zero := by decide
  one := by decide
  two := by decide
  three := by decide

theorem codeTells_failed (e : Fault) : CodeTells e.status.code (.failed e.status) := by
  have hne := e.status_ne_success
  generalize e.status = status at hne
  cases status with
  | success => exact absurd rfl hne
  | fail | overflow | illegal =>
    exact { status := ⟨_, rfl, rfl⟩
            zero := by decide, one := by decide, two := by decide, three := by decide }

namespace Session

variable {o : Options} {shows : Notice → Bool} {around : Surroundings} {limit : Nat}

/-- The session is over without a machine: it has failed, and nothing is printed. -/
def Refused (r : Option Report) : Prop :=
  ∃ report, r = some report ∧ report.code = 1 ∧ report.output = []

/-- What a session gives when a run of its machine gives that: nothing before the machine has ended,
and then what the machine has written, with a code for how it has ended. -/
inductive Tells : Option Report → Option (Machine.Outcome Unit ExitStatus) → Prop
  | unfinished : Tells none none
  | finished {report : Report} {result : Except Fault ExitStatus} {m : Machine Unit}
      (code : CodeTells report.code m.state) (output : report.output = m.console.written) :
      Tells (some report) (some (result, m))

/-- What a session says at its end fits the end of the machine. -/
theorem codeTells_conclude {result : Except Fault ExitStatus} {s : State}
    (h : (Reply.run result).Ends s) (registers : RegisterFile) :
    CodeTells (conclude result registers).1.code s := by
  cases h with
  | runFailed e => exact codeTells_failed e
  | runHalted => exact codeTells_halted

theorem refused_of_prepare {notices : List Notice}
    (h : prepare o around.source around.room { input := around.stdin } = .error notices) :
    Refused (run o shows around limit) := by
  rw [run, h]
  exact ⟨_, rfl, rfl, rfl⟩

theorem refused_of_load {e : Fault} (h : load around.source o.image = .error e) :
    Refused (run o shows around limit) :=
  refused_of_prepare (by rw [prepare, h])

theorem refused_of_build {program : List Word} {e : Fault}
    (hl : load around.source o.image = .ok program)
    (hb : Memory.build around.room program o.config.stackWords = .error e) :
    Refused (run o shows around limit) := by
  have hprepare : prepare o around.source around.room { input := around.stdin } =
      .error [.loaded program.length o.image,
        .noMemory program.length o.config.stackWords e] := by
    simp only [prepare, hl, hb]
  exact refused_of_prepare hprepare

theorem load_eq_of_source (source : ImageSource) {path : String} {x : Except Fault (List UInt8)}
    (h : source path = x) : load source path = x >>= Image.parse := by
  rw [load, h]

theorem tells_of_build {program : List Word} {mem : Memory} {m : Machine Unit}
    (hl : load around.source o.image = .ok program)
    (hb : Memory.build around.room program o.config.stackWords = .ok mem)
    (hm : .ofMemory mem o.entry o.config { input := around.stdin } = m) :
    Tells (run o shows around limit) (m.runWithin limit) := by
  obtain ⟨notices, hprepare⟩ : ∃ notices,
      prepare o around.source around.room { input := around.stdin } =
        .ok ⟨m, notices⟩ := by
    simp only [prepare, hl, hb, hm]
    exact ⟨_, rfl⟩
  have hr : m.state = .running := by rw [← hm]; rfl
  simp only [run, hprepare]
  cases hrun : m.runWithin limit with
  | none => exact .unfinished
  | some o' =>
    obtain ⟨result, m'⟩ := o'
    exact .finished (codeTells_conclude (Machine.ends_of_runWithin hr hrun) _) rfl

/-- A session is asked for an image and what to run it with. Without a readable image of whole words
that fits the address space with its stack, and without room for them, it prints nothing and is a
failure. Else it prints what the machine has written that the library makes of all that, on an input
that may fail, be interrupted, or go on after its end; and its code tells how the machine has ended,
as soon as the machine has. What is shown of the log makes no difference. -/
theorem session_tells_machine (o : Options) (shows : Notice → Bool) (around : Surroundings)
    (limit : Nat) :
    (∀ e, around.source o.image = .error e → Refused (run o shows around limit)) ∧
    ∀ bytes, around.source o.image = .ok bytes →
      (¬4 ∣ bytes.length ∨ Word.addressSpace < bytes.length / 4 + o.stackWords →
        Refused (run o shows around limit)) ∧
      (4 ∣ bytes.length → bytes.length / 4 + o.stackWords ≤ Word.addressSpace →
        ∃ program mem, Image.parse bytes = .ok program ∧
          Memory.ofProgram program o.stackWords = .ok mem ∧
          (around.room < mem.length → Refused (run o shows around limit)) ∧
          (mem.length ≤ around.room → ∀ m : Machine Unit,
            .ofMemory mem o.entry
              { stackWords := o.stackWords
                stackGuard := !o.noStackGuard
                storeBuiltinResult := o.storeBuiltinResult }
              { input := around.stdin } = m →
            Tells (run o shows around limit) (m.runWithin limit))) := by
  refine ⟨fun e he => refused_of_load (load_eq_of_source _ he), fun bytes hbytes => ?_⟩
  have hload := load_eq_of_source _ hbytes
  by_cases hdvd : 4 ∣ bytes.length
  · obtain ⟨program, rfl⟩ := Image.exists_eq_encode hdvd
    have hparse := Image.parse_encode program
    have hlen : (Image.encode program).length / 4 = program.length := by
      rw [Image.length_encode, Nat.mul_div_cancel_left _ (by decide)]
    have hl : load around.source o.image = .ok program := hload.trans hparse
    rw [hlen]
    refine ⟨fun h => ?_, fun _ hfit => ?_⟩
    · exact refused_of_build hl
        (Memory.build_of_addressSpace_lt _ (h.resolve_left fun hn => hn hdvd))
    · obtain ⟨mem, hmem⟩ := Memory.exists_ofProgram hfit
      refine ⟨program, mem, hparse, hmem, ?_⟩
      rw [Memory.length_of_ofProgram hmem]
      exact ⟨fun hroom => refused_of_build hl (Memory.build_of_room_lt hroom hfit),
        fun hroom m hm => tells_of_build hl ((Memory.build_of_le hroom).trans hmem) hm⟩
  · exact ⟨fun _ => refused_of_load (hload.trans (Image.parse_of_not_dvd hdvd)),
      fun h => absurd h hdvd⟩

/-- An image of a program that prints what it reads, without end, on a host with room for five
words. Its input is interrupted, ends, goes on, and fails. -/
def echoSurroundings : Surroundings where
  source _ := .ok [0xD0, 0, 1, 0, 0xE0, 0, 1, 0, 0xA8, 0, 0, 0, 0, 0, 0, 0]
  room := 5
  stdin := [.interrupted, .byte 65, .endOfInput, .byte 66, .failed "gone"]

def echoMachine : Machine Unit :=
  .ofMemory { cells := #[0xD0000100, 0xE0000100, 0xA8000000, 0, 0], programLength := 4 } 0
    { stackWords := 1 } { input := echoSurroundings.stdin }

theorem echo_told :
    ∃ report, run { image := "echo.img", stackWords := 1 } (fun _ => false) echoSurroundings 10 =
        some report ∧
      report.code = 1 ∧ report.output = [65, 255, 66] := by
  obtain ⟨-, himage⟩ := session_tells_machine { image := "echo.img", stackWords := 1 }
    (fun _ => false) echoSurroundings 10
  obtain ⟨program, mem, hparse, hmem, -, htells⟩ := (himage _ rfl).2 (by decide) (by decide)
  obtain rfl : [0xD0000100, 0xE0000100, 0xA8000000, 0] = program :=
    Except.ok.inj (by rw [← hparse]; rfl)
  obtain rfl : echoMachine.memory = mem := Except.ok.inj (by rw [← hmem]; rfl)
  obtain ⟨m, hrun, hstate, hwritten⟩ : ∃ m,
      echoMachine.runWithin 10 = some (.error (.io "gone"), m) ∧ m.state = .failed .fail ∧
        m.console.written = [65, 255, 66] := ⟨_, by rfl, by rfl, by rfl⟩
  have h := htells (by decide) echoMachine rfl
  rw [hrun] at h
  generalize run _ _ echoSurroundings 10 = report? at h ⊢
  cases h with
  | finished code output => exact ⟨_, rfl, code.one.mpr hstate, output.trans hwritten⟩

end Session
end WordMachine.CommandLine
